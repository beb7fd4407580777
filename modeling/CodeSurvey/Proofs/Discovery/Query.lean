import CodeSurvey.Config.Basic
import CodeSurvey.Proofs.Text.Numeral
import CodeSurvey.Proofs.Url.Form

/-! What a request says to a service that reads its query. -/

namespace CodeSurvey.Discovery

open Text.Utf8 (encode encode_append encode_eq_flatMap)
open Url (Field Literal Reads isLiteral fieldOf pairOf pairsOf queryOf)

theorem literal_nat (n : Nat) : Literal (toString n).toList :=
  fun _ h => Url.isLiteral_of_isDigit (Text.isDigit_of_mem_nat h)

theorem literal_int (z : Int) : Literal (toString z).toList := by
  intro c hc
  rcases Text.isDigit_or_minus_of_mem_int hc with h | rfl
  · exact Url.isLiteral_of_isDigit h
  · rfl

theorem mem_dropSlashEnd {c : Char} {p : String} (h : c ∈ (Path.dropSlashEnd p).toList) :
    c ∈ p.toList := by
  rw [Path.dropSlashEnd, String.toList_ofList, List.mem_reverse] at h
  exact List.mem_reverse.1 ((List.dropWhile_sublist _).subset h)

namespace Request

variable (r : Request)

def options : List Field :=
  [("sort", "stars"), ("order", "desc"), ("per_page", toString r.perPage),
    ("page", toString r.window.page)]

def asked : List Field :=
  ("q", "language:" ++ r.language ++ " stars:" ++ r.window.range) :: r.options

def search : List Char :=
  "language:".toList ++ (r.language.toList ++ '+' :: ("stars:" ++ r.window.range).toList)

theorem toList_query :
    r.query.toList = "q".toList ++ '=' :: r.search ++
      r.options.flatMap fun f => '&' :: (f.1.toList ++ '=' :: f.2.toList) := by
  unfold query search options
  simp only [String.toList_append, List.flatMap_cons, List.flatMap_nil, String.reduceToList,
    List.append_assoc, List.cons_append, List.nil_append, List.append_nil]

theorem literal_options : ∀ f ∈ r.options, Literal f.1.toList ∧ Literal f.2.toList := by
  intro f hf
  simp only [options, List.mem_cons, List.not_mem_nil, or_false] at hf
  rcases hf with rfl | rfl | rfl | rfl
  · decide
  · decide
  · exact ⟨show Literal "per_page".toList by decide, literal_nat r.perPage⟩
  · exact ⟨show Literal "page".toList by decide, literal_nat r.window.page⟩

theorem literal_stars : Literal ("stars:" ++ r.window.range).toList := by
  have hdots : Literal "..".toList := by decide
  have hname : Literal "stars:".toList := by decide
  simp only [Window.range, String.toList_append]
  exact hname.append (((literal_int _).append hdots).append (literal_int _))

theorem mem_of_mem_search {c : Char} (hc : isLiteral c = false) (hplus : c ≠ '+')
    (h : c ∈ r.search) : c ∈ r.language.toList := by
  have hname : Literal "language:".toList := by decide
  unfold search at h
  rcases List.mem_append.1 h with h | h
  · exact absurd h (hname.notMem hc)
  rcases List.mem_append.1 h with h | h
  · exact h
  rcases List.mem_cons.1 h with h | h
  · exact absurd h hplus
  · exact absurd h (r.literal_stars.notMem hc)

theorem asked_text : "language:" ++ r.language ++ " stars:" ++ r.window.range =
    "language:" ++ r.language ++ " " ++ ("stars:" ++ r.window.range) := by
  have hblank : " stars:" = " " ++ "stars:" := by decide
  simp only [hblank, String.append_assoc]

theorem fieldOf_search_iff :
    fieldOf r.search = encode ("language:" ++ r.language ++ " stars:" ++ r.window.range) ↔
      '+' ∉ r.language.toList ∧ Url.percentDecode (encode r.language) = encode r.language := by
  have hname : Literal "language:".toList := by decide
  rw [asked_text]
  exact Url.fieldOf_between_iff hname r.literal_stars r.language

theorem queryOf_url {service : String} (hquery : '?' ∉ service.toList)
    (hfragment : '#' ∉ service.toList) :
    queryOf (r.url service) = r.query.toList.takeWhile (· != '#') := by
  have hurl : (r.url service).toList =
      ((Path.dropSlashEnd service).toList ++ "/search/repositories".toList) ++
        '?' :: r.query.toList := by
    unfold url
    simp only [String.toList_append, String.reduceToList, List.append_assoc, List.cons_append,
      List.nil_append]
  have hfront : ∀ c ∉ service.toList, c ∉ "/search/repositories".toList →
      c ∉ (Path.dropSlashEnd service).toList ++ "/search/repositories".toList := by
    intro c hservice hpath hm
    rcases List.mem_append.1 hm with hm | hm
    · exact hservice (mem_dropSlashEnd hm)
    · exact hpath hm
  unfold queryOf
  rw [hurl, Text.cut_append_fst (hfront '#' hfragment (by decide)), Text.cut_fst,
    List.takeWhile_cons_of_pos (by decide), Text.cut_append_cons (hfront '?' hquery (by decide))]
  rfl

theorem mem_of_mem_query {c : Char} (hc : isLiteral c = false) (hplus : c ≠ '+') (heq : c ≠ '=')
    (hand : c ≠ '&') (h : c ∈ r.query.toList) : c ∈ r.language.toList := by
  have hname : Literal "q".toList := by decide
  rw [toList_query] at h
  rcases List.mem_append.1 h with h | h
  · rcases List.mem_append.1 h with h | h
    · exact absurd h (hname.notMem hc)
    · rcases List.mem_cons.1 h with h | h
      · exact absurd h heq
      · exact r.mem_of_mem_search hc hplus h
  · obtain ⟨f, hf, h⟩ := List.mem_flatMap.1 h
    rcases List.mem_cons.1 h with h | h
    · exact absurd h hand
    · exact absurd h (Url.notMem_of_literal (r.literal_options f hf) hc heq)

theorem pairsOf_url {service : String} (hquery : '?' ∉ service.toList)
    (hfragment : '#' ∉ service.toList) (hsharp : '#' ∉ r.language.toList)
    (hand : '&' ∉ r.language.toList) :
    pairsOf (r.url service) =
      (fieldOf "q".toList, fieldOf r.search) :: r.options.map Field.bytes := by
  have hwhole : r.query.toList.takeWhile (· != '#') = r.query.toList :=
    List.takeWhile_eq_self_iff.2 (Text.ne_of_notMem fun h =>
      hsharp (r.mem_of_mem_query rfl (by decide) (by decide) (by decide) h))
  have hpiece : '&' ∉ "q".toList ++ '=' :: r.search := by
    intro h
    rcases List.mem_append.1 h with h | h
    · exact absurd h (by decide)
    · rcases List.mem_cons.1 h with h | h
      · exact absurd h (by decide)
      · exact hand (r.mem_of_mem_search rfl (by decide) h)
  unfold pairsOf
  rw [r.queryOf_url hquery hfragment, hwhole, toList_query,
    Url.splitOn_fields hpiece r.literal_options, Url.pairOf_eq (by decide)]

theorem map_asked : r.asked.map Field.bytes =
    (encode "q", encode ("language:" ++ r.language ++ " stars:" ++ r.window.range)) ::
      r.options.map Field.bytes := rfl

theorem toList_query_language : ∃ rest, r.query.toList =
    ("q".toList ++ '=' :: "language:".toList) ++ (r.language.toList ++ rest) := by
  rw [toList_query]
  unfold search
  simp only [List.append_assoc, List.cons_append]
  exact ⟨_, rfl⟩

theorem not_reads_of_cut {service : String} (hquery : '?' ∉ service.toList)
    (hfragment : '#' ∉ service.toList)
    (hcut : '#' ∈ r.language.toList ∨ '&' ∈ r.language.toList) :
    ¬ Reads (r.url service) r.asked := by
  let kept : Char → Bool := fun c => decide ((c != '&') = true ∧ (c != '#') = true)
  have hstop : ∃ c ∈ r.language.toList, kept c = false := by
    rcases hcut with h | h
    · exact ⟨'#', h, rfl⟩
    · exact ⟨'&', h, rfl⟩
  have hfront : ∀ c ∈ "q".toList ++ '=' :: "language:".toList, kept c = true :=
    List.all_eq_true.1 (by decide)
  have hpiece : (queryOf (r.url service)).takeWhile (· != '&') =
      "q".toList ++ '=' :: ("language:".toList ++ r.language.toList.takeWhile kept) := by
    obtain ⟨rest, hrest⟩ := r.toList_query_language
    rw [r.queryOf_url hquery hfragment, List.takeWhile_takeWhile, hrest,
      List.takeWhile_append_of_pos hfront, Text.takeWhile_append_of_stop hstop, List.append_assoc,
      List.cons_append]
  have hname : Literal "language:".toList := by decide
  intro h
  have hhead := Url.head?_pairsOf (r.url service)
  rw [h, map_asked, List.head?_cons, hpiece, Url.pairOf_eq (by decide)] at hhead
  have hvalue := congrArg Prod.snd (Option.some.inj hhead)
  rw [asked_text] at hvalue
  exact Url.fieldOf_cut_ne hname (List.takeWhile_prefix _) hvalue.symm

end Request

theorem url_reads_iff (r : Request) (service : String) (hquery : '?' ∉ service.toList)
    (hfragment : '#' ∉ service.toList) :
    Reads (r.url service) r.asked ↔
      ('#' ∉ r.language.toList ∧ '&' ∉ r.language.toList ∧ '+' ∉ r.language.toList) ∧
        Url.percentDecode (encode r.language) = encode r.language := by
  by_cases hsharp : '#' ∈ r.language.toList
  · exact iff_of_false (r.not_reads_of_cut hquery hfragment (.inl hsharp)) fun h => h.1.1 hsharp
  by_cases hand : '&' ∈ r.language.toList
  · exact iff_of_false (r.not_reads_of_cut hquery hfragment (.inr hand)) fun h => h.1.2.1 hand
  have hq : fieldOf "q".toList = encode "q" := by
    rw [Url.fieldOf_literal (by decide), String.ofList_toList]
  have hread : Reads (r.url service) r.asked ↔
      fieldOf r.search = encode ("language:" ++ r.language ++ " stars:" ++ r.window.range) := by
    rw [Reads, r.pairsOf_url hquery hfragment hsharp hand, hq, Request.map_asked]
    simp only [List.cons.injEq, Prod.mk.injEq, true_and, and_true]
  rw [hread, r.fieldOf_search_iff]
  constructor
  · rintro ⟨hplus, hdecode⟩
    exact ⟨⟨hsharp, hand, hplus⟩, hdecode⟩
  · rintro ⟨⟨-, -, hplus⟩, hdecode⟩
    exact ⟨hplus, hdecode⟩

theorem url_reads_visualBasic :
    let r : Request := ⟨"visual basic .net", ⟨500, 10000000, 3⟩, 100⟩
    '?' ∉ "https://api.github.com/".toList ∧ '#' ∉ "https://api.github.com/".toList ∧
      Reads (r.url "https://api.github.com/") r.asked := by
  intro r
  have hdecode : Url.percentDecode (encode r.language) = encode r.language := by
    rw [encode_eq_flatMap]
    decide +kernel
  have hquery : '?' ∉ "https://api.github.com/".toList := by decide
  have hfragment : '#' ∉ "https://api.github.com/".toList := by decide
  exact ⟨hquery, hfragment,
    (url_reads_iff r "https://api.github.com/" hquery hfragment).2 ⟨by decide, hdecode⟩⟩

def searchFor (language : String) : Config :=
  { Config.standard with search := { SearchSettings.standard with language := language } }

theorem url_misreads_sharp :
    let c := searchFor "c#"
    let r : Request := ⟨c.search.language, .start c.search.minStars Store.noStarsSeen,
      c.search.perPage⟩
    c.validate = .ok () ∧ '?' ∉ c.search.apiUrl.toList ∧ '#' ∉ c.search.apiUrl.toList ∧
      pairsOf (r.url c.search.apiUrl) = [(encode "q", encode "language:c")] ∧
      ¬ Reads (r.url c.search.apiUrl) r.asked := by
  intro c r
  have hquery : '?' ∉ c.search.apiUrl.toList := by decide +kernel
  have hfragment : '#' ∉ c.search.apiUrl.toList := by decide +kernel
  have hquestion : queryOf (r.url c.search.apiUrl) =
      "q".toList ++ '=' :: "language:c".toList := by decide +kernel
  have hpairs : pairsOf (r.url c.search.apiUrl) = [(encode "q", encode "language:c")] := by
    unfold pairsOf
    rw [hquestion, List.splitOn_eq_singleton (by decide), List.map_singleton,
      Url.pairOf_eq (by decide), Url.fieldOf_literal (by decide), Url.fieldOf_literal (by decide),
      String.ofList_toList, String.ofList_toList]
  exact ⟨by decide +kernel, hquery, hfragment, hpairs,
    r.not_reads_of_cut hquery hfragment (.inl (by decide))⟩

end CodeSurvey.Discovery
