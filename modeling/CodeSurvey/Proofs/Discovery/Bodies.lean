import CodeSurvey.Discovery.Page
import CodeSurvey.Proofs.Discovery.Effort
import CodeSurvey.Proofs.Discovery.Turning

/-! What the body of an answer makes of a step. -/

namespace CodeSurvey.Discovery

open Json (Value)

def Itemizes (body : String) (elements : List Value) : Prop :=
  ∃ fields, Json.parse? body = some (.object fields) ∧
    Value.lookup? "items" fields = some (.array elements)

inductive Describes : Value → Repository → Prop where
  | object {fields : List (String × Value)} {r : Repository}
    (hid : Value.lookup? "id" fields = some (.integer r.id))
    (hname : Value.lookup? "full_name" fields = some (.text r.name))
    (hurl : Value.lookup? "clone_url" fields = some (.text r.cloneUrl))
    (hstars : Value.lookup? "stargazers_count" fields = some (.integer r.stars))
    (hfits : r.id ≤ Text.Numeral.maxInt64 ∧ r.stars ≤ Text.Numeral.maxInt64) :
    Describes (.object fields) r
  | array {r : Repository}
    (hfits : r.id ≤ Text.Numeral.maxInt64 ∧ r.stars ≤ Text.Numeral.maxInt64) :
    Describes (.array [.integer r.id, .text r.name, .text r.cloneUrl, .integer r.stars]) r

theorem rawItems?_eq_some_iff {body : String} {elements : List Value} :
    rawItems? body = some elements ↔ Itemizes body elements := by
  simp only [rawItems?, Option.bind_eq_bind, Option.bind_eq_some_iff, Itemizes]
  constructor
  · rintro ⟨v, hv, items, hfield, harray⟩
    cases v with
    | object fields =>
      cases items with
      | array elements =>
        cases harray
        exact ⟨fields, hv, hfield⟩
      | _ => cases harray
    | _ => cases hfield
  · rintro ⟨fields, hv, hfield⟩
    exact ⟨.object fields, hv, .array elements, hfield, rfl⟩

@[simp] theorem int64?_eq_some_iff {v : Value} {n : Int} :
    v.int64? = some n ↔ v = .integer n ∧ n ≤ Text.Numeral.maxInt64 := by
  cases v with
  | integer m =>
    simp only [Value.int64?, Option.ite_none_right_eq_some, Option.some.injEq, Value.integer.injEq]
    constructor
    · rintro ⟨h, rfl⟩
      exact ⟨rfl, h⟩
    · rintro ⟨rfl, h⟩
      exact ⟨h, rfl⟩
  | _ => simp [Value.int64?]

@[simp] theorem text?_eq_some_iff {v : Value} {s : String} : v.text? = some s ↔ v = .text s := by
  cases v <;> simp [Value.text?]

theorem repositoryOf?_eq_some_iff {id name url stars : Option Value} {r : Repository} :
    repositoryOf? id name url stars = some r ↔
      id = some (.integer r.id) ∧ name = some (.text r.name) ∧ url = some (.text r.cloneUrl) ∧
        stars = some (.integer r.stars) ∧
        r.id ≤ Text.Numeral.maxInt64 ∧ r.stars ≤ Text.Numeral.maxInt64 := by
  simp only [repositoryOf?, Option.bind_eq_bind, Option.bind_eq_some_iff, Option.pure_def,
    Option.some.injEq, int64?_eq_some_iff, text?_eq_some_iff]
  constructor
  · rintro ⟨_, rfl, _, ⟨rfl, hid⟩, _, rfl, _, rfl, _, rfl, _, rfl, _, rfl, _, ⟨rfl, hstars⟩, rfl⟩
    exact ⟨rfl, rfl, rfl, rfl, hid, hstars⟩
  · rintro ⟨rfl, rfl, rfl, rfl, hid, hstars⟩
    exact ⟨_, rfl, _, ⟨rfl, hid⟩, _, rfl, _, rfl, _, rfl, _, rfl, _, rfl, _, ⟨rfl, hstars⟩, rfl⟩

theorem item?_eq_some_iff {v : Value} {r : Repository} : item? v = some r ↔ Describes v r := by
  constructor
  · intro h
    unfold item? at h
    split at h
    · obtain ⟨hid, hname, hurl, hstars, hfits⟩ := repositoryOf?_eq_some_iff.1 h
      exact .object hid hname hurl hstars hfits
    · obtain ⟨hid, hname, hurl, hstars, hfits⟩ := repositoryOf?_eq_some_iff.1 h
      cases hid
      cases hname
      cases hurl
      cases hstars
      exact .array hfits
    · cases h
  · intro h
    cases h with
    | object hid hname hurl hstars hfits =>
      exact repositoryOf?_eq_some_iff.2 ⟨hid, hname, hurl, hstars, hfits⟩
    | array hfits => exact repositoryOf?_eq_some_iff.2 ⟨rfl, rfl, rfl, rfl, hfits⟩

theorem mem_items?_iff {body : String} {r : Repository} : r ∈ (items? body).getD [] ↔
    ∃ elements, Itemizes body elements ∧ ∃ v ∈ elements, Describes v r := by
  simp only [items?, ← rawItems?_eq_some_iff, ← item?_eq_some_iff]
  cases rawItems? body with
  | none => simp
  | some elements => simp

def Offers (body : String) : Prop :=
  ∃ elements, Itemizes body elements ∧ ∃ v ∈ elements, ∃ r, Describes v r

theorem items?_getD_ne_nil_iff {body : String} : (items? body).getD [] ≠ [] ↔ Offers body := by
  constructor
  · intro hne
    obtain ⟨r, hr⟩ := List.exists_mem_of_ne_nil _ hne
    obtain ⟨elements, h, v, hv, hd⟩ := mem_items?_iff.1 hr
    exact ⟨elements, h, v, hv, r, hd⟩
  · rintro ⟨elements, h, v, hv, r, hd⟩
    exact List.ne_nil_of_mem (mem_items?_iff.2 ⟨elements, h, v, hv, hd⟩)

theorem Offers.itemizes {body : String} (h : Offers body) :
    ∃ elements, Itemizes body elements ∧ elements ≠ [] := by
  obtain ⟨elements, h, v, hv, -⟩ := h
  exact ⟨elements, h, List.ne_nil_of_mem hv⟩

def bodyAnswer (body : String) : Answer := .response ⟨200, .silent, items? body⟩

namespace Walk

variable {options : Options} {window : Window} {w : Walk} {body : String} {rest : List Answer}

theorem fetch_body (h : w.service.upcoming = bodyAnswer body :: rest) (request : Request)
    (retries : Nat) : fetch options request retries w = (.ok (items? body), (w.ask request).2) := by
  have hread : (w.ask request).1.reading request w.now = .final (items? body) := by
    simp only [ask, Service.next, h]
    rfl
  rw [fetch]
  split
  all_goals rename_i heq; rw [hread] at heq; cases heq
  rfl

@[simp] theorem insert_pages (w : Walk) (page : List Repository) :
    (w.insert page).tally.pages = w.tally.pages + 1 := by
  unfold insert
  split <;> rfl

theorem close_tally (options : Options) (window : Window) (w : Walk) :
    (close options window w).2.tally = { w.tally with windows := w.tally.windows + 1 } := by
  simp only [close]
  split <;> rfl

structure TurnsPage (options : Options) (window : Window) (w : Walk) : Prop where
  next : (advance options window w).1 = .ok window.nextPage
  pages : (advance options window w).2.tally.pages = w.tally.pages + 1
  windows : (advance options window w).2.tally.windows = w.tally.windows

structure ClosesWindow (options : Options) (window : Window) (w : Walk) : Prop where
  next : (advance options window w).1 = .ok (windowBelow w.store window)
  store : (advance options window w).2.store = w.store
  tally : (advance options window w).2.tally = { w.tally with windows := w.tally.windows + 1 }

theorem turns_of_offers (h : w.service.upcoming = bodyAnswer body :: rest) (ho : Offers body) :
    TurnsPage options window w := by
  have hne := items?_getD_ne_nil_iff.2 ho
  obtain ⟨page, hadvance⟩ : ∃ page, advance options window w = (.ok window.nextPage,
      (w.ask (requestFor options window w.tally.found)).2.insert page) := by
    rw [advance, fetch_body h]
    split <;> rename_i heq <;> obtain ⟨hitems, rfl⟩ := Prod.mk.inj heq
    · cases hitems
    · exact ⟨_, rfl⟩
    · rw [Except.ok.inj hitems] at hne
      exact absurd rfl hne
    · rw [Except.ok.inj hitems] at hne
      exact absurd rfl hne
  constructor
  · rw [hadvance]
  · simp [hadvance, ask]
  · simp [hadvance, ask]

theorem closes_of_not_offers (h : w.service.upcoming = bodyAnswer body :: rest)
    (ho : ¬ Offers body) : ClosesWindow options window w := by
  have hnil : (items? body).getD [] = [] := by
    by_contra hne
    exact ho (items?_getD_ne_nil_iff.1 hne)
  have hadvance : advance options window w =
      (.ok (close options window (w.ask (requestFor options window w.tally.found)).2).1,
        (close options window (w.ask (requestFor options window w.tally.found)).2).2) := by
    rw [advance, fetch_body h]
    split <;> rename_i heq <;> obtain ⟨hitems, rfl⟩ := Prod.mk.inj heq
    · cases hitems
    · rw [Except.ok.inj hitems] at hnil
      cases hnil
    · rfl
    · rfl
  constructor
  · rw [hadvance]
    rfl
  · simp [hadvance, ask]
  · rw [hadvance, close_tally]
    rfl

theorem not_turns_of_closes (h : ClosesWindow options window w) : ¬ TurnsPage options window w := by
  intro ht
  -- closing a window lowers its upper bound, and turning the page does not
  have hlt := windowBelow_upper_lt w.store window
  have hnext : windowBelow w.store window = window.nextPage :=
    Except.ok.inj (h.next.symm.trans ht.next)
  rw [hnext] at hlt
  exact absurd hlt (Int.lt_irrefl _)

/-- The bodies that offer a repository turn the page, and all others close the window; among those
are all that list no items, and also some that do. -/
theorem advance_body (h : w.service.upcoming = bodyAnswer body :: rest) :
    (TurnsPage options window w ↔ Offers body) ∧ (ClosesWindow options window w ↔ ¬ Offers body) ∧
      ((∀ elements, Itemizes body elements → elements = []) → ClosesWindow options window w) := by
  have hcloses : ¬ Offers body → ClosesWindow options window w := closes_of_not_offers h
  refine ⟨⟨fun ht => ?_, turns_of_offers h⟩, ⟨fun hc ho => ?_, hcloses⟩, fun hnone => ?_⟩
  · by_contra ho
    exact not_turns_of_closes (hcloses ho) ht
  · exact not_turns_of_closes hc (turns_of_offers h ho)
  · refine hcloses fun ho => ?_
    obtain ⟨elements, hbody, hne⟩ := ho.itemizes
    exact hne (hnone elements hbody)

def answered (bodies : List String) : Walk :=
  .start .empty ⟨bodies.map bodyAnswer, .drained⟩ ⟨0⟩

def mixedBody : String := "\x7b\"items\":[null,[1,\"a/one\",\"u1\",700]]\x7d"

theorem advance_body_mixed :
    (answered [mixedBody]).service.upcoming = [bodyAnswer mixedBody] ∧
      TurnsPage .standard ⟨500, 1000, 1⟩ (answered [mixedBody]) := by
  have hitems : items? mixedBody = some [⟨1, "a/one", "u1", 700⟩] := by decide +kernel
  have hoffers : Offers mixedBody := by
    rw [← items?_getD_ne_nil_iff, hitems]
    exact List.cons_ne_nil _ _
  exact ⟨rfl, (advance_body rfl).1.2 hoffers⟩

theorem run_of_not_offers (h : w.service.upcoming = bodyAnswer body :: rest) (ho : ¬ Offers body)
    (hopen : Open options window w) (hs : w.store.minStarsSeen = Store.noStarsSeen) :
    run options window w =
      (.ok ⟨window.lower, window.lower, 1⟩, (advance options window w).2) := by
  have hbelow : windowBelow w.store window = ⟨window.lower, window.lower, 1⟩ := by
    rw [windowBelow, if_pos hs, Window.shrink, if_pos (Window.not_exhausted_iff.1 hopen.2)]
  have hnext := (closes_of_not_offers h ho : ClosesWindow options window w).next
  rw [hbelow] at hnext
  -- no star count is left between the bounds
  have hclosed : ¬ Open options ⟨window.lower, window.lower, 1⟩ (advance options window w).2 := by
    rintro ⟨-, hx⟩
    exact absurd (Window.not_exhausted_iff.1 hx) (Int.lt_irrefl _)
  rw [run_of_advance hopen (Prod.ext hnext rfl), run_of_not_open hclosed]

def unclonableBody : String := "\x7b\"items\":[\x7b\"id\":1,\"full_name\":\"a/one\"\x7d]\x7d"

theorem advance_closes_unclonable :
    (¬ ∀ (options : Options) (window : Window) (w : Walk) (body : String) (rest : List Answer)
      (elements : List Value), w.service.upcoming = bodyAnswer body :: rest →
        Itemizes body elements → elements ≠ [] → TurnsPage options window w) ∧
    (run .standard ⟨500, 1000, 1⟩ (answered [unclonableBody, mixedBody])).1 = .ok ⟨500, 500, 1⟩ ∧
      (run .standard ⟨500, 1000, 1⟩ (answered [unclonableBody, mixedBody])).2.store = .empty := by
  have hlength : (rawItems? unclonableBody).map List.length = some 1 := by decide +kernel
  obtain ⟨elements, helements, hone⟩ := Option.map_eq_some_iff.1 hlength
  have hitems : items? unclonableBody = some [] := by decide +kernel
  have hoffers : ¬ Offers unclonableBody := by
    rw [← items?_getD_ne_nil_iff, hitems]
    exact fun hne => hne rfl
  have hcloses : ClosesWindow .standard ⟨500, 1000, 1⟩ (answered [unclonableBody, mixedBody]) :=
    closes_of_not_offers rfl hoffers
  have hrun : run .standard ⟨500, 1000, 1⟩ (answered [unclonableBody, mixedBody]) =
      (.ok ⟨500, 500, 1⟩,
        (advance .standard ⟨500, 1000, 1⟩ (answered [unclonableBody, mixedBody])).2) :=
    run_of_not_offers rfl hoffers ⟨by decide, rfl⟩ rfl
  refine ⟨fun h => ?_, ?_, ?_⟩
  · have hturns := h .standard ⟨500, 1000, 1⟩ (answered [unclonableBody, mixedBody]) _ _ elements
      rfl (rawItems?_eq_some_iff.1 helements) (List.ne_nil_of_length_eq_add_one hone)
    exact not_turns_of_closes hcloses hturns
  · rw [hrun]
  · rw [hrun]
    exact hcloses.store

end Walk

end CodeSurvey.Discovery
