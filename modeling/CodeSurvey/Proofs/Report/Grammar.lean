import CodeSurvey.Proofs.Text.Numeral
import CodeSurvey.Proofs.Text.Pattern
import CodeSurvey.Report.Line

/-! The grammar of a line of the report. -/

namespace CodeSurvey.Report

open Text (Pattern)
open Text.Utf8 (Bytes encode decode?_eq_some_iff)
open Text.Numeral (Spells maxInt64)

def Writes (field : Bytes) (z : Int) : Prop :=
  ∃ n : Nat, Spells field n ∧ n ≤ maxInt64 ∧ z = n

def Lists (line : Bytes) (f : Finding) : Prop :=
  ∃ path numerals ending, line = [comma].intercalate (path :: numerals) ++ ending ∧
    (ending = [] ∨ ending = [carriageReturn]) ∧ comma ∉ path ∧ path ≠ [] ∧
    path = encode f.path ∧ List.Forall₂ Writes numerals f.site.fields

theorem numeral?_eq_some_iff {field : Bytes} {z : Int} :
    numeral? field = some z ↔ Writes field z := by
  simp only [numeral?, Option.map_eq_some_iff, Text.Numeral.read?_toNat_eq_some_iff, Writes,
    and_assoc, Int.ofNat_eq_natCast, eq_comm (a := z)]

theorem path?_eq_some_iff {field : Bytes} {s : String} :
    path? field = some s ↔ field ≠ [] ∧ field = encode s := by
  rw [path?]
  split
  · rename_i h
    simp [h]
  · rename_i h
    rw [decode?_eq_some_iff, and_iff_right h, eq_comm]

theorem forall₂_fields_iff {numerals : List Bytes} {s : Site} :
    List.Forall₂ Writes numerals s.fields ↔ ∃ line column kind width strategy,
      numerals = [line, column, kind, width, strategy] ∧ Writes line s.line ∧
        Writes column s.column ∧ Writes kind s.vectorKind ∧ Writes width s.tileWidth ∧
        Writes strategy s.strategyIndex := by
  rw [Site.fields]
  constructor
  · rintro (_ | ⟨ha, _ | ⟨hb, _ | ⟨hc, _ | ⟨hd, _ | ⟨he, _ | _⟩⟩⟩⟩⟩)
    exact ⟨_, _, _, _, _, rfl, ha, hb, hc, hd, he⟩
  · rintro ⟨_, _, _, _, _, rfl, ha, hb, hc, hd, he⟩
    exact .cons ha (.cons hb (.cons hc (.cons hd (.cons he .nil))))

theorem parseFields_eq_some_iff {fields : List Bytes} {f : Finding} :
    parseFields fields = some f ↔ ∃ path numerals, fields = path :: numerals ∧ path ≠ [] ∧
      path = encode f.path ∧ List.Forall₂ Writes numerals f.site.fields := by
  constructor
  · intro h
    unfold parseFields at h
    split at h
    · rename_i path line column kind width strategy
      simp only [Option.bind_eq_bind, Option.bind_eq_some_iff, Option.pure_def, Option.some.injEq,
        numeral?_eq_some_iff, path?_eq_some_iff] at h
      obtain ⟨_, ⟨hne, hpath⟩, _, ha, _, hb, _, hc, _, hd, _, he, rfl⟩ := h
      exact ⟨_, _, rfl, hne, hpath, forall₂_fields_iff.2 ⟨_, _, _, _, _, rfl, ha, hb, hc, hd, he⟩⟩
    · cases h
  · rintro ⟨path, numerals, rfl, hne, hpath, hnumerals⟩
    obtain ⟨_, _, _, _, _, rfl, ha, hb, hc, hd, he⟩ := forall₂_fields_iff.1 hnumerals
    simp only [parseFields, path?_eq_some_iff.2 ⟨hne, hpath⟩, numeral?_eq_some_iff.2 ha,
      numeral?_eq_some_iff.2 hb, numeral?_eq_some_iff.2 hc, numeral?_eq_some_iff.2 hd,
      numeral?_eq_some_iff.2 he]
    rfl

theorem Writes.notMem {field : Bytes} {z : Int} (h : Writes field z) {b : UInt8}
    (hb : b.toNat < 0x30) : b ∉ field := by
  obtain ⟨n, hn, -⟩ := h
  intro hm
  have := (hn.digits b hm).1
  omega

theorem withoutReturn_append_ending {body ending : Bytes}
    (h : body.getLast? ≠ some carriageReturn) (hending : ending = [] ∨ ending = [carriageReturn]) :
    withoutReturn (body ++ ending) = body := by
  rcases hending with rfl | rfl
  · rw [List.append_nil, withoutReturn, if_neg h]
  · rw [withoutReturn, if_pos List.getLast?_concat, List.dropLast_concat]

theorem exists_ending (line : Bytes) : ∃ ending, line = withoutReturn line ++ ending ∧
    (ending = [] ∨ ending = [carriageReturn]) := by
  rw [withoutReturn]
  split
  · rename_i h
    exact ⟨[carriageReturn], (List.dropLast_append_getLast? _ h).symm, Or.inr rfl⟩
  · exact ⟨[], (List.append_nil line).symm, Or.inl rfl⟩

theorem intercalate_comma_cons (path : Bytes) (numerals : List Bytes) :
    [comma].intercalate (path :: numerals) = path ++ numerals.flatMap (comma :: ·) := by
  induction numerals generalizing path with
  | nil => simp
  | cons numeral numerals ih =>
    rw [List.intercalate_cons_cons, ih, List.flatMap_cons]
    simp

theorem getLast?_fields {path : Bytes} {numerals : List Bytes} {s : Site}
    (h : List.Forall₂ Writes numerals s.fields) :
    ([comma].intercalate (path :: numerals)).getLast? ≠ some carriageReturn := by
  obtain ⟨line, column, kind, width, strategy, rfl, -, -, -, -, hlast⟩ := forall₂_fields_iff.1 h
  have hne : strategy ≠ [] := by
    obtain ⟨n, hn, -⟩ := hlast
    exact hn.ne_nil
  have hbody : [comma].intercalate [path, line, column, kind, width, strategy] =
      [comma].intercalate [path, line, column, kind, width] ++ [comma] ++ strategy := by
    simp
  rw [hbody, List.getLast?_append_of_ne_nil _ hne]
  exact fun he => hlast.notMem (by decide) (List.mem_of_getLast? he)

theorem exists_writes_of_mem {numerals : List Bytes} {zs : List Int}
    (h : List.Forall₂ Writes numerals zs) {field : Bytes} (hm : field ∈ numerals) :
    ∃ z, Writes field z := by
  induction h with
  | nil => cases hm
  | cons hw _ ih =>
    rcases List.mem_cons.1 hm with rfl | hm
    · exact ⟨_, hw⟩
    · exact ih hm

theorem parseLine_eq_some_iff {line : Bytes} {f : Finding} :
    parseLine line = some f ↔ Lists line f := by
  rw [parseLine, parseFields_eq_some_iff]
  constructor
  · rintro ⟨path, numerals, hsplit, hne, hpath, hnumerals⟩
    obtain ⟨ending, hline, hending⟩ := exists_ending line
    have hbody : [comma].intercalate ((withoutReturn line).splitOn comma) = withoutReturn line :=
      List.intercalate_splitOn comma
    rw [hsplit] at hbody
    rw [← hbody] at hline
    refine ⟨path, numerals, ending, hline, hending, ?_, hne, hpath, hnumerals⟩
    exact Text.not_mem_of_mem_splitOn (hsplit ▸ List.mem_cons_self)
  · rintro ⟨path, numerals, ending, rfl, hending, hcomma, hne, hpath, hnumerals⟩
    refine ⟨path, numerals, ?_, hne, hpath, hnumerals⟩
    -- the last numeral ends in a digit, so that what is taken off is the ending
    rw [withoutReturn_append_ending (getLast?_fields hnumerals) hending]
    refine List.splitOn_intercalate comma ?_ (List.cons_ne_nil _ _)
    intro field hfield
    rcases List.mem_cons.1 hfield with rfl | hfield
    · exact hcomma
    · obtain ⟨z, hz⟩ := exists_writes_of_mem hnumerals hfield
      exact hz.notMem (by decide)

/-- `,([0-9]+)` -/
def numeralPattern : Pattern :=
  .seq (.char (· == ',')) (.group (.many (.char Char.isDigit)))

/-- So many numerals, and `\r?`. -/
def numeralsPattern : Nat → Pattern
  | 0 => .optional (.char (· == '\r'))
  | n + 1 => .seq numeralPattern (numeralsPattern n)

/-- `([^,]+)` and five numerals, from the first byte of a line to its last. -/
def linePattern : Pattern :=
  .seq (.group (.many (.char (· != ',')))) (numeralsPattern 5)

theorem captures_numeralPattern_iff {bs : Bytes} {gs : List Bytes} :
    numeralPattern.Captures bs gs ↔
      ∃ field n, Spells field n ∧ bs = comma :: field ∧ gs = [field] := by
  rw [numeralPattern, Pattern.captures_seq_iff]
  constructor
  · rintro ⟨_, _, field, _, hcomma, hfield, rfl, rfl⟩
    obtain ⟨rfl, rfl⟩ := (Pattern.captures_ascii_iff (b := comma) (by decide)).1 hcomma
    obtain ⟨_, hmany, rfl⟩ := Pattern.captures_group_iff.1 hfield
    obtain ⟨rfl, hdigits⟩ := Pattern.captures_many_digit_iff.1 hmany
    obtain ⟨n, hn⟩ := Text.Numeral.exists_spells_iff.2 hdigits
    exact ⟨field, n, hn, rfl, rfl⟩
  · rintro ⟨field, n, hn, rfl, rfl⟩
    have hdigits := Text.Numeral.exists_spells_iff.1 ⟨n, hn⟩
    refine ⟨[comma], [], field, [field], ?_, ?_, rfl, rfl⟩
    · exact (Pattern.captures_ascii_iff (b := comma) (by decide)).2 ⟨rfl, rfl⟩
    · exact .group (Pattern.captures_many_digit_iff.2 ⟨rfl, hdigits⟩)

theorem captures_numeralsPattern_iff {n : Nat} {bs : Bytes} {numerals : List Bytes} :
    (numeralsPattern n).Captures bs numerals ↔
      ∃ ending, bs = numerals.flatMap (comma :: ·) ++ ending ∧
        (ending = [] ∨ ending = [carriageReturn]) ∧ numerals.length = n ∧
        ∀ field ∈ numerals, ∃ z, Spells field z := by
  induction n generalizing bs numerals with
  | zero =>
    rw [numeralsPattern, Pattern.captures_optional_iff]
    have hreturn : (Pattern.char (· == '\r')).Captures bs numerals ↔
        bs = [carriageReturn] ∧ numerals = [] :=
      Pattern.captures_ascii_iff (b := carriageReturn) (by decide)
    constructor
    · rintro (⟨rfl, rfl⟩ | h)
      · exact ⟨[], rfl, Or.inl rfl, rfl, fun _ h => nomatch h⟩
      · obtain ⟨rfl, rfl⟩ := hreturn.1 h
        exact ⟨[carriageReturn], rfl, Or.inr rfl, rfl, fun _ h => nomatch h⟩
    · rintro ⟨ending, rfl, hending, hlength, -⟩
      obtain rfl := List.length_eq_zero_iff.1 hlength
      rcases hending with rfl | rfl
      · exact Or.inl ⟨rfl, rfl⟩
      · exact Or.inr (hreturn.2 ⟨rfl, rfl⟩)
  | succ n ih =>
    rw [numeralsPattern, Pattern.captures_seq_iff]
    constructor
    · rintro ⟨_, _, _, numerals, hfield, hnumerals, rfl, rfl⟩
      obtain ⟨field, z, hz, rfl, rfl⟩ := captures_numeralPattern_iff.1 hfield
      obtain ⟨ending, rfl, hending, hlength, hspells⟩ := ih.1 hnumerals
      refine ⟨ending, by simp, hending, congrArg Nat.succ hlength, ?_⟩
      exact List.forall_mem_cons.2 ⟨⟨z, hz⟩, hspells⟩
    · rintro ⟨ending, rfl, hending, hlength, hspells⟩
      cases numerals with
      | nil => cases hlength
      | cons field numerals =>
        obtain ⟨⟨z, hz⟩, hspells⟩ := List.forall_mem_cons.1 hspells
        refine ⟨comma :: field, [field], _, numerals,
          captures_numeralPattern_iff.2 ⟨field, z, hz, rfl, rfl⟩,
          ih.2 ⟨ending, rfl, hending, Nat.succ.inj hlength, hspells⟩, ?_, rfl⟩
        rw [List.flatMap_cons, List.append_assoc]

theorem captures_linePattern_iff {line path : Bytes} {numerals : List Bytes} :
    linePattern.Captures line (path :: numerals) ↔
      ∃ ending, line = [comma].intercalate (path :: numerals) ++ ending ∧
        (ending = [] ∨ ending = [carriageReturn]) ∧ comma ∉ path ∧ path ≠ [] ∧
        (∃ s, path = encode s) ∧ numerals.length = 5 ∧
        ∀ field ∈ numerals, ∃ n, Spells field n := by
  have hpath : ∀ {bs : Bytes} {gs : List Bytes},
      (Pattern.many (.char (· != ','))).Captures bs gs ↔
        gs = [] ∧ bs ≠ [] ∧ comma ∉ bs ∧ ∃ s, bs = encode s :=
    Pattern.captures_many_ne_iff (b := comma) (by decide)
  rw [linePattern, Pattern.captures_seq_iff]
  constructor
  · rintro ⟨front, _, back, _, hfront, hback, rfl, hcaptures⟩
    obtain ⟨groups, hmany, rfl⟩ := Pattern.captures_group_iff.1 hfront
    obtain ⟨rfl, hne, hcomma, hs⟩ := hpath.1 hmany
    obtain ⟨rfl, rfl⟩ := List.cons.inj hcaptures
    obtain ⟨ending, rfl, hending, hnumerals⟩ := captures_numeralsPattern_iff.1 hback
    refine ⟨ending, ?_, hending, hcomma, hne, hs, hnumerals⟩
    rw [intercalate_comma_cons, List.append_assoc]
  · rintro ⟨ending, rfl, hending, hcomma, hne, hs, hnumerals⟩
    refine ⟨path, [path], _, numerals, .group (hpath.2 ⟨rfl, hne, hcomma, hs⟩),
      captures_numeralsPattern_iff.2 ⟨ending, rfl, hending, hnumerals⟩, ?_, rfl⟩
    rw [intercalate_comma_cons, List.append_assoc]

theorem lists_iff_captures {line : Bytes} {f : Finding} :
    Lists line f ↔ ∃ path numerals, linePattern.Captures line (path :: numerals) ∧
      path = encode f.path ∧ List.Forall₂ Writes numerals f.site.fields := by
  constructor
  · rintro ⟨path, numerals, ending, hline, hending, hcomma, hne, hpath, hnumerals⟩
    refine ⟨path, numerals, captures_linePattern_iff.2 ⟨ending, hline, hending, hcomma, hne,
      ⟨f.path, hpath⟩, hnumerals.length_eq, ?_⟩, hpath, hnumerals⟩
    intro field hfield
    obtain ⟨z, n, hn, -⟩ := exists_writes_of_mem hnumerals hfield
    exact ⟨n, hn⟩
  · rintro ⟨path, numerals, hcaptures, hpath, hnumerals⟩
    obtain ⟨ending, hline, hending, hcomma, hne, -⟩ := captures_linePattern_iff.1 hcaptures
    exact ⟨path, numerals, ending, hline, hending, hcomma, hne, hpath, hnumerals⟩

theorem parseLine_accepts (line : Bytes) :
    (∀ f, parseLine line = some f ↔ Lists line f) ∧
      (∀ f, parseLine line = some f ↔
        ∃ path numerals, linePattern.Captures line (path :: numerals) ∧ path = encode f.path ∧
          List.Forall₂ Writes numerals f.site.fields) ∧
      (parseLine line = none ↔ ∀ f, ¬ Lists line f) := by
  refine ⟨fun f => parseLine_eq_some_iff, fun f => ?_, ?_⟩
  · rw [parseLine_eq_some_iff, lists_iff_captures]
  · simp only [Option.eq_none_iff_forall_ne_some, ne_eq, parseLine_eq_some_iff]

end CodeSurvey.Report
