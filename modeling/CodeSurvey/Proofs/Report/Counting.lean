import CodeSurvey.Proofs.Text.Lenient
import CodeSurvey.Proofs.Text.Numeral
import CodeSurvey.Report.Counters

/-! What the counters are, said of the bytes. -/

namespace CodeSurvey.Report

open Text.Numeral (isDigit read? maxInt64 Spells exists_spells_iff read?_toNat_eq_some_iff
  read?_toNat_of_large)
open Text.Utf8 (Bytes Blurs encode blurs_lenientChars)

def Heads (label codes : List Nat) : Prop :=
  ∃ d, isDigit d = true ∧ label ++ [d] <+: codes

variable {label codes : List Nat} {code : Nat}

theorem heads_iff : Heads label codes ↔
    label <+: codes ∧ (codes.drop label.length).takeWhile isDigit ≠ [] := by
  constructor
  · rintro ⟨d, hd, rest, rfl⟩
    rw [List.append_assoc, List.drop_left, List.singleton_append, List.takeWhile_cons_of_pos hd]
    exact ⟨List.prefix_append _ _, List.cons_ne_nil _ _⟩
  · rintro ⟨⟨rest, rfl⟩, hne⟩
    rw [List.drop_left] at hne
    cases rest with
    | nil => exact absurd rfl hne
    | cons d rest =>
      refine ⟨d, ?_, rest, List.append_assoc label [d] rest⟩
      by_contra hd
      exact hne (List.takeWhile_cons_of_neg hd)

theorem not_heads_nil : ¬ Heads label [] := by
  rw [heads_iff, List.drop_nil]
  exact fun h => h.2 rfl

theorem digitsAfter_of_heads (h : Heads label (code :: codes)) :
    digitsAfter label (code :: codes) =
      ((code :: codes).drop label.length).takeWhile isDigit := by
  obtain ⟨hbegins, hne⟩ := heads_iff.1 h
  rw [digitsAfter, if_pos (List.isPrefixOf_iff_prefix.2 hbegins)]
  split
  · contradiction
  · rfl

theorem digitsAfter_of_not_heads (h : ¬ Heads label (code :: codes)) :
    digitsAfter label (code :: codes) = digitsAfter label codes := by
  rw [digitsAfter]
  split
  · rename_i hbegins
    split
    · rfl
    · rename_i hne
      exact absurd (heads_iff.2 ⟨List.isPrefixOf_iff_prefix.1 hbegins, hne⟩) h
  · rfl

theorem digitsAfter_of_first {i : Nat} (h : Heads label (codes.drop i))
    (hfirst : ∀ j < i, ¬ Heads label (codes.drop j)) :
    digitsAfter label codes = (codes.drop (i + label.length)).takeWhile isDigit := by
  induction codes generalizing i with
  | nil =>
    rw [List.drop_nil] at h
    exact absurd h not_heads_nil
  | cons code codes ih =>
    cases i with
    | zero => rw [digitsAfter_of_heads h, Nat.zero_add]
    | succ i =>
      rw [digitsAfter_of_not_heads (hfirst 0 (Nat.zero_lt_succ i)), ih h, Nat.succ_add,
        List.drop_succ_cons]
      exact fun j hj => hfirst (j + 1) (Nat.succ_lt_succ hj)

theorem digitsAfter_of_absent (h : ∀ i, ¬ Heads label (codes.drop i)) :
    digitsAfter label codes = [] := by
  induction codes with
  | nil => rfl
  | cons code codes ih =>
    rw [digitsAfter_of_not_heads (h 0)]
    exact ih fun i => h (i + 1)

def leadingDigits (bytes : Bytes) : Bytes := bytes.takeWhile fun b => isDigit b.toNat

def Announces (label output : Bytes) (i : Nat) : Prop :=
  ∃ d : UInt8, isDigit d.toNat = true ∧ label ++ [d] <+: output.drop i

inductive Counts (label output : Bytes) : Int → Prop where
  | fits {i n : Nat} (h : Announces label output i) (hfirst : ∀ j < i, ¬ Announces label output j)
    (hn : Spells (leadingDigits (output.drop (i + label.length))) n) (hmax : n ≤ maxInt64) :
    Counts label output n
  | large {i n : Nat} (h : Announces label output i) (hfirst : ∀ j < i, ¬ Announces label output j)
    (hn : Spells (leadingDigits (output.drop (i + label.length))) n) (hmax : maxInt64 < n) :
    Counts label output 0
  | absent (h : ∀ i, ¬ Announces label output i) : Counts label output 0

section Bytes

variable {label output : Bytes} {i n : Nat} {z : Int}

theorem toNat_injective : Function.Injective UInt8.toNat := fun _ _ h => UInt8.toNat_inj.1 h

theorem announces_iff_heads : Announces label output i ↔
    Heads (label.map UInt8.toNat) ((output.map UInt8.toNat).drop i) := by
  rw [← List.map_drop]
  constructor
  · rintro ⟨d, hd, hbegins⟩
    refine ⟨d.toNat, hd, ?_⟩
    simpa using hbegins.map UInt8.toNat
  · rintro ⟨code, hd, hbegins⟩
    obtain ⟨front, hfront, heq⟩ := List.prefix_map_iff.1 hbegins
    obtain ⟨front, back, rfl, hlabel, hback⟩ := List.map_eq_append_iff.1 heq.symm
    obtain ⟨d, rfl, rfl⟩ := List.map_eq_singleton_iff.1 hback
    obtain rfl := toNat_injective.list_map hlabel
    exact ⟨d, hd, hfront⟩

theorem map_leadingDigits (bytes : Bytes) :
    (bytes.map UInt8.toNat).takeWhile isDigit = (leadingDigits bytes).map UInt8.toNat :=
  List.takeWhile_map

theorem Announces.spells (h : Announces label output i) :
    ∃ n, Spells (leadingDigits (output.drop (i + label.length))) n := by
  refine exists_spells_iff.2 ⟨?_, ?_⟩
  · have hne := (heads_iff.1 (announces_iff_heads.1 h)).2
    rw [← List.map_drop, ← List.map_drop, List.length_map, List.drop_drop, map_leadingDigits] at hne
    exact fun hnil => hne (by rw [hnil, List.map_nil])
  · intro b hb
    have hdigit := List.all_eq_true.1 List.all_takeWhile b hb
    simpa [isDigit] using hdigit

def counted (label output : Bytes) : List Nat :=
  digitsAfter (label.map UInt8.toNat) (output.map UInt8.toNat)

theorem counted_of_first (h : Announces label output i)
    (hfirst : ∀ j < i, ¬ Announces label output j) :
    counted label output = (leadingDigits (output.drop (i + label.length))).map UInt8.toNat := by
  simp only [announces_iff_heads] at h hfirst
  rw [counted, digitsAfter_of_first h hfirst, List.length_map, ← List.map_drop, map_leadingDigits]

theorem counted_of_absent (h : ∀ i, ¬ Announces label output i) : counted label output = [] := by
  simp only [announces_iff_heads] at h
  exact digitsAfter_of_absent h

theorem exists_first (h : ∃ i, Announces label output i) :
    ∃ i, Announces label output i ∧ ∀ j < i, ¬ Announces label output j := by
  classical exact ⟨Nat.find h, Nat.find_spec h, fun j => Nat.find_min h⟩

theorem counted_eq_nil_iff : counted label output = [] ↔ ∀ i, ¬ Announces label output i := by
  constructor
  · intro hnil i hi
    obtain ⟨i, hi, hfirst⟩ := exists_first ⟨i, hi⟩
    obtain ⟨n, hn⟩ := hi.spells
    rw [counted_of_first hi hfirst, List.map_eq_nil_iff] at hnil
    exact hn.ne_nil hnil
  · exact counted_of_absent

def count (label output : Bytes) : Int :=
  counter (label.map UInt8.toNat) (output.map UInt8.toNat)

theorem count_eq (label output : Bytes) :
    count label output = ((read? maxInt64 (counted label output)).getD 0 : Nat) := rfl

theorem Counts.count_eq (h : Counts label output z) : count label output = z := by
  rw [Report.count_eq]
  cases h with
  | fits h hfirst hn hmax =>
    rw [counted_of_first h hfirst, read?_toNat_eq_some_iff.2 ⟨hn, hmax⟩, Option.getD_some]
  | large h hfirst hn hmax =>
    rw [counted_of_first h hfirst, read?_toNat_of_large hn hmax]
    rfl
  | absent h =>
    rw [counted_of_absent h]
    rfl

theorem exists_counts (label output : Bytes) : ∃ z, Counts label output z := by
  by_cases h : ∃ i, Announces label output i
  · obtain ⟨i, hi, hfirst⟩ := exists_first h
    obtain ⟨n, hn⟩ := hi.spells
    rcases Nat.lt_or_ge maxInt64 n with hmax | hmax
    · exact ⟨0, .large hi hfirst hn hmax⟩
    · exact ⟨n, .fits hi hfirst hn hmax⟩
  · exact ⟨0, .absent (not_exists.1 h)⟩

theorem count_eq_iff : count label output = z ↔ Counts label output z := by
  constructor
  · rintro rfl
    obtain ⟨z, hz⟩ := exists_counts label output
    rwa [hz.count_eq]
  · exact Counts.count_eq

end Bytes

theorem digitsAfter_append_of_ne {front : List Nat} (h : ∀ c ∈ front, c ≠ code) :
    digitsAfter (code :: label) (front ++ codes) = digitsAfter (code :: label) codes := by
  induction front with
  | nil => rfl
  | cons c front ih =>
    obtain ⟨hc, hfront⟩ := List.forall_mem_cons.1 h
    have hheads : ¬ Heads (code :: label) (c :: (front ++ codes)) := by
      rintro ⟨d, -, hbegins⟩
      exact hc (List.cons_prefix_cons.1 hbegins).1.symm
    rw [List.cons_append, digitsAfter_of_not_heads hheads, ih hfront]

theorem isDigit_beyond {c : Nat} (hc : 0x80 ≤ c) : isDigit c = false := by
  rw [isDigit, Bool.and_eq_false_iff, decide_eq_false_iff_not, decide_eq_false_iff_not]
  omega

theorem heads_blurred {bytes : Bytes} (h : Blurs codes bytes) (hlabel : ∀ c ∈ label, c < 0x80) :
    Heads label codes ↔ Heads label (bytes.map UInt8.toNat) := by
  -- a label and the digit behind it are one ASCII word
  refine exists_congr fun d => and_congr_right fun hd => (h.word_begins ?_).1
  intro c hc
  rcases List.mem_append.1 hc with hc | hc
  · exact hlabel c hc
  · obtain rfl := List.mem_singleton.1 hc
    by_contra hbeyond
    rw [isDigit_beyond (Nat.le_of_not_lt hbeyond)] at hd
    cases hd

theorem digitsAfter_blurred {bytes : Bytes} (h : Blurs codes bytes)
    (hlabel : ∀ c ∈ code :: label, c < 0x80) :
    digitsAfter (code :: label) codes = digitsAfter (code :: label) (bytes.map UInt8.toNat) := by
  have hcode : code < 0x80 := hlabel code List.mem_cons_self
  induction h with
  | nil => rfl
  | @ascii b codes bytes hb h ih =>
    have hblurs : Blurs (b.toNat :: codes) (b :: bytes) := .ascii hb h
    have hiff := heads_blurred hblurs hlabel
    rw [List.map_cons] at hiff ⊢
    by_cases hheads : Heads (code :: label) (b.toNat :: codes)
    · have hdrop := (hblurs.word_begins hlabel).2 (heads_iff.1 hheads).1
      rw [digitsAfter_of_heads hheads, digitsAfter_of_heads (hiff.1 hheads),
        hdrop.takeWhile fun c => isDigit_beyond, List.map_drop, List.map_cons]
    · rw [digitsAfter_of_not_heads hheads, digitsAfter_of_not_heads (mt hiff.2 hheads), ih]
  | @beyond c b codes stretch bytes hc hstretch h ih =>
    -- neither the code nor the stretch it stands for can begin the label
    have hstretch' : ∀ a ∈ (b :: stretch).map UInt8.toNat, a ≠ code := by
      rintro a ha rfl
      obtain ⟨x, hx, rfl⟩ := List.mem_map.1 ha
      exact absurd hcode (Nat.not_lt.2 (hstretch x hx))
    have hc' : ∀ a ∈ [c], a ≠ code := by
      rintro a ha rfl
      exact absurd hcode (Nat.not_lt.2 (List.mem_singleton.1 ha ▸ hc))
    calc
      digitsAfter (code :: label) (c :: codes) = digitsAfter (code :: label) codes :=
        digitsAfter_append_of_ne hc'
      _ = digitsAfter (code :: label) (bytes.map UInt8.toNat) := ih
      _ = digitsAfter (code :: label) ((b :: stretch).map UInt8.toNat ++ bytes.map UInt8.toNat) :=
        (digitsAfter_append_of_ne hstretch').symm
      _ = digitsAfter (code :: label) ((b :: (stretch ++ bytes)).map UInt8.toNat) := by
        rw [← List.map_append, List.cons_append]

theorem parse_eq_scanBytes (output : Bytes) :
    Counters.parse output = Counters.scanBytes output := by
  have h := blurs_lenientChars output
  have hsuccessful : digitsAfter successfulLabel _ = digitsAfter successfulLabel _ :=
    digitsAfter_blurred h (by decide)
  have herrors : digitsAfter errorsLabel _ = digitsAfter errorsLabel _ :=
    digitsAfter_blurred h (by decide)
  rw [Counters.parse, Counters.scanBytes, Counters.scan, Counters.scan, counter, counter, counter,
    counter, hsuccessful, herrors]

def successfulText : Bytes := encode "Successful: "

def errorsText : Bytes := encode "Errors: "

theorem successful_parse (output : Bytes) :
    (Counters.parse output).successful = count successfulText output := by
  have hlabel : successfulText.map UInt8.toNat = successfulLabel := by decide +kernel
  rw [parse_eq_scanBytes, count, hlabel]
  rfl

theorem errors_parse (output : Bytes) :
    (Counters.parse output).errors = count errorsText output := by
  have hlabel : errorsText.map UInt8.toNat = errorsLabel := by decide +kernel
  rw [parse_eq_scanBytes, count, hlabel]
  rfl

/-- The counters are the numbers behind the first places of the bytes where their labels stand right
before a digit; reading the bytes as lenient text changes neither. -/
theorem parse_counts (output : Bytes) :
    (∀ z, (Counters.parse output).successful = z ↔ Counts successfulText output z) ∧
      (∀ z, (Counters.parse output).errors = z ↔ Counts errorsText output z) ∧
      Counters.parse output = Counters.scanBytes output := by
  refine ⟨fun z => ?_, fun z => ?_, parse_eq_scanBytes output⟩
  · rw [successful_parse, count_eq_iff]
  · rw [errors_parse, count_eq_iff]

end CodeSurvey.Report
