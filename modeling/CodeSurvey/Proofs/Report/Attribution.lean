import CodeSurvey.Proofs.Report.Counting
import CodeSurvey.Proofs.Report.Transcript

/-! Whose numbers the counters are, where a summary follows a report. -/

namespace CodeSurvey.Report

open Text.Numeral (isDigit maxInt64 decimal Spells spells_decimal)
open Text.Utf8 (Bytes encode)

section Separator

variable {label : List Nat} {separator : Nat}

theorem prefix_of_prefix_append_cons {word front back : List Nat} (h : separator ∉ word)
    (hbegins : word <+: front ++ separator :: back) : word <+: front := by
  rcases List.prefix_or_prefix_of_prefix hbegins (List.prefix_append front _) with hword | hfront
  · exact hword
  obtain ⟨rest, rfl⟩ := hfront
  rw [List.prefix_append_right_inj] at hbegins
  cases rest with
  | nil => simp
  | cons c rest =>
    obtain ⟨rfl, -⟩ := List.cons_prefix_cons.1 hbegins
    exact absurd (by simp) h

variable (hlabel : separator ∉ label) (hdigit : isDigit separator = false)

include hlabel hdigit

theorem heads_append_cons (front back : List Nat) :
    Heads label (front ++ separator :: back) ↔ Heads label front := by
  constructor
  · rintro ⟨d, hd, hbegins⟩
    refine ⟨d, hd, prefix_of_prefix_append_cons ?_ hbegins⟩
    intro hm
    rcases List.mem_append.1 hm with hm | hm
    · exact hlabel hm
    · rw [List.mem_singleton.1 hm, hd] at hdigit
      cases hdigit
  · rintro ⟨d, hd, hbegins⟩
    exact ⟨d, hd, hbegins.trans (List.prefix_append _ _)⟩

theorem digitsAfter_append_cons (front back : List Nat) :
    digitsAfter label (front ++ separator :: back) =
      if digitsAfter label front = [] then digitsAfter label back else digitsAfter label front := by
  have hiff := heads_append_cons hlabel hdigit
  induction front with
  | nil =>
    have hnot : ¬ Heads label (separator :: back) := mt (hiff [] back).1 not_heads_nil
    rw [List.nil_append, digitsAfter_of_not_heads hnot]
    exact (if_pos rfl).symm
  | cons code front ih =>
    have hcons := hiff (code :: front) back
    rw [List.cons_append] at hcons ⊢
    by_cases h : Heads label (code :: front)
    · obtain ⟨hbegins, hne⟩ := heads_iff.1 h
      -- the run of digits ends at the separator, if not before
      have hrun : ((code :: (front ++ separator :: back)).drop label.length).takeWhile isDigit =
          ((code :: front).drop label.length).takeWhile isDigit := by
        rw [← List.cons_append, List.drop_append_of_le_length hbegins.length_le,
          List.takeWhile_append, List.takeWhile_cons, hdigit]
        split
        · rename_i hlength
          rw [(List.takeWhile_prefix isDigit).eq_of_length hlength]
          simp
        · rfl
      rw [digitsAfter_of_heads (hcons.2 h), digitsAfter_of_heads h, hrun, if_neg hne]
    · rw [digitsAfter_of_not_heads (mt hcons.1 h), digitsAfter_of_not_heads h, ih]

end Separator

theorem count_congr {label bytes more : Bytes} (h : counted label bytes = counted label more) :
    count label bytes = count label more := by
  rw [count_eq, count_eq, h]

theorem counted_append_cons {label : Bytes} {separator : UInt8} (hlabel : separator ∉ label)
    (hdigit : isDigit separator.toNat = false) (front back : Bytes) :
    counted label (front ++ separator :: back) =
      if counted label front = [] then counted label back else counted label front := by
  have hmem : separator.toNat ∉ label.map UInt8.toNat := by
    rwa [List.mem_map_of_injective toNat_injective]
  rw [counted, List.map_append, List.map_cons, digitsAfter_append_cons hmem hdigit]
  rfl

theorem counted_of_notMem {b : UInt8} {label bytes : Bytes} (hb : b ∉ bytes) :
    counted (b :: label) bytes = [] := by
  have hpassed : digitsAfter (b.toNat :: label.map UInt8.toNat) (bytes.map UInt8.toNat ++ []) =
      digitsAfter (b.toNat :: label.map UInt8.toNat) [] := by
    refine digitsAfter_append_of_ne fun c hc hcb => hb ?_
    rwa [hcb, List.mem_map_of_injective toNat_injective] at hc
  rwa [List.append_nil] at hpassed

structure Apart (label : Bytes) : Prop where
  head : ∃ b rest, label = b :: rest ∧ 0x39 < b.toNat
  comma : comma ∉ label
  newline : newline ∉ label

theorem apart_successfulText : Apart successfulText where
  head := ⟨0x53, encode "uccessful: ", by decide +kernel, by decide⟩
  comma := by decide +kernel
  newline := by decide +kernel

theorem apart_errorsText : Apart errorsText where
  head := ⟨0x45, encode "rrors: ", by decide +kernel, by decide⟩
  comma := by decide +kernel
  newline := by decide +kernel

def Entry.subject : Entry → Bytes
  | .finding f _ _ _ => encode f.path
  | .other line _ _ => line

theorem Entry.exists_finding_line {f : Finding} (h : Printable f) (zeros : Vector Nat 5)
    (returned : Bool) :
    ∃ more, (Entry.finding f h zeros returned).line = encode f.path ++ comma :: more ∧
      ∀ b ∈ more, b.toNat ≤ 0x39 := by
  obtain ⟨first, column, kind, width, strategy, hnumerals, -⟩ :=
    forall₂_fields_iff.1 (h.writes zeros)
  have hdigits : ∀ field ∈ numerals zeros.toList f.site.fields, ∀ b ∈ field, b.toNat ≤ 0x39 := by
    intro field hfield b hb
    obtain ⟨z, n, hn, -⟩ := exists_writes_of_mem (h.writes zeros) hfield
    exact (hn.digits b hb).2
  rw [hnumerals] at hdigits
  refine ⟨first ++ [column, kind, width, strategy].flatMap (comma :: ·) ++
    if returned then [carriageReturn] else [], ?_, ?_⟩
  · rw [Entry.line, hnumerals, intercalate_comma_cons, List.flatMap_cons, List.cons_append,
      List.append_assoc, List.cons_append, List.append_assoc]
  · intro b hb
    rcases List.mem_append.1 hb with hb | hb
    · rcases List.mem_append.1 hb with hb | hb
      · exact hdigits first List.mem_cons_self b hb
      obtain ⟨field, hfield, hb⟩ := List.mem_flatMap.1 hb
      rcases List.mem_cons.1 hb with rfl | hb
      · decide
      · exact hdigits field (List.mem_cons_of_mem first hfield) b hb
    · cases returned with
      | false => cases hb
      | true =>
        obtain rfl := List.mem_singleton.1 hb
        decide

/-- Where a counter comes from: the first line of the report with the label before a digit, or,
where there is none, what follows the report. -/
inductive Tells (label : Bytes) (n : Int) : List Entry → Int → Prop where
  | after : Tells label n [] n
  | silent {e : Entry} {entries : List Entry} {z : Int} (h : ∀ i, ¬ Announces label e.subject i)
    (hrest : Tells label n entries z) : Tells label n (e :: entries) z
  | told {e : Entry} {entries : List Entry} {i : Nat} {z : Int} (h : Announces label e.subject i)
    (hz : Counts label e.subject z) : Tells label n (e :: entries) z

namespace Apart

variable {label : Bytes} (h : Apart label)

include h

theorem counted_line (e : Entry) : counted label e.line = counted label e.subject := by
  cases e with
  | finding f hf zeros returned =>
    obtain ⟨more, hline, hmore⟩ := Entry.exists_finding_line hf zeros returned
    obtain ⟨b, rest, rfl, hb⟩ := h.head
    have hnil : counted (b :: rest) more = [] :=
      counted_of_notMem fun hm => absurd hb (Nat.not_lt.2 (hmore b hm))
    rw [hline, counted_append_cons h.comma (by decide), hnil, Entry.subject]
    split
    · rename_i hpath
      exact hpath.symm
    · rfl
  | other line hline hlists => rfl

theorem tells {n : Int} {more : Bytes} (hmore : count label more = n) (entries : List Entry) :
    Tells label n entries
      (count label (entries.flatMap (fun e => e.line ++ [Report.newline]) ++ more)) := by
  induction entries with
  | nil => exact hmore ▸ .after
  | cons e entries ih =>
    rw [List.flatMap_cons, List.append_assoc, List.append_assoc, List.singleton_append]
    generalize List.flatMap _ entries ++ more = back at ih ⊢
    have hcounted := counted_append_cons h.newline (by decide) e.line back
    rw [h.counted_line] at hcounted
    by_cases hnil : counted label e.subject = []
    · rw [if_pos hnil] at hcounted
      rw [count_congr hcounted]
      exact .silent (counted_eq_nil_iff.1 hnil) ih
    · rw [if_neg hnil] at hcounted
      rw [count_congr hcounted]
      obtain ⟨i, hi⟩ := not_forall_not.1 (mt counted_eq_nil_iff.2 hnil)
      exact .told hi (count_eq_iff.1 rfl)

end Apart

def summary (a b : Nat) : Bytes :=
  successfulText ++ decimal a ++ newline :: (errorsText ++ decimal b ++ [newline])

theorem count_label (label : Bytes) {n : Nat} (hn : n ≤ maxInt64) (more : Bytes) :
    count label (label ++ decimal n ++ newline :: more) = n := by
  have hspells := spells_decimal n
  have hdigit : ∀ b ∈ decimal n, isDigit b.toNat = true := by
    intro b hb
    simpa [isDigit] using hspells.digits b hb
  have hrun : leadingDigits (decimal n ++ newline :: more) = decimal n := by
    rw [leadingDigits, List.takeWhile_append_of_pos hdigit,
      List.takeWhile_cons_of_neg (by decide), List.append_nil]
  have hannounces : Announces label (label ++ decimal n ++ newline :: more) 0 := by
    obtain ⟨d, rest, hd⟩ := List.exists_cons_of_ne_nil hspells.ne_nil
    refine ⟨d, hdigit d (hd ▸ List.mem_cons_self), rest ++ newline :: more, ?_⟩
    rw [hd]
    simp
  refine count_eq_iff.2 (.fits hannounces (fun j hj => absurd hj (Nat.not_lt_zero j)) ?_ hn)
  rwa [Nat.zero_add, List.append_assoc, List.drop_left, hrun]

theorem count_summary_successful {a : Nat} (ha : a ≤ maxInt64) (b : Nat) :
    count successfulText (summary a b) = a :=
  count_label successfulText ha _

theorem count_summary_errors (a : Nat) {b : Nat} (hb : b ≤ maxInt64) :
    count errorsText (summary a b) = b := by
  have hnil : counted errorsText (successfulText ++ decimal a) = [] := by
    have hhead : errorsText = 0x45 :: encode "rrors: " := by decide +kernel
    rw [hhead]
    refine counted_of_notMem fun hm => ?_
    rcases List.mem_append.1 hm with hm | hm
    · revert hm
      decide +kernel
    · exact absurd ((spells_decimal a).digits _ hm).2 (by decide)
  have hcounted := counted_append_cons apart_errorsText.newline (by decide)
    (successfulText ++ decimal a) (errorsText ++ decimal b ++ [newline])
  rw [if_pos hnil] at hcounted
  rw [summary, count_congr hcounted]
  exact count_label errorsText hb []

def printed (entries : List Entry) (a b : Nat) : Bytes :=
  entries.flatMap (fun e => e.line ++ [newline]) ++ summary a b

theorem parse_printed (entries : List Entry) {a b : Nat} (ha : a ≤ maxInt64)
    (hb : b ≤ maxInt64) :
    Tells successfulText a entries (Counters.parse (printed entries a b)).successful ∧
      Tells errorsText b entries (Counters.parse (printed entries a b)).errors := by
  rw [successful_parse, errors_parse]
  exact ⟨apart_successfulText.tells (count_summary_successful ha b) entries,
    apart_errorsText.tells (count_summary_errors a hb) entries⟩

def plain : Entry :=
  .finding ⟨"x.c", 9, 3, 1, 8, 1⟩ ⟨by decide, by decide, by decide, by decide⟩
    #v[0, 2, 0, 0, 0] true

def planted : Entry :=
  .finding ⟨"Successful: 7.c", 1, 2, 3, 4, 5⟩ ⟨by decide, by decide, by decide, by decide⟩
    #v[0, 0, 0, 0, 0] false

theorem parse_printed_planted :
    (3 ≤ maxInt64 ∧ 1 ≤ maxInt64) ∧ Tells successfulText 3 [plain, planted] 7 ∧
      Tells errorsText 1 [plain, planted] 1 := by
  have ha : 3 ≤ maxInt64 := by decide
  have hb : 1 ≤ maxInt64 := by decide
  have h := parse_printed [plain, planted] ha hb
  have hread : Counters.parse (printed [plain, planted] 3 1) = ⟨7, 1⟩ := by decide +kernel
  rw [hread] at h
  exact ⟨⟨ha, hb⟩, h⟩

theorem parse_mistakes_planted :
    (¬ ∀ (entries : List Entry) (a b : Nat), (∀ e ∈ entries, e.finding?.isSome = true) →
      a ≤ maxInt64 → b ≤ maxInt64 → Counters.parse (printed entries a b) = ⟨a, b⟩) ∧
    Counters.parse (printed [planted] 3 1) = ⟨7, 1⟩ := by
  have hread : Counters.parse (printed [planted] 3 1) = ⟨7, 1⟩ := by decide +kernel
  refine ⟨fun h => ?_, hread⟩
  have hthree := h [planted] 3 1 (by simp [planted, Entry.finding?]) (by decide) (by decide)
  rw [hread] at hthree
  exact absurd (congrArg Counters.successful hthree) (by decide)

end CodeSurvey.Report
