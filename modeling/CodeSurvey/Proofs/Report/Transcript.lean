import CodeSurvey.Proofs.Report.Grammar

/-! What the analyzer prints, as a transcript. -/

namespace CodeSurvey.Report

open Text.Utf8 (Bytes encode encode_eq_nil_iff mem_encode_iff)
open Text.Numeral (Spells maxInt64 padded spells_padded)

theorem writes_iff {field : Bytes} {z : Int} :
    Writes field z ↔ (0 ≤ z ∧ z ≤ maxInt64) ∧ ∃ zeros, field = padded zeros z.toNat := by
  constructor
  · rintro ⟨n, hn, hmax, rfl⟩
    exact ⟨⟨Int.natCast_nonneg n, Int.ofNat_le.2 hmax⟩, hn.exists_padded⟩
  · rintro ⟨⟨hpos, hmax⟩, zeros, rfl⟩
    have hz : (z.toNat : Int) = z := Int.toNat_of_nonneg hpos
    exact ⟨z.toNat, spells_padded zeros z.toNat, Int.toNat_le.2 hmax, hz.symm⟩

def numerals (zeros : List Nat) (zs : List Int) : List Bytes :=
  List.zipWith (fun k z => padded k z.toNat) zeros zs

theorem forall₂_writes_iff {fields : List Bytes} {zs : List Int} :
    List.Forall₂ Writes fields zs ↔ (∀ z ∈ zs, 0 ≤ z ∧ z ≤ maxInt64) ∧
      ∃ zeros, zeros.length = zs.length ∧ fields = numerals zeros zs := by
  constructor
  · intro h
    induction h with
    | nil => exact ⟨List.forall_mem_nil _, [], rfl, rfl⟩
    | cons hw _ ih =>
      obtain ⟨hz, k, rfl⟩ := writes_iff.1 hw
      obtain ⟨hzs, zeros, hlength, rfl⟩ := ih
      exact ⟨List.forall_mem_cons.2 ⟨hz, hzs⟩, k :: zeros, congrArg Nat.succ hlength, rfl⟩
  · rintro ⟨hzs, zeros, hlength, rfl⟩
    induction zs generalizing zeros with
    | nil =>
      obtain rfl := List.length_eq_zero_iff.1 hlength
      exact .nil
    | cons z zs ih =>
      obtain ⟨hz, hzs⟩ := List.forall_mem_cons.1 hzs
      cases zeros with
      | nil => cases hlength
      | cons k zeros =>
        exact .cons (writes_iff.2 ⟨hz, k, rfl⟩) (ih hzs zeros (Nat.succ.inj hlength))

structure Printable (f : Finding) : Prop where
  named : f.path ≠ ""
  comma : ',' ∉ f.path.toList
  newline : '\n' ∉ f.path.toList
  fields : ∀ z ∈ f.site.fields, 0 ≤ z ∧ z ≤ maxInt64

theorem Printable.writes {f : Finding} (h : Printable f) (zeros : Vector Nat 5) :
    List.Forall₂ Writes (numerals zeros.toList f.site.fields) f.site.fields :=
  forall₂_writes_iff.2 ⟨h.fields, zeros.toList, zeros.length_toList, rfl⟩

inductive Entry where
  | finding (f : Finding) (h : Printable f) (zeros : Vector Nat 5) (returned : Bool)
  | other (line : Bytes) (hline : newline ∉ line) (h : ∀ f, ¬ Lists line f)

namespace Entry

def line : Entry → Bytes
  | finding f _ zeros returned =>
    [comma].intercalate (encode f.path :: numerals zeros.toList f.site.fields) ++
      if returned then [carriageReturn] else []
  | other line _ _ => line

def finding? : Entry → Option Finding
  | finding f _ _ _ => some f
  | other _ _ _ => none

theorem parseLine_line (e : Entry) : parseLine e.line = e.finding? := by
  cases e with
  | finding f h zeros returned =>
    have hcomma : comma ∉ encode f.path := mt (mem_encode_iff (by decide)).1 h.comma
    refine parseLine_eq_some_iff.2 ⟨encode f.path, _, _, rfl, ?_, hcomma,
      mt encode_eq_nil_iff.1 h.named, rfl, h.writes zeros⟩
    cases returned with
    | false => exact Or.inl rfl
    | true => exact Or.inr rfl
  | other line hline h =>
    refine Option.eq_none_iff_forall_ne_some.2 fun f hf => ?_
    exact h f (parseLine_eq_some_iff.1 hf)

theorem newline_notMem_line (e : Entry) : newline ∉ e.line := by
  cases e with
  | finding f h zeros returned =>
    have hpath : newline ∉ encode f.path := mt (mem_encode_iff (by decide)).1 h.newline
    rw [line, intercalate_comma_cons]
    intro hm
    rcases List.mem_append.1 hm with hm | hm
    · rcases List.mem_append.1 hm with hm | hm
      · exact hpath hm
      obtain ⟨field, hfield, hm⟩ := List.mem_flatMap.1 hm
      obtain ⟨z, hz⟩ := exists_writes_of_mem (h.writes zeros) hfield
      rcases List.mem_cons.1 hm with hm | hm
      · exact absurd hm (by decide)
      · exact hz.notMem (by decide) hm
    · cases returned with
      | false => cases hm
      | true => exact absurd hm (by decide)
  | other line hline => exact hline

theorem exists_line_eq {line : Bytes} (h : newline ∉ line) : ∃ e : Entry, e.line = line := by
  by_cases hf : ∃ f, Lists line f
  · obtain ⟨f, path, fields, ending, rfl, hending, hcomma, hne, rfl, hfields⟩ := hf
    obtain ⟨hrange, zeros, hlength, rfl⟩ := forall₂_writes_iff.1 hfields
    have hpath : newline ∉ encode f.path := by
      intro hm
      exact h (by simp [intercalate_comma_cons, hm])
    have hprint : Printable f :=
      { named := mt encode_eq_nil_iff.2 hne
        comma := mt (mem_encode_iff (b := Report.comma) (by decide)).2 hcomma
        newline := mt (mem_encode_iff (b := Report.newline) (by decide)).2 hpath
        fields := hrange }
    rcases hending with rfl | rfl
    · exact ⟨.finding f hprint ⟨zeros.toArray, hlength⟩ false, rfl⟩
    · exact ⟨.finding f hprint ⟨zeros.toArray, hlength⟩ true, rfl⟩
  · exact ⟨.other line h (not_exists.1 hf), rfl⟩

end Entry

structure Transcript where
  entries : List Entry
  rest : Bytes
  unended : newline ∉ rest

namespace Transcript

def text (t : Transcript) : Bytes :=
  t.entries.flatMap (fun e => e.line ++ [newline]) ++ t.rest

def findings (t : Transcript) : List Finding :=
  t.entries.filterMap Entry.finding?

theorem splitOn_text (t : Transcript) :
    t.text.splitOn newline = t.entries.map Entry.line ++ [t.rest] := by
  obtain ⟨entries, rest, hrest⟩ := t
  induction entries with
  | nil => exact List.splitOn_eq_singleton hrest
  | cons e entries ih =>
    rw [text] at ih ⊢
    rw [List.flatMap_cons, List.append_assoc, List.append_assoc, List.singleton_append,
      List.splitOn_append_cons_self_of_not_mem e.newline_notMem_line, ih, List.map_cons,
      List.cons_append]

theorem parse_text (t : Transcript) : parse t.text = t.findings := by
  rw [parse, lines, splitOn_text, List.dropLast_concat, List.filterMap_map, findings]
  congr 1
  funext e
  exact e.parseLine_line

theorem intercalate_concat (ls : List Bytes) (rest : Bytes) :
    [newline].intercalate (ls ++ [rest]) = ls.flatMap (· ++ [newline]) ++ rest := by
  induction ls with
  | nil => exact List.intercalate_singleton
  | cons l ls ih =>
    have hne : ls ++ [rest] ≠ [] := List.append_ne_nil_of_right_ne_nil _ (List.cons_ne_nil _ _)
    rw [List.cons_append, List.intercalate_cons_of_ne_nil hne, ih, List.flatMap_cons,
      List.append_assoc (l ++ [newline])]

theorem exists_entries {ls : List Bytes} (h : ∀ l ∈ ls, newline ∉ l) :
    ∃ entries : List Entry, entries.map Entry.line = ls := by
  induction ls with
  | nil => exact ⟨[], rfl⟩
  | cons l ls ih =>
    obtain ⟨hl, hls⟩ := List.forall_mem_cons.1 h
    obtain ⟨e, rfl⟩ := Entry.exists_line_eq hl
    obtain ⟨entries, rfl⟩ := ih hls
    exact ⟨e :: entries, rfl⟩

theorem exists_text_eq (report : Bytes) : ∃ t : Transcript, t.text = report := by
  obtain ⟨ls, rest, hsplit⟩ : ∃ ls rest, report.splitOn newline = ls ++ [rest] :=
    ⟨_, _, (List.dropLast_append_getLast (List.splitOn_ne_nil newline report)).symm⟩
  have hnotMem : ∀ l ∈ ls ++ [rest], newline ∉ l := by
    rw [← hsplit]
    intro l
    exact Text.not_mem_of_mem_splitOn
  have hreport : [newline].intercalate (report.splitOn newline) = report :=
    List.intercalate_splitOn newline
  rw [hsplit, intercalate_concat] at hreport
  obtain ⟨entries, rfl⟩ := exists_entries fun l hl => hnotMem l (List.mem_append_left _ hl)
  refine ⟨⟨entries, rest, hnotMem rest List.mem_concat_self⟩, ?_⟩
  rw [text, ← hreport, List.flatMap_map]

end Transcript

/-- A report reads as some findings exactly when it is a transcript that lists them, in their order:
with other lines among theirs, zeros before integers, carriage returns, and an end left open. -/
theorem parse_eq_iff {report : Bytes} {fs : List Finding} :
    parse report = fs ↔ ∃ t : Transcript, t.text = report ∧ t.findings = fs := by
  constructor
  · rintro rfl
    obtain ⟨t, rfl⟩ := Transcript.exists_text_eq report
    exact ⟨t, rfl, t.parse_text.symm⟩
  · rintro ⟨t, rfl, rfl⟩
    exact t.parse_text

end CodeSurvey.Report
