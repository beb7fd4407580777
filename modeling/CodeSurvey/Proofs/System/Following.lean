import CodeSurvey.System.FileTree
import Mathlib.Data.List.Induction

/-! Where a path leads in a tree of files, and what a change of the tree does to it. -/

namespace CodeSurvey.FileTree

variable {t t' : FileTree} {l k : Location} {s : String} {ss : List String} {home : Location}
  {p : String} {e : Entry}

@[simp] theorem entry?_nil (t : FileTree) : t.entry? [] = some .directory := if_pos rfl

theorem entry?_of_ne (hl : l ≠ []) :
    t.entry? l = (t.entries.find? (fun x => x.1 == l)).map Prod.snd := if_neg hl

@[simp] theorem entry?_put (hl : l ≠ []) (t : FileTree) (e : Entry) (k : Location) :
    entry? (t.put l e) k = if k = l then some e else t.entry? k := by
  by_cases hk : k = []
  · subst hk
    simp [hl.symm]
  rw [entry?_of_ne hk, entry?_of_ne hk, put, List.find?_append, List.find?_filter]
  by_cases hkl : k = l
  · subst hkl
    have hnone : t.entries.find? (fun x => decide ((x.1 != k) = true ∧ (x.1 == k) = true)) =
        none := by
      simp
    rw [hnone, if_pos rfl]
    simp
  · have hsame : (fun x : Location × Entry => decide ((x.1 != l) = true ∧ (x.1 == k) = true)) =
        fun x => x.1 == k := by
      funext x
      by_cases hx : x.1 = k <;> simp [hx, hkl]
    have hlast : ([(l, e)] : List (Location × Entry)).find? (fun x => x.1 == k) = none := by
      simp [Ne.symm hkl]
    rw [hsame, hlast, if_neg hkl, Option.or_none]

theorem entry?_filter (keep : Location → Bool) (hkeep : keep [] = true) (t : FileTree)
    (k : Location) :
    entry? ⟨t.entries.filter (fun x => keep x.1)⟩ k =
      if keep k then t.entry? k else none := by
  by_cases hk : k = []
  · subst hk
    simp [hkeep]
  rw [entry?_of_ne hk, entry?_of_ne hk, List.find?_filter]
  split
  · rename_i hkept
    have hsame : (fun x : Location × Entry => decide (keep x.1 = true ∧ (x.1 == k) = true)) =
        fun x => x.1 == k := by
      funext x
      by_cases hx : x.1 = k <;> simp [hx, hkept]
    rw [hsame]
  · rename_i hdropped
    have hnone : t.entries.find? (fun x => decide (keep x.1 = true ∧ (x.1 == k) = true)) =
        none := by
      refine List.find?_eq_none.2 fun x _ hx => ?_
      simp only [beq_iff_eq, decide_eq_true_eq] at hx
      exact hdropped (hx.2 ▸ hx.1)
    rw [hnone, Option.map_none]

@[simp] theorem entry?_cut (hl : l ≠ []) (t : FileTree) (k : Location) :
    entry? (t.cut l) k = if l <+: k then none else t.entry? k := by
  have hkeep : (!l.isPrefixOf ([] : Location)) = true := by
    cases l with
    | nil => exact absurd rfl hl
    | cons s l => rfl
  rw [cut, entry?_filter (fun x => !l.isPrefixOf x) hkeep]
  by_cases h : l <+: k
  · simp [h, List.isPrefixOf_iff_prefix.2 h]
  · simp [h, mt List.isPrefixOf_iff_prefix.1 h]

@[simp] theorem entry?_clear (t : FileTree) (l k : Location) :
    entry? (t.clear l) k = if l <+: k ∧ k ≠ l then none else t.entry? k := by
  have hkeep : (!(l.isPrefixOf ([] : Location) && ([] : Location) != l)) = true := by
    cases l <;> rfl
  rw [clear, entry?_filter (fun x => !(l.isPrefixOf x && x != l)) hkeep]
  by_cases h : l <+: k
  · simp [h, List.isPrefixOf_iff_prefix.2 h]
  · simp [h, mt List.isPrefixOf_iff_prefix.1 h]

def step (l : Location) (segment : String) : Location :=
  if segment = "" ∨ segment = "." then l
  else if segment = ".." then l.dropLast
  else l ++ [segment]

theorem follow_cons_eq_ok_iff :
    t.follow l (s :: ss) = .ok k ↔
      t.entry? l = some .directory ∧ s.utf8ByteSize ≤ maxName ∧ t.follow (step l s) ss = .ok k := by
  rw [follow]
  cases t.entry? l with
  | none => simp
  | some e =>
    cases e with
    | file bytes => simp
    | directory =>
      simp only [step, true_and]
      by_cases hstay : s = "" ∨ s = "."
      · have hsize : s.utf8ByteSize ≤ maxName := by
          rcases hstay with rfl | rfl <;> decide
        simp [if_pos hstay, hsize]
      by_cases hup : s = ".."
      · have hsize : s.utf8ByteSize ≤ maxName := by
          subst hup
          decide
        simp [if_neg hstay, if_pos hup, hsize]
      · by_cases hlong : maxName < s.utf8ByteSize
        · simp [if_neg hstay, if_neg hup, hlong, Nat.not_le.2 hlong]
        · simp [if_neg hstay, if_neg hup, hlong, Nat.not_lt.1 hlong]

theorem follow_append_eq_ok_iff {ss' : List String} :
    t.follow l (ss ++ ss') = .ok k ↔ ∃ j, t.follow l ss = .ok j ∧ t.follow j ss' = .ok k := by
  induction ss generalizing l with
  | nil => simp [follow]
  | cons s ss ih =>
    simp only [List.cons_append, follow_cons_eq_ok_iff, ih]
    constructor
    · rintro ⟨hl, hs, j, hj, hk⟩
      exact ⟨j, ⟨hl, hs, hj⟩, hk⟩
    · rintro ⟨j, ⟨hl, hs, hj⟩, hk⟩
      exact ⟨hl, hs, j, hj, hk⟩

theorem entry?_of_follow (h : t.follow l ss = .ok k) (hss : ss ≠ []) :
    t.entry? l = some .directory := by
  cases ss with
  | nil => exact absurd rfl hss
  | cons s ss => exact (follow_cons_eq_ok_iff.1 h).1

def strides (ss : List String) : List String := ss.filter (fun s => s ≠ "" ∧ s ≠ ".")

@[simp] theorem strides_append (ss ss' : List String) :
    strides (ss ++ ss') = strides ss ++ strides ss' :=
  List.filter_append _ _

theorem strides_cons_of_stay (h : s = "" ∨ s = ".") (ss : List String) :
    strides (s :: ss) = strides ss := by
  rw [strides, List.filter_cons_of_neg]
  · rfl
  · rcases h with rfl | rfl <;> simp

theorem strides_cons_of_move (h : ¬ (s = "" ∨ s = ".")) (ss : List String) :
    strides (s :: ss) = s :: strides ss := by
  rw [strides, List.filter_cons_of_pos]
  · rfl
  · simpa using not_or.1 h

theorem step_of_stay (h : s = "" ∨ s = ".") (l : Location) : step l s = l := if_pos h

theorem follow_strides (h : t.follow l ss = .ok k) : t.follow l (strides ss) = .ok k := by
  induction ss generalizing l with
  | nil => exact h
  | cons s ss ih =>
    obtain ⟨hl, hs, hrest⟩ := follow_cons_eq_ok_iff.1 h
    by_cases hstay : s = "" ∨ s = "."
    · rw [strides_cons_of_stay hstay]
      rw [step_of_stay hstay] at hrest
      exact ih hrest
    · rw [strides_cons_of_move hstay]
      exact follow_cons_eq_ok_iff.2 ⟨hl, hs, ih hrest⟩

theorem follow_of_strides (h : t.follow l (strides ss) = .ok k)
    (hk : t.entry? k = some .directory) : t.follow l ss = .ok k := by
  induction ss generalizing l with
  | nil => exact h
  | cons s ss ih =>
    by_cases hstay : s = "" ∨ s = "."
    · rw [strides_cons_of_stay hstay] at h
      have hsize : s.utf8ByteSize ≤ maxName := by
        rcases hstay with rfl | rfl <;> decide
      -- A segment that stays asks for a directory: the next stride does so too, or the end is one.
      have hl : t.entry? l = some .directory := by
        cases hss : strides ss with
        | nil =>
          rw [hss] at h
          cases h
          exact hk
        | cons x xs => exact entry?_of_follow h (hss ▸ List.cons_ne_nil x xs)
      refine follow_cons_eq_ok_iff.2 ⟨hl, hsize, ?_⟩
      rw [step_of_stay hstay]
      exact ih h
    · rw [strides_cons_of_move hstay] at h
      obtain ⟨hl, hs, hrest⟩ := follow_cons_eq_ok_iff.1 h
      exact follow_cons_eq_ok_iff.2 ⟨hl, hs, ih hrest⟩

def destination (l : Location) (ss : List String) : Location := ss.foldl step l

@[simp] theorem destination_append (l : Location) (ss ss' : List String) :
    destination l (ss ++ ss') = destination (destination l ss) ss' := List.foldl_append

theorem destination_straight (hup : ".." ∉ ss) (l : Location) :
    destination l ss = l ++ strides ss := by
  induction ss generalizing l with
  | nil => simp [destination, strides]
  | cons s ss ih =>
    rw [List.mem_cons, not_or] at hup
    rw [destination, List.foldl_cons, ← destination, ih hup.2]
    by_cases hstay : s = "" ∨ s = "."
    · rw [step_of_stay hstay, strides_cons_of_stay hstay]
    · rw [strides_cons_of_move hstay, step, if_neg hstay, if_neg (Ne.symm hup.1)]
      simp

theorem follow_destination (h : t.follow l ss = .ok k) : k = destination l ss := by
  induction ss generalizing l with
  | nil =>
    cases h
    rfl
  | cons s ss ih => exact ih (follow_cons_eq_ok_iff.1 h).2.2

theorem follow_congr (h : ∀ k, t'.entry? k = t.entry? k) (l : Location) (ss : List String) :
    t'.follow l ss = t.follow l ss := by
  induction ss generalizing l with
  | nil => rfl
  | cons s ss ih => simp only [follow, h, ih]

theorem follow_mono (h : t.follow l ss = .ok k)
    (hd : ∀ j, t.entry? j = some .directory → t'.entry? j = some .directory) :
    t'.follow l ss = .ok k := by
  induction ss generalizing l with
  | nil => exact h
  | cons s ss ih =>
    obtain ⟨hl, hs, hrest⟩ := follow_cons_eq_ok_iff.1 h
    exact follow_cons_eq_ok_iff.2 ⟨hd l hl, hs, ih hrest⟩

theorem follow_transfer (h : t.follow l ss = .ok k) (hup : ".." ∉ ss)
    (hd : ∀ j, j <+: k → t.entry? j = some .directory → t'.entry? j = some .directory) :
    t'.follow l ss = .ok k := by
  induction ss generalizing l with
  | nil => exact h
  | cons s ss ih =>
    -- Without a step upward, every place on the way is above the end or is the end.
    have hk := follow_destination h
    rw [destination_straight hup] at hk
    obtain ⟨hl, hs, hrest⟩ := follow_cons_eq_ok_iff.1 h
    have hup' : ".." ∉ ss := fun hm => hup (List.mem_cons_of_mem _ hm)
    exact follow_cons_eq_ok_iff.2 ⟨hd l (hk ▸ List.prefix_append l _) hl, hs, ih hrest hup'⟩

theorem locate_eq_ok_iff :
    t.locate home p = .ok l ↔
      checkPath p = .ok () ∧ t.follow (origin home p) (Path.segments p) = .ok l := by
  rw [locate]
  cases checkPath p with
  | error e => simp [bind, Except.bind]
  | ok u => simp [bind, Except.bind]

def place (home : Location) (p : String) : Location :=
  destination (origin home p) (Path.segments p)

theorem locate_place (h : t.locate home p = .ok l) : l = place home p :=
  follow_destination (locate_eq_ok_iff.1 h).2

theorem status_eq_ok_iff :
    t.status home p = .ok (l, e) ↔ checkPath p = .ok () ∧
      t.follow (origin home p) (Path.segments p) = .ok l ∧ t.entry? l = some e := by
  rw [status, ← and_assoc, ← locate_eq_ok_iff]
  cases t.locate home p with
  | error x => simp
  | ok j =>
    simp only [Except.ok.injEq]
    constructor
    · intro h
      split at h
      · cases h
      · rename_i d hd
        cases h
        exact ⟨rfl, hd⟩
    · rintro ⟨rfl, he⟩
      simp [he]

theorem status_place (h : t.status home p = .ok (l, e)) : l = place home p :=
  follow_destination (status_eq_ok_iff.1 h).2.1

theorem doesExist_iff :
    t.doesExist home p = true ↔ ∃ l e, t.status home p = .ok (l, e) := by
  rw [doesExist]
  cases t.status home p with
  | error x => simp [Except.toOption]
  | ok found => exact ⟨fun _ => ⟨found.1, found.2, rfl⟩, fun _ => rfl⟩

theorem isDirectory_iff :
    t.isDirectory home p = true ↔ ∃ l, t.status home p = .ok (l, .directory) := by
  rw [isDirectory]
  rcases t.status home p with x | ⟨l, e⟩
  · simp
  · cases e <;> simp

theorem isFile_iff :
    t.isFile home p = true ↔ ∃ l bytes, t.status home p = .ok (l, .file bytes) := by
  rw [isFile]
  rcases t.status home p with x | ⟨l, e⟩
  · simp
  · cases e <;> simp

theorem locate_congr (h : ∀ k, t'.entry? k = t.entry? k) (home : Location) (p : String) :
    t'.locate home p = t.locate home p := by
  simp only [locate, follow_congr h]

theorem status_congr (h : ∀ k, t'.entry? k = t.entry? k) (home : Location) (p : String) :
    t'.status home p = t.status home p := by
  simp only [status, locate_congr h, h]

def Grounded (t : FileTree) : Prop :=
  ∀ l e, t.entry? l = some e → l ≠ [] → t.entry? l.dropLast = some .directory

namespace Grounded

theorem of_entries (h : ∀ x ∈ t.entries, t.entry? x.1.dropLast = some .directory) :
    t.Grounded := by
  intro l e he hl
  rw [entry?_of_ne hl] at he
  obtain ⟨x, hx, -⟩ := Option.map_eq_some_iff.1 he
  have hxl : x.1 = l := by simpa using List.find?_some hx
  exact hxl ▸ h x (List.mem_of_find?_eq_some hx)

theorem above (ht : t.Grounded) (he : t.entry? k = some e) (hl : l <+: k) (hne : l ≠ k) :
    t.entry? l = some .directory := by
  induction k using List.reverseRecOn generalizing e with
  | nil => exact absurd (List.prefix_nil.1 hl) hne
  | append_singleton k s ih =>
    have hk := ht _ e he (by simp)
    rw [List.dropLast_concat] at hk
    rcases List.prefix_concat_iff.1 hl with rfl | hl
    · exact absurd rfl hne
    · by_cases hlk : l = k
      · exact hlk ▸ hk
      · exact ih hk hl hlk

theorem below (ht : t.Grounded) (hl : t.entry? l = none) (hk : l <+: k) : t.entry? k = none := by
  by_contra hsome
  obtain ⟨e, he⟩ := Option.ne_none_iff_exists'.1 hsome
  by_cases hne : l = k
  · rw [hne, he] at hl
    cases hl
  · rw [ht.above he hk hne] at hl
    cases hl

theorem follow_above (ht : t.Grounded) (h : t.follow l ss = .ok k) (hss : ss ≠ []) :
    k = [] ∨ t.entry? k.dropLast = some .directory := by
  have hd : ∀ j, t.entry? j = some .directory → j = [] ∨ t.entry? j.dropLast = some .directory :=
    fun j hj => or_iff_not_imp_left.2 (ht j _ hj)
  have hl := hd l (entry?_of_follow h hss)
  clear hss
  induction ss generalizing l with
  | nil =>
    cases h
    exact hl
  | cons s ss ih =>
    obtain ⟨hdir, -, hrest⟩ := follow_cons_eq_ok_iff.1 h
    refine ih hrest ?_
    rw [step]
    split
    · exact hl
    split
    · rcases hl with rfl | hup
      · exact Or.inl rfl
      · exact hd _ hup
    · rw [List.dropLast_concat]
      exact Or.inr hdir

end Grounded

end CodeSurvey.FileTree
