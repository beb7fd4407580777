import CodeSurvey.Proofs.System.Making

/-! Directories that are removed. -/

namespace CodeSurvey.FileTree

open CodeSurvey.Path (segments)

variable {t : FileTree} {home l k : Location} {p : String} {e : Entry}

inductive Removes (home : Location) (p : String) (t : FileTree) :
    Except SystemError Unit × FileTree → Prop where
  | missing {x : SystemError} (h : t.status home p = .error x) : Removes home p t (.error x, t)
  | file {l : Location} {bytes : Text.Utf8.Bytes} (h : t.status home p = .ok (l, .file bytes)) :
      Removes home p t (.error .notADirectory, t)
  | emptied {l : Location} (h : t.status home p = .ok (l, .directory))
      (hdot : (segments p).getLast? = some ".") :
      Removes home p t (.error .invalidArgument, t.clear l)
  | gone {l : Location} (h : t.status home p = .ok (l, .directory))
      (hdot : (segments p).getLast? ≠ some ".") : Removes home p t (.ok (), t.cut l)

theorem removeDirectory_removes (t : FileTree) (home : Location) (p : String) :
    Removes home p t (t.removeDirectory home p) := by
  rw [removeDirectory]
  split
  · rename_i h
    exact .missing h
  · rename_i h
    exact .file h
  · rename_i h
    split
    · rename_i hdot
      exact .emptied h hdot
    · rename_i hdot
      exact .gone h hdot

theorem entry?_removeDirectory (hk : ¬ place home p <+: k) :
    entry? (t.removeDirectory home p).2 k = t.entry? k := by
  have hremoves := removeDirectory_removes t home p
  generalize t.removeDirectory home p = r at hremoves
  cases hremoves with
  | missing _ => rfl
  | file _ => rfl
  | @emptied l hl hdot =>
    rw [← status_place hl] at hk
    simp [hk]
  | @gone l hl hdot =>
    rw [← status_place hl] at hk
    have hne : l ≠ [] := by
      rintro rfl
      exact hk List.nil_prefix
    simp [hne, hk]

theorem exists_of_removeDirectory (hroot : place home p ≠ [])
    (h : (t.removeDirectory home p).2.doesExist home p = true) :
    t.isFile home p = true ∨
      t.isDirectory home p = true ∧ (segments p).getLast? = some "." := by
  have hremoves := removeDirectory_removes t home p
  generalize t.removeDirectory home p = r at h hremoves
  cases hremoves with
  | missing hmissing =>
    obtain ⟨l, e, hl⟩ := doesExist_iff.1 h
    rw [hmissing] at hl
    cases hl
  | @file l bytes hl => exact Or.inl (isFile_iff.2 ⟨l, bytes, hl⟩)
  | @emptied l hl hdot => exact Or.inr ⟨isDirectory_iff.2 ⟨l, hl⟩, hdot⟩
  | @gone l hl _ =>
    obtain ⟨k, e, hk⟩ := doesExist_iff.1 h
    obtain ⟨-, -, hentry⟩ := status_eq_ok_iff.1 hk
    rw [status_place hk, status_place hl, entry?_cut hroot, if_pos List.prefix_rfl] at hentry
    cases hentry

theorem doesExist_removeDirectory_of_isFile (h : t.isFile home p = true) :
    (t.removeDirectory home p).2.doesExist home p = true := by
  obtain ⟨l, bytes, hl⟩ := isFile_iff.1 h
  rw [removeDirectory, hl]
  exact doesExist_iff.2 ⟨l, .file bytes, hl⟩

theorem doesExist_removeDirectory_of_dot (hup : ".." ∉ segments p)
    (h : t.isDirectory home p = true) (hdot : (segments p).getLast? = some ".") :
    (t.removeDirectory home p).2.doesExist home p = true := by
  obtain ⟨l, hl⟩ := isDirectory_iff.1 h
  have hremoved : t.removeDirectory home p = (.error .invalidArgument, t.clear l) := by
    simp only [removeDirectory, hl, if_pos hdot]
  rw [hremoved]
  obtain ⟨hcheck, hfollow, hentry⟩ := status_eq_ok_iff.1 hl
  -- Only what is below the end goes, and a straight path meets nothing below its end.
  have hkept : ∀ j, j <+: l → entry? (t.clear l) j = t.entry? j := by
    intro j hj
    rw [entry?_clear, if_neg]
    rintro ⟨hlj, hne⟩
    exact hne (hj.eq_of_length_le hlj.length_le)
  have hfollow' : (t.clear l).follow (origin home p) (segments p) = .ok l :=
    follow_transfer hfollow hup fun j hj hd => (hkept j hj).trans hd
  have hentry' := (hkept l List.prefix_rfl).trans hentry
  exact doesExist_iff.2 ⟨l, .directory, status_eq_ok_iff.2 ⟨hcheck, hfollow', hentry'⟩⟩

end CodeSurvey.FileTree
