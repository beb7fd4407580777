import CodeSurvey.Proofs.System.Following

/-! Writing a file. -/

namespace CodeSurvey.FileTree

variable {t : FileTree} {l : Location} {home : Location} {p : String} {bytes : Text.Utf8.Bytes}

def target (t : FileTree) (home : Location) (p : String) : Except SystemError Location := do
  checkPath p
  let l ← t.follow (origin home p) (targetSegments p)
  if t.entry? l = some .directory then throw .isADirectory
  return l

theorem write_eq (t : FileTree) (home : Location) (p : String) (bytes : Text.Utf8.Bytes) :
    t.write home p bytes = (t.target home p).map fun l => t.put l (.file bytes) := by
  simp only [write, target]
  cases checkPath p with
  | error e => rfl
  | ok u =>
    cases hfollow : t.follow (origin home p) (targetSegments p) with
    | error e => rfl
    | ok l =>
      by_cases hd : t.entry? l = some .directory
      · simp [hd, bind, Except.bind, Except.map, throw, throwThe, MonadExceptOf.throw]
      · simp [hd, bind, Except.bind, Except.map, pure, Except.pure]

theorem target_eq_ok_iff :
    t.target home p = .ok l ↔ checkPath p = .ok () ∧
      t.follow (origin home p) (targetSegments p) = .ok l ∧ t.entry? l ≠ some .directory := by
  simp only [target]
  cases checkPath p with
  | error e => simp [bind, Except.bind]
  | ok u =>
    cases t.follow (origin home p) (targetSegments p) with
    | error e => simp [bind, Except.bind]
    | ok k =>
      by_cases hd : t.entry? k = some .directory
      · suffices k = l → t.entry? l = some .directory by
          simpa [hd, bind, Except.bind, throw, throwThe, MonadExceptOf.throw] using this
        rintro rfl
        exact hd
      · suffices k = l → t.entry? l ≠ some .directory by
          simpa [hd, bind, Except.bind, pure, Except.pure] using this
        rintro rfl
        exact hd

theorem follow_of_target (h : t.target home p = .ok l) :
    t.follow (origin home p) (Path.segments p) = .ok l := by
  obtain ⟨-, hfollow, hl⟩ := target_eq_ok_iff.1 h
  rw [targetSegments] at hfollow
  split at hfollow
  · exact hfollow
  · obtain ⟨j, -, hj⟩ := follow_append_eq_ok_iff.1 hfollow
    obtain ⟨hdir, -, hend⟩ := follow_cons_eq_ok_iff.1 hj
    rw [step_of_stay (Or.inr rfl)] at hend
    cases hend
    exact absurd hdir hl

@[simp] theorem put_put (t : FileTree) (l : Location) (d e : Entry) :
    (t.put l d).put l e = t.put l e := by
  simp [put, List.filter_append, List.filter_filter]

theorem directory_put_over (hl : t.entry? l ≠ some .directory) {j : Location}
    (hj : t.entry? j = some .directory) (e : Entry) :
    entry? (t.put l e) j = some .directory := by
  have hne : l ≠ [] := fun h => hl (h ▸ entry?_nil t)
  have hjl : j ≠ l := fun h => hl (h ▸ hj)
  simp [hne, hjl, hj]

theorem status_put (h : t.target home p = .ok l) (bytes : Text.Utf8.Bytes) :
    (t.put l (.file bytes)).status home p = .ok (l, .file bytes) := by
  obtain ⟨hpath, -, hl⟩ := target_eq_ok_iff.1 h
  have hne : l ≠ [] := fun h => hl (h ▸ entry?_nil t)
  refine status_eq_ok_iff.2 ⟨hpath, ?_, ?_⟩
  · exact follow_mono (follow_of_target h) fun j hj => directory_put_over hl hj _
  · simp [hne]

theorem read_put (h : t.target home p = .ok l) (bytes : Text.Utf8.Bytes) :
    (t.put l (.file bytes)).read home p = .ok bytes := by
  rw [read, status_put h]

end CodeSurvey.FileTree
