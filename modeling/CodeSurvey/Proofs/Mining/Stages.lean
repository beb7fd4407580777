import CodeSurvey.Mining.Repository
import CodeSurvey.Proofs.Store.Recorded

/-! Mining one repository in its two halves. -/

namespace CodeSurvey.Mining

variable {σ : Type}

inductive Prepared where
  | ready (marker : Marker) (newMatches : Nat) (stage : Stage) (copy : Option WorkingCopy)
  | stuck (reason : StoreError)

def prepare (shop : Workshop σ) (r : Repository) (s : Shift σ) : Prepared × Shift σ :=
  match s.obtain shop r with
  | (.error _, s) => (.ready (.failed r.id .cloneFailed .zero) 0 .pending none, s)
  | (.ok copy, s) =>
    match s.analyze shop r copy with
    | (.error failure, s) =>
      (.ready (.failed r.id .analyzerFailed failure.elapsed.elapsed) 0 .cloned (some copy), s)
    | (.ok run, s) =>
      match s.store.recordReport r.id run.report with
      | .error e => (.stuck e, s)
      | .ok (recording, store) =>
        (.ready (markerOf r run) recording.newMatches .interned (some copy),
          { s with store := store })

def conclude (shop : Workshop σ) (removing : Bool) : Prepared × Shift σ → Ending × Shift σ
  | (.ready marker newMatches stage copy, s) => s.mark shop removing marker newMatches stage copy
  | (.stuck e, s) => (.unmarked .analyzed (.storage e), s)

theorem mineOne_eq (shop : Workshop σ) (removing : Bool) (r : Repository) (s : Shift σ) :
    mineOne shop removing r s = conclude shop removing (prepare shop r s) := by
  unfold mineOne prepare
  cases ho : s.obtain shop r with
  | mk answer t =>
    cases answer with
    | error e => rfl
    | ok copy =>
      cases ha : t.analyze shop r copy with
      | mk answer u =>
        cases answer with
        | error failure => simp only [ha, conclude]
        | ok run =>
          simp only [ha]
          cases u.store.recordReport r.id run.report <;> rfl

inductive Prepares (shop : Workshop σ) (r : Repository) (s : Shift σ) :
    Prepared × Shift σ → Prop where
  | uncloned {e : Fault} {m : σ} (ho : shop.obtain r.cloneUrl r.name s.memory = (.error e, m)) :
    Prepares shop r s (.ready (.failed r.id .cloneFailed .zero) 0 .pending none,
      ⟨s.store, m, s.calls ++ [.clone r.cloneUrl r.name]⟩)
  | unanalyzed {copy : WorkingCopy} {failure : AnalyzerFailure} {m m' : σ}
    (ho : shop.obtain r.cloneUrl r.name s.memory = (.ok copy, m))
    (ha : shop.analyze copy.path (toString r.id) m = (.error failure, m')) :
    Prepares shop r s
      (.ready (.failed r.id .analyzerFailed failure.elapsed.elapsed) 0 .cloned (some copy),
        ⟨s.store, m',
          s.calls ++ [.clone r.cloneUrl r.name, .analyze copy.path (toString r.id)]⟩)
  | stuck {copy : WorkingCopy} {run : AnalyzerRun} {m m' : σ} {e : StoreError}
    (ho : shop.obtain r.cloneUrl r.name s.memory = (.ok copy, m))
    (ha : shop.analyze copy.path (toString r.id) m = (.ok run, m'))
    (hr : s.store.recordReport r.id run.report = .error e) :
    Prepares shop r s (.stuck e,
      ⟨s.store, m', s.calls ++ [.clone r.cloneUrl r.name, .analyze copy.path (toString r.id)]⟩)
  | interned {copy : WorkingCopy} {run : AnalyzerRun} {m m' : σ} {recording : Store.Recording}
    {store : Store} (ho : shop.obtain r.cloneUrl r.name s.memory = (.ok copy, m))
    (ha : shop.analyze copy.path (toString r.id) m = (.ok run, m'))
    (hr : s.store.recordReport r.id run.report = .ok (recording, store)) :
    Prepares shop r s (.ready (markerOf r run) recording.newMatches .interned (some copy),
      ⟨store, m', s.calls ++ [.clone r.cloneUrl r.name, .analyze copy.path (toString r.id)]⟩)

theorem prepares (shop : Workshop σ) (r : Repository) (s : Shift σ) :
    Prepares shop r s (prepare shop r s) := by
  unfold prepare Shift.obtain Shift.analyze
  cases ho : shop.obtain r.cloneUrl r.name s.memory with
  | mk answer m =>
    cases answer with
    | error e => exact .uncloned ho
    | ok copy =>
      cases ha : shop.analyze copy.path (toString r.id) m with
      | mk answer m' =>
        cases answer with
        | error failure =>
          simp only [ha, List.append_assoc]
          exact .unanalyzed ho ha
        | ok run =>
          simp only [ha, List.append_assoc]
          cases hr : s.store.recordReport r.id run.report with
          | error e => exact .stuck ho ha hr
          | ok result => exact .interned ho ha hr

variable {shop : Workshop σ} {r : Repository} {s : Shift σ} {p : Prepared × Shift σ}

theorem Prepares.grows (h : Prepares shop r s p) : s.store.ResultsGrow p.2.store := by
  cases h with
  | uncloned ho => exact .refl _
  | unanalyzed ho ha => exact .refl _
  | stuck ho ha hr => exact .refl _
  | interned ho ha hr => exact .recordReport hr

theorem Prepares.consistent (h : Prepares shop r s p) (hs : s.store.Consistent) :
    p.2.store.Consistent := by
  cases h with
  | uncloned ho => exact hs
  | unanalyzed ho ha => exact hs
  | stuck ho ha hr => exact hs
  | interned ho ha hr => exact hs.recordReport hr

theorem Prepares.marker_repository (h : Prepares shop r s p) {marker : Marker} {newMatches : Nat}
    {stage : Stage} {copy : Option WorkingCopy} (hp : p.1 = .ready marker newMatches stage copy) :
    marker.repository = r.id := by
  cases h with
  | uncloned ho => cases hp; rfl
  | unanalyzed ho ha => cases hp; rfl
  | stuck ho ha hr => cases hp
  | interned ho ha hr => cases hp; rfl

inductive Concludes (shop : Workshop σ) (removing : Bool) (p : Prepared × Shift σ) :
    Ending × Shift σ → Prop where
  | stuck {e : StoreError} (hp : p.1 = .stuck e) :
    Concludes shop removing p (.unmarked .analyzed (.storage e), p.2)
  | refused {marker : Marker} {newMatches : Nat} {stage : Stage} {copy : Option WorkingCopy}
    {e : StoreError} (hp : p.1 = .ready marker newMatches stage copy)
    (hm : p.2.store.mark marker = .error e) :
    Concludes shop removing p (.unmarked stage (.storage e), p.2)
  | kept {marker : Marker} {newMatches : Nat} {stage : Stage} {copy : Option WorkingCopy}
    {store : Store} (hp : p.1 = .ready marker newMatches stage copy)
    (hm : p.2.store.mark marker = .ok store) (hc : removing = false ∨ copy = none) :
    Concludes shop removing p (.marked marker newMatches, { p.2 with store := store })
  | removed {marker : Marker} {newMatches : Nat} {stage : Stage} {copy : WorkingCopy}
    {store : Store} (hp : p.1 = .ready marker newMatches stage (some copy))
    (hm : p.2.store.mark marker = .ok store) (hr : removing = true) :
    Concludes shop removing p
      (.marked marker newMatches, Shift.remove shop copy { p.2 with store := store })

theorem concludes (shop : Workshop σ) (removing : Bool) (p : Prepared × Shift σ) :
    Concludes shop removing p (conclude shop removing p) := by
  obtain ⟨prepared, s⟩ := p
  cases prepared with
  | stuck e => exact .stuck rfl
  | ready marker newMatches stage copy =>
    simp only [conclude, Shift.mark]
    cases hm : s.store.mark marker with
    | error e => exact .refused rfl hm
    | ok store =>
      cases removing with
      | false => cases copy <;> exact .kept rfl hm (Or.inl rfl)
      | true =>
        cases copy with
        | none => exact .kept rfl hm (Or.inr rfl)
        | some copy => exact .removed rfl hm rfl

variable {removing : Bool} {d : Ending × Shift σ}

theorem Concludes.store (h : Concludes shop removing p d) :
    d.2.store = p.2.store ∨
      ∃ marker newMatches stage copy, p.1 = .ready marker newMatches stage copy ∧
        p.2.store.mark marker = .ok d.2.store := by
  cases h with
  | stuck hp => exact Or.inl rfl
  | refused hp hm => exact Or.inl rfl
  | kept hp hm hc => exact Or.inr ⟨_, _, _, _, hp, hm⟩
  | removed hp hm hr => exact Or.inr ⟨_, _, _, _, hp, hm⟩

theorem Concludes.store_of_mark (h : Concludes shop removing p d) {marker : Marker}
    {newMatches : Nat} {stage : Stage} {copy : Option WorkingCopy} {store : Store}
    (hr : p.1 = .ready marker newMatches stage copy) (hm : p.2.store.mark marker = .ok store) :
    d.2.store = store := by
  cases h with
  | stuck hp => simp [hr] at hp
  | refused hp he =>
    rw [hr] at hp
    cases hp
    simp [hm] at he
  | kept hp hm' _ =>
    rw [hr] at hp
    cases hp
    exact Except.ok.inj (hm'.symm.trans hm)
  | removed hp hm' _ =>
    rw [hr] at hp
    cases hp
    exact Except.ok.inj (hm'.symm.trans hm)

theorem Concludes.store_of_error (h : Concludes shop removing p d) {marker : Marker}
    {newMatches : Nat} {stage : Stage} {copy : Option WorkingCopy} {e : StoreError}
    (hr : p.1 = .ready marker newMatches stage copy) (hm : p.2.store.mark marker = .error e) :
    d.2.store = p.2.store := by
  rcases h.store with he | ⟨m, _, _, _, hr', hm'⟩
  · exact he
  · rw [hr] at hr'
    cases hr'
    rw [hm] at hm'
    cases hm'

theorem mineOne_consistent (shop : Workshop σ) (removing : Bool) (r : Repository)
    (hs : s.store.Consistent) : (mineOne shop removing r s).2.store.Consistent := by
  rw [mineOne_eq]
  have hp := (prepares shop r s).consistent hs
  rcases (concludes shop removing (prepare shop r s)).store with h | ⟨marker, _, _, _, -, hm⟩
  · rw [h]
    exact hp
  · exact hp.mark hm

@[simp] theorem mineOne_refusals (shop : Workshop σ) (removing : Bool) (r : Repository)
    (s : Shift σ) :
    (mineOne shop removing r s).2.store.refusals = s.store.refusals := by
  rw [mineOne_eq]
  have hg := (prepares shop r s).grows
  rcases (concludes shop removing (prepare shop r s)).store with h | ⟨marker, _, _, _, -, hm⟩
  · rw [h, hg.refusals]
  · rw [(Store.mark_eq_ok_iff.1 hm).2.2.2.2, ← hg.refusals]

theorem mineOne_isMarked (shop : Workshop σ) (removing : Bool) (s : Shift σ) {id : Int}
    (h : id ≠ r.id) :
    (mineOne shop removing r s).2.store.isMarked id = s.store.isMarked id := by
  rw [mineOne_eq]
  have hp := prepares shop r s
  rcases (concludes shop removing (prepare shop r s)).store with he | ⟨m, _, _, _, hr, hm⟩
  · rw [he, hp.grows.isMarked]
  · rw [(Store.mark_eq_ok_iff.1 hm).2.2.2.2, ← hp.grows.isMarked]
    have hid : m.row.repository ≠ id := by
      rw [show m.row.repository = m.repository from rfl, hp.marker_repository hr]
      exact h.symm
    simp [Store.isMarked, hid]

end CodeSurvey.Mining
