import CodeSurvey.Mining.Repository
import CodeSurvey.Store.Queue

/-! A mining run walks the queue once, in ascending order of ids. -/

namespace CodeSurvey.Mining

structure Summary where
  processed : Nat
  analyzed : Nat
  cloneFailures : Nat
  analyzerFailures : Nat
  unmarked : Nat
  newMatches : Nat
deriving DecidableEq, Repr

namespace Summary

def zero : Summary := ⟨0, 0, 0, 0, 0, 0⟩

/-- Counts one ending; matches count only where a marker was written. -/
def record (s : Summary) : Ending → Summary
  | .marked marker newMatches =>
    let s := { s with processed := s.processed + 1, newMatches := s.newMatches + newMatches }
    match marker.outcome with
    | .analyzed => { s with analyzed := s.analyzed + 1 }
    | .cloneFailed => { s with cloneFailures := s.cloneFailures + 1 }
    | .analyzerFailed => { s with analyzerFailures := s.analyzerFailures + 1 }
  | .unmarked _ _ => { s with processed := s.processed + 1, unmarked := s.unmarked + 1 }

end Summary

variable {σ : Type}

def ahead (repositories : List Repository) (after : Option Int) : Nat :=
  repositories.countP (fun r => after.getD Text.Numeral.minInt64 < r.id)

theorem ahead_lt {repositories : List Repository} {after : Option Int} {r : Repository}
    (hm : r ∈ repositories) (h : after.getD Text.Numeral.minInt64 < r.id) :
    ahead repositories (some r.id) < ahead repositories after := by
  induction repositories with
  | nil => cases hm
  | cons q qs ih =>
    simp only [ahead, Option.getD_some, List.countP_cons] at ih ⊢
    have hmono : qs.countP (fun q => r.id < q.id) ≤
        qs.countP (fun q => after.getD Text.Numeral.minInt64 < q.id) := by
      apply List.countP_mono_left
      intro q _ hq
      simp only [decide_eq_true_eq] at hq ⊢
      omega
    rcases List.mem_cons.1 hm with rfl | hm
    · simp only [Int.lt_irrefl, decide_false, Bool.false_eq_true, if_false, decide_eq_true_eq,
        if_pos h]
      omega
    · have := ih hm
      simp only [decide_eq_true_eq]
      split <;> split <;> omega

def runAfter (shop : Workshop σ) (removing : Bool) (after : Option Int) (summary : Summary)
    (s : Shift σ) : Summary × Shift σ :=
  match _h : s.store.nextUnminedAfter after with
  | none => (summary, s)
  | some r =>
    let mined := mineOne shop removing r s
    runAfter shop removing (some r.id) (summary.record mined.1) mined.2
termination_by ahead s.store.repositories after
decreasing_by
  have hm := Store.nextUnminedAfter_mem _h
  simpa using ahead_lt hm.1 hm.2.2

def run (shop : Workshop σ) (removing : Bool) (s : Shift σ) : Summary × Shift σ :=
  runAfter shop removing none .zero s

end CodeSurvey.Mining
