import CodeSurvey.Fault
import CodeSurvey.Number.Duration
import CodeSurvey.Report.Counters
import CodeSurvey.Store.Completion
import CodeSurvey.Record
import CodeSurvey.Store.Results

/-! Mining one repository: its report is recorded in one transaction and marked in another. -/

namespace CodeSurvey

def Duration.elapsed (d : Duration) : Elapsed := ⟨d.toBinary64.toBits⟩

namespace Mining

structure WorkingCopy where
  path : String
  reused : Bool
deriving DecidableEq, Repr

structure AnalyzerRun where
  report : Text.Utf8.Bytes
  counters : Report.Counters
  elapsed : Duration
  exitCode : Option Int
deriving DecidableEq, Repr

structure AnalyzerFailure where
  fault : Fault
  elapsed : Duration
deriving DecidableEq, Repr

structure Workshop (σ : Type) where
  obtain : (url name : String) → σ → Except Fault WorkingCopy × σ
  analyze : (path log : String) → σ → Except AnalyzerFailure AnalyzerRun × σ
  remove : WorkingCopy → σ → Except Fault Unit × σ

inductive Stage where
  | pending
  | cloned
  | analyzed
  | interned
  | marked
deriving DecidableEq, Repr

inductive Ending where
  | marked (marker : Marker) (newMatches : Nat)
  | unmarked (stage : Stage) (reason : Fault)
deriving DecidableEq, Repr

inductive Call where
  | clone (url name : String)
  | analyze (path log : String)
  | remove (path : String)
deriving DecidableEq, Repr

structure Shift (σ : Type) where
  store : Store
  memory : σ
  calls : List Call

variable {σ : Type}

namespace Shift

def obtain (shop : Workshop σ) (r : Repository) (s : Shift σ) :
    Except Fault WorkingCopy × Shift σ :=
  let answer := shop.obtain r.cloneUrl r.name s.memory
  (answer.1, ⟨s.store, answer.2, s.calls ++ [.clone r.cloneUrl r.name]⟩)

def analyze (shop : Workshop σ) (r : Repository) (copy : WorkingCopy) (s : Shift σ) :
    Except AnalyzerFailure AnalyzerRun × Shift σ :=
  let log := toString r.id
  let answer := shop.analyze copy.path log s.memory
  (answer.1, ⟨s.store, answer.2, s.calls ++ [.analyze copy.path log]⟩)

def remove (shop : Workshop σ) (copy : WorkingCopy) (s : Shift σ) : Shift σ :=
  ⟨s.store, (shop.remove copy s.memory).2, s.calls ++ [.remove copy.path]⟩

/-- Writes the marker, and only then removes the working copy, if that is wanted. -/
def mark (shop : Workshop σ) (removing : Bool) (marker : Marker) (newMatches : Nat) (stage : Stage)
    (copy : Option WorkingCopy) (s : Shift σ) : Ending × Shift σ :=
  match s.store.mark marker with
  | .error e => (.unmarked stage (.storage e), s)
  | .ok store =>
    let s := { s with store := store }
    match removing, copy with
    | true, some copy => (.marked marker newMatches, s.remove shop copy)
    | _, _ => (.marked marker newMatches, s)

end Shift

def markerOf (r : Repository) (run : AnalyzerRun) : Marker :=
  ⟨r.id, run.counters.successful, run.counters.errors, run.elapsed.elapsed, .analyzed⟩

def mineOne (shop : Workshop σ) (removing : Bool) (r : Repository) (s : Shift σ) :
    Ending × Shift σ :=
  match s.obtain shop r with
  | (.error _, s) => s.mark shop removing (.failed r.id .cloneFailed .zero) 0 .pending none
  | (.ok copy, s) =>
    match s.analyze shop r copy with
    | (.error failure, s) =>
      s.mark shop removing (.failed r.id .analyzerFailed failure.elapsed.elapsed) 0 .cloned
        (some copy)
    | (.ok run, s) =>
      match s.store.recordReport r.id run.report with
      | .error e => (.unmarked .analyzed (.storage e), s)
      | .ok (recording, store) =>
        { s with store := store }.mark shop removing (markerOf r run) recording.newMatches
          .interned (some copy)

@[simp] theorem Shift.obtain_store (shop : Workshop σ) (r : Repository) (s : Shift σ) :
    (s.obtain shop r).2.store = s.store := rfl

@[simp] theorem Shift.analyze_store (shop : Workshop σ) (r : Repository) (copy : WorkingCopy)
    (s : Shift σ) : (s.analyze shop r copy).2.store = s.store := rfl

@[simp, grind =] theorem Shift.remove_store (shop : Workshop σ) (copy : WorkingCopy)
    (s : Shift σ) : (s.remove shop copy).store = s.store := rfl

@[simp] theorem Shift.mark_repositories (shop : Workshop σ) (removing : Bool) (marker : Marker)
    (newMatches : Nat) (stage : Stage) (copy : Option WorkingCopy) (s : Shift σ) :
    (s.mark shop removing marker newMatches stage copy).2.store.repositories =
      s.store.repositories := by
  unfold Shift.mark
  split
  · rfl
  · rename_i store hm
    cases removing <;> cases copy <;> grind

@[simp] theorem mineOne_repositories (shop : Workshop σ) (removing : Bool) (r : Repository)
    (s : Shift σ) :
    (mineOne shop removing r s).2.store.repositories = s.store.repositories := by
  unfold mineOne
  have ho := s.obtain_store shop r
  split
  · rename_i e t h
    rw [h] at ho
    simpa using congrArg Store.repositories ho
  · rename_i copy t h
    rw [h] at ho
    have ha := t.analyze_store shop r copy
    split
    · rename_i failure u h
      rw [h] at ha
      simpa using congrArg Store.repositories (ha.trans ho)
    · rename_i run u h
      rw [h] at ha
      split
      · exact congrArg Store.repositories (ha.trans ho)
      · rename_i recording store hr
        have hrecord := Store.recordReport_repositories hr
        simpa using hrecord.trans (congrArg Store.repositories (ha.trans ho))

end Mining

end CodeSurvey
