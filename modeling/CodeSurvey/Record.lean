/-! What the search service lists, what the analyzer reports, and what is kept of an attempt. -/

namespace CodeSurvey

structure Repository where
  id : Int
  name : String
  cloneUrl : String
  stars : Int
deriving DecidableEq, Repr

def Repository.describe (r : Repository) : String :=
  r.name ++ " (#" ++ toString r.id ++ ", " ++ toString r.stars ++ " stars)"

structure Site where
  line : Int
  column : Int
  vectorKind : Int
  tileWidth : Int
  strategyIndex : Int
deriving DecidableEq, Repr

structure Finding where
  path : String
  site : Site
deriving DecidableEq, Repr

def Site.fields (s : Site) : List Int :=
  [s.line, s.column, s.vectorKind, s.tileWidth, s.strategyIndex]

inductive Outcome where
  | analyzed
  | cloneFailed
  | analyzerFailed
deriving DecidableEq, Repr

namespace Outcome

def all : List Outcome := [.analyzed, .cloneFailed, .analyzerFailed]

def text : Outcome → String
  | .analyzed => "analyzed"
  | .cloneFailed => "clone_failed"
  | .analyzerFailed => "analyzer_failed"

def ofText? (s : String) : Option Outcome :=
  all.find? (fun o => o.text == s)

def isFailure : Outcome → Bool
  | .analyzed => false
  | _ => true

@[simp] theorem ofText?_text (o : Outcome) : ofText? o.text = some o := by
  cases o <;> decide

theorem text_of_ofText? {s : String} {o : Outcome} (h : ofText? s = some o) : o.text = s := by
  have := List.find?_some h
  simpa using this

end Outcome

structure Elapsed where
  bits : UInt64
deriving DecidableEq, Repr

namespace Elapsed

def zero : Elapsed := ⟨0⟩

def negativeZero : Elapsed := ⟨0x8000000000000000⟩

def isNaN (e : Elapsed) : Bool :=
  e.bits &&& 0x7FF0000000000000 == 0x7FF0000000000000 && e.bits &&& 0x000FFFFFFFFFFFFF != 0

/-- The value that comes back once a time was stored: the two zeros are one. -/
def stored (e : Elapsed) : Elapsed :=
  if e = negativeZero then zero else e

end Elapsed

structure Marker where
  repository : Int
  successes : Int
  errors : Int
  elapsed : Elapsed
  outcome : Outcome
deriving DecidableEq, Repr

def Marker.failed (repository : Int) (outcome : Outcome) (elapsed : Elapsed) : Marker :=
  ⟨repository, 0, 0, elapsed, outcome⟩

end CodeSurvey
