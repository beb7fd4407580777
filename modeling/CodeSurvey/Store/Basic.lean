import CodeSurvey.Database.Error
import CodeSurvey.Record

/-! The four tables, the last ids given, and what the database refuses to write. -/

namespace CodeSurvey

/-- A stored marker; its outcome is text and need not name one. -/
structure MarkerRow where
  repository : Int
  successes : Int
  errors : Int
  elapsed : Elapsed
  outcome : String
deriving DecidableEq, Repr

structure FileRow where
  id : Int
  repository : Int
  path : String
deriving DecidableEq, Repr

structure MatchRow where
  id : Int
  file : Int
  site : Site
deriving DecidableEq, Repr

inductive StoreError where
  | refused
  | unknownReference
  | alreadyMarked
  | missingElapsed
  | unreadableOutcome (text : String)
  | database (e : DatabaseError)
deriving DecidableEq, Repr

namespace StoreError

def message : StoreError → String
  | .refused => "rejected"
  | .unknownReference => "FOREIGN KEY constraint failed"
  | .alreadyMarked => "UNIQUE constraint failed: mined.repo_id"
  | .missingElapsed => "NOT NULL constraint failed: mined.elapsed"
  | .unreadableOutcome text =>
    "Conversion error from type Text at index: 4, Invalid mining outcome: " ++ text
  | .database e => e.message

def causes : StoreError → List String
  | .unreadableOutcome text => ["Invalid mining outcome: " ++ text]
  | .database e => [e.cause]
  | _ => []

end StoreError

/-- Rows that the database turns down whatever its tables hold, and how it says so. -/
structure Refusals where
  repository : Repository → Bool
  marker : Marker → Bool
  reason : StoreError

namespace Refusals

def none : Refusals := ⟨fun _ => false, fun _ => false, .refused⟩

def all (reason : StoreError) : Refusals := ⟨fun _ => true, fun _ => true, reason⟩

end Refusals

structure Store where
  repositories : List Repository
  markers : List MarkerRow
  files : List FileRow
  matchRows : List MatchRow
  lastFile : Nat
  lastMatch : Nat
  refusals : Refusals

namespace Store

def empty : Store := ⟨[], [], [], [], 0, 0, .none⟩

def readOnly (s : Store) : Store :=
  { s with refusals := .all (.database .readOnly) }

def knows (s : Store) (repository : Int) : Bool :=
  s.repositories.any (fun r => r.id == repository)

def isMarked (s : Store) (repository : Int) : Bool :=
  s.markers.any (fun m => m.repository == repository)

def repository? (s : Store) (id : Int) : Option Repository :=
  s.repositories.find? (fun r => r.id == id)

@[grind =] theorem knows_iff {s : Store} {id : Int} :
    s.knows id = true ↔ ∃ r ∈ s.repositories, r.id = id := by
  simp [knows]

@[grind =] theorem isMarked_iff {s : Store} {id : Int} :
    s.isMarked id = true ↔ ∃ m ∈ s.markers, m.repository = id := by
  simp [isMarked]

end Store

end CodeSurvey
