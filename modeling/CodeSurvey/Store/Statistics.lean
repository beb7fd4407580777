import CodeSurvey.Store.Queue
import CodeSurvey.Store.Completion

namespace CodeSurvey

structure Statistics where
  repositories : Nat
  mined : Nat
  failed : Nat
  pending : Nat
  files : Nat
  recorded : Nat
deriving DecidableEq, Repr

namespace Statistics

def rows (c : Statistics) : List (String × String) :=
  [("Repositories", toString c.repositories), ("Mined", toString c.mined),
    ("Failed", toString c.failed), ("Pending", toString c.pending),
    ("Files", toString c.files), ("Matches", toString c.recorded)]

def text (c : Statistics) : String :=
  "Database Statistics:\n" ++
    String.join (c.rows.map (fun row => "  " ++ row.1 ++ ": " ++ row.2 ++ "\n"))

end Statistics

def Store.statistics (s : Store) : Statistics :=
  ⟨s.repositories.length, s.markers.length, s.markers.countP (fun row => !row.saysAnalyzed),
    s.countUnmined, s.files.length, s.matchRows.length⟩

end CodeSurvey
