import CodeSurvey.Database.Header
import CodeSurvey.Database.Request
import CodeSurvey.System.FileTree

/-! Opening the database that a path names; what was done to files before an error stays. -/

namespace CodeSurvey

structure Database where
  file : Option Location
  canWrite : Bool
  isNew : Bool
deriving DecidableEq, Repr

namespace Database

open Text.Utf8 (Bytes)

abbrev Opening (α : Type) := ExceptT DatabaseError (StateM FileTree) α

def ofExcept {α : Type} : Except DatabaseError α → Opening α
  | .ok a => pure a
  | .error e => throw e

def maxFolded : Nat := 511

def maxPath : Nat := 504

def maxMemoryName : Nat := 1016

def pathText (l : Location) : String := String.join (l.map ("/" ++ ·))

def canLookUp (t : FileTree) (l : Location) (name : String) : Bool :=
  match t.entry? l with
  | none => true
  | some (.file _) => false
  | some .directory => name.utf8ByteSize ≤ FileTree.maxName

def fold? (t : FileTree) (l : Location) : List String → Option Location
  | [] => some l
  | segment :: rest =>
    if segment = "" ∨ segment = "." then fold? t l rest
    else if segment = ".." then fold? t l.dropLast rest
    else if canLookUp t l segment ∧ (pathText (l ++ [segment])).utf8ByteSize ≤ maxFolded then
      fold? t (l ++ [segment]) rest
    else none

def place? (t : FileTree) (home : Location) (p : String) : Option Location :=
  match fold? t (FileTree.origin home p) (Path.segments p) with
  | none | some [] => none
  | some l => if (pathText l).utf8ByteSize ≤ maxPath then some l else none

def beside (l : Location) (ending : String) : Location :=
  l.dropLast ++ [l.getLastD "" ++ ending]

def journalEnding : String := "-journal"
def logEnding : String := "-wal"
def indexEnding : String := "-shm"
def lockEnding : String := ".lock"

def leftover? (t : FileTree) (l : Location) (ending : String) : Option Entry :=
  (t.entry? (beside l ending)).filter (· != .file [])

def isThere (t : FileTree) (l : Location) (ending : String) : Bool :=
  (t.entry? (beside l ending)).isSome

def isDirectoryBeside (t : FileTree) (l : Location) (ending : String) : Bool :=
  t.entry? (beside l ending) == some .directory

def canName (l : Location) (ending : String) : Bool :=
  ((beside l ending).getLastD "").utf8ByteSize ≤ FileTree.maxName

def removeFile (l : Location) (ending : String) : Opening Unit :=
  modify (fun t => if isDirectoryBeside t l ending then t else t.cut (beside l ending))

def makeFile (l : Location) (ending : String) (bytes : Bytes) : Opening Unit :=
  modify (fun t => if isThere t l ending then t else t.put (beside l ending) (.file bytes))

/-- Stands for what an index holds, which is no text. -/
def indexBytes : Bytes := [0xFF, 0xFF]

def checkLock (r : Request) (l : Location) : Opening Unit := do
  if r.holding = .marking ∧ ¬ r.isUnlocked then
    if ¬ canName l lockEnding then throw .cannotLock
    if isThere (← get) l lockEnding then throw .locked

/-- A journal beside a file that holds something was not finished, unless it starts with zero. While
the file is marked as taken nobody asks for it. -/
def settleJournal (r : Request) (l : Location) (isBlank : Bool) : Opening Unit := do
  let t ← get
  let isTaken := r.holding == .marking && (!r.isUnlocked || isThere t l lockEnding)
  match (leftover? t l journalEnding).filter (fun _ => !isTaken) with
  | none => return
  | some .directory => if ¬ isBlank then throw .unreadable
  | some (.file bytes) =>
    if isBlank then
      if r.canLock then removeFile l journalEnding
    else if bytes.head? ≠ some 0 then
      if r.access = .reading then throw .unfinished
      removeFile l journalEnding

inductive LogUse where
  | closed
  | reading
  | writing
deriving DecidableEq, Repr

def openIndex (r : Request) (l : Location) : Opening LogUse := do
  let t ← get
  if r.holding = .excluding ∧ r.access ≠ .reading then return .writing
  if isDirectoryBeside t l indexEnding then return .reading
  if ¬ r.isIndexFixed then return .writing
  if isThere t l indexEnding then return .reading
  throw (.cannotOpen none)

/-- Opens the log. When the database is closed the log is empty, and one who may write takes it away
with the index, if there was need of that; one who may only read leaves both. -/
def openLog (r : Request) (l : Location) : Opening LogUse := do
  if ¬ r.canLog ∨ isDirectoryBeside (← get) l logEnding then throw (.cannotOpen none)
  let log ← openIndex r l
  if log = .writing then
    if r.access = .reading then
      makeFile l logEnding []
      makeFile l indexEnding indexBytes
    else
      removeFile l logEnding
      if r.holding ≠ .excluding then removeFile l indexEnding
  return log

def settleLog (r : Request) (l : Location) (isBlank : Bool) : Opening LogUse := do
  match leftover? (← get) l logEnding with
  | none => return .closed
  | some .directory => throw (if isBlank then .cannotDelete else .cannotOpen none)
  | some (.file _) =>
    if isBlank then
      removeFile l logEnding
      return .closed
    else openLog r l

def settle (r : Request) (l : Location) (isBlank : Bool) : Opening LogUse := do
  checkLock r l
  settleJournal r l isBlank
  settleLog r l isBlank

def write (l : Location) (bytes : Bytes) : Opening Unit := do
  if isDirectoryBeside (← get) l journalEnding ∨ ¬ canName l journalEnding then
    throw (.cannotOpen none)
  modify (fun t => (t.cut (beside l journalEnding)).put l (.file bytes))

def makeTables (l : Location) (bytes : Bytes) (log : LogUse) : Opening Unit := do
  if log = .reading then throw .readOnly
  if ¬ Header.hasWholeCounts bytes then throw .damaged
  if log = .closed then write l bytes
  if ¬ Header.hasRoom bytes then throw .damaged
  let j ← ofExcept (Header.journal? bytes)
  modify (·.put l (.file (Header.filled j)))

def prepare (r : Request) (l : Location) (bytes : Bytes) : Opening Database := do
  let isBlank := Header.isBlank bytes
  let log ← if r.isImmutable then pure .closed else settle r l isBlank
  let bytes := if isBlank then Header.bare .rollback else bytes
  let j ← ofExcept (Header.journal? bytes)
  let log ← if j = .log ∧ log = .closed ∧ ¬ r.isImmutable then openLog r l else pure log
  let isFilled := bytes == Header.filled j
  if ¬ isFilled then ofExcept (Header.check bytes)
  let mayWrite := r.access != .reading && !r.isImmutable && Header.canWrite bytes
  let isLate := log == .closed && r.canLog && !r.isImmutable
  if (isLate ∨ ¬ isFilled) ∧ ¬ mayWrite then throw .readOnly
  let bytes := if isLate then Header.withJournal .log bytes else bytes
  if isLate then write l bytes
  let log ← if isLate then openLog r l else pure log
  if ¬ isFilled then makeTables l bytes log
  return ⟨some l, mayWrite && log != .reading, !isFilled⟩

def findFile (r : Request) (home : Location) (p : String) : Opening (Location × Bytes) := do
  let t ← get
  match place? t home r.path with
  | none => throw (.cannotOpen (some p))
  | some l =>
    if r.model.any (fun m => !t.doesExist home m) then throw .noStatus
    match t.entry? l with
    | some (.file bytes) => return (l, bytes)
    | some .directory =>
      throw (if r.access = .reading then .unreadable else .cannotOpen (some p))
    | none =>
      if r.access = .making ∧ t.entry? l.dropLast = some .directory then
        set (t.put l (.file []))
        return (l, [])
      else throw (.cannotOpen (some p))

def passing (r : Request) (p : String) : Except DatabaseError Database :=
  if ¬ r.isNameless ∧ maxMemoryName < r.path.utf8ByteSize then .error (.cannotOpen (some p))
  else if r.access = .reading ∨ (r.isImmutable ∧ ¬ r.isNameless) then .error .readOnly
  else .ok ⟨none, true, true⟩

def openAt (home : Location) (p : String) : Opening Database := do
  let r ← ofExcept (Request.ofPath p)
  if r.isNameless ∨ r.holding = .memory then ofExcept (passing r p)
  else
    let (l, bytes) ← findFile r home p
    prepare r l bytes

end Database

end CodeSurvey
