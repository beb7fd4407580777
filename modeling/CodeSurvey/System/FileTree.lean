import CodeSurvey.Path
import CodeSurvey.Text.Utf8

/-! A tree of files, followed segment by segment; an operation that fails leaves it as it is. -/

namespace CodeSurvey

inductive SystemError where
  | noEntry
  | accessDenied
  | alreadyExists
  | notADirectory
  | isADirectory
  | invalidArgument
  | nameTooLong
  | nulInPath
  | nulInArgument
  | notUtf8
deriving DecidableEq, Repr

def SystemError.message : SystemError → String
  | .noEntry => "No such file or directory (os error 2)"
  | .accessDenied => "Permission denied (os error 13)"
  | .alreadyExists => "File exists (os error 17)"
  | .notADirectory => "Not a directory (os error 20)"
  | .isADirectory => "Is a directory (os error 21)"
  | .invalidArgument => "Invalid argument (os error 22)"
  | .nameTooLong => "File name too long (os error 36)"
  | .nulInPath => "file name contained an unexpected NUL byte"
  | .nulInArgument => "nul byte found in provided data"
  | .notUtf8 => "stream did not contain valid UTF-8"

abbrev Location := List String

inductive Entry where
  | directory
  | file (bytes : Text.Utf8.Bytes)
deriving DecidableEq, Repr

/-- What stands at each location below the root, which is a directory itself. -/
structure FileTree where
  entries : List (Location × Entry)
deriving DecidableEq, Repr

namespace FileTree

def empty : FileTree := ⟨[]⟩

def entry? (t : FileTree) (l : Location) : Option Entry :=
  if l = [] then some .directory
  else (t.entries.find? (fun e => e.1 == l)).map Prod.snd

def put (t : FileTree) (l : Location) (e : Entry) : FileTree :=
  ⟨t.entries.filter (fun x => x.1 != l) ++ [(l, e)]⟩

def clear (t : FileTree) (l : Location) : FileTree :=
  ⟨t.entries.filter (fun x => !(l.isPrefixOf x.1 && x.1 != l))⟩

def cut (t : FileTree) (l : Location) : FileTree :=
  ⟨t.entries.filter (fun x => !l.isPrefixOf x.1)⟩

def maxName : Nat := 255

def maxPath : Nat := 4095

def follow (t : FileTree) (l : Location) : List String → Except SystemError Location
  | [] => .ok l
  | segment :: rest =>
    match t.entry? l with
    | none => .error .noEntry
    | some (.file _) => .error .notADirectory
    | some .directory =>
      if segment = "" ∨ segment = "." then t.follow l rest
      else if segment = ".." then t.follow l.dropLast rest
      else if maxName < segment.utf8ByteSize then .error .nameTooLong
      else t.follow (l ++ [segment]) rest

def checkPath (p : String) : Except SystemError Unit :=
  if p.toList.contains '\x00' then .error .nulInPath
  else if p = "" then .error .noEntry
  else if maxPath < p.utf8ByteSize then .error .nameTooLong
  else .ok ()

def origin (home : Location) (p : String) : Location := if Path.isAbsolute p then [] else home

def locate (t : FileTree) (home : Location) (p : String) : Except SystemError Location := do
  checkPath p
  t.follow (origin home p) (Path.segments p)

def status (t : FileTree) (home : Location) (p : String) :
    Except SystemError (Location × Entry) :=
  match t.locate home p with
  | .error e => .error e
  | .ok l =>
    match t.entry? l with
    | none => .error .noEntry
    | some e => .ok (l, e)

def doesExist (t : FileTree) (home : Location) (p : String) : Bool :=
  (t.status home p).toOption.isSome

def isDirectory (t : FileTree) (home : Location) (p : String) : Bool :=
  match t.status home p with
  | .ok (_, .directory) => true
  | _ => false

def isFile (t : FileTree) (home : Location) (p : String) : Bool :=
  match t.status home p with
  | .ok (_, .file _) => true
  | _ => false

def read (t : FileTree) (home : Location) (p : String) : Except SystemError Text.Utf8.Bytes :=
  match t.status home p with
  | .error e => .error e
  | .ok (_, .directory) => .error .isADirectory
  | .ok (_, .file bytes) => .ok bytes

/-- The segments that lead to a file to be written. Where the path ends in a slash its last name is
not looked up, for only a directory can be meant. -/
def targetSegments (p : String) : List String :=
  let named := Path.dropSlashEnd p
  if named = p then Path.segments p else (Path.segments named).dropLast ++ ["."]

def write (t : FileTree) (home : Location) (p : String) (bytes : Text.Utf8.Bytes) :
    Except SystemError FileTree := do
  checkPath p
  let l ← t.follow (origin home p) (targetSegments p)
  if t.entry? l = some .directory then throw .isADirectory
  return t.put l (.file bytes)

def makeDirectory (t : FileTree) (home : Location) (p : String) : Except SystemError FileTree :=
  match t.status home p with
  | .ok _ => .error .alreadyExists
  | .error .noEntry =>
    match t.locate home (Path.dropSlashEnd p) with
    | .error e => .error e
    | .ok l => if (t.entry? l).isSome then .error .alreadyExists else .ok (t.put l .directory)
  | .error .notADirectory =>
    match t.status home (Path.dropSlashEnd p) with
    | .ok _ => .error .alreadyExists
    | .error _ => .error .notADirectory
  | .error e => .error e

def makeAfter (home : Location) (p : String)
    (above : FileTree → Except SystemError Unit × FileTree) (t : FileTree) :
    Except SystemError Unit × FileTree :=
  let settle (t : FileTree) (e : SystemError) : Except SystemError Unit × FileTree :=
    (if t.isDirectory home p then .ok () else .error e, t)
  match t.makeDirectory home p with
  | .ok t => (.ok (), t)
  | .error .noEntry =>
    match above t with
    | (.error e, t) => (.error e, t)
    | (.ok (), t) =>
      match t.makeDirectory home p with
      | .ok t => (.ok (), t)
      | .error e => settle t e
  | .error e => settle t e

def makeUpward (home : Location) :
    List Path.Component → FileTree → Except SystemError Unit × FileTree
  | [], t => (.ok (), t)
  | c :: above, t =>
    makeAfter home (Path.ofComponents (c :: above).reverse) (makeUpward home above) t

def makeDirectories (t : FileTree) (home : Location) (p : String) :
    Except SystemError Unit × FileTree :=
  if p = "" then (.ok (), t)
  else makeAfter home p (makeUpward home (Path.components p).reverse.tail) t

/-- Removes a directory with all that it holds. A directory that the path names by a final dot is
emptied, but cannot be taken away. -/
def removeDirectory (t : FileTree) (home : Location) (p : String) :
    Except SystemError Unit × FileTree :=
  match t.status home p with
  | .error e => (.error e, t)
  | .ok (_, .file _) => (.error .notADirectory, t)
  | .ok (l, .directory) =>
    if (Path.segments p).getLast? = some "." then (.error .invalidArgument, t.clear l)
    else (.ok (), t.cut l)

def listing (t : FileTree) (l : Location) : List String :=
  let texts := t.entries.filterMap (fun x =>
    if l.isPrefixOf x.1 && x.1 != l then
      let text := String.intercalate "/" (x.1.drop l.length)
      some (if x.2 = .directory then text ++ "/" else text)
    else none)
  texts.mergeSort (fun a b => decide (a ≤ b))

end FileTree

end CodeSurvey
