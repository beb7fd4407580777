import CodeSurvey.System.FileTree

/-! Programs see their arguments and the files, and may change the files. -/

namespace CodeSurvey

structure Output where
  stdout : Text.Utf8.Bytes
  stderr : Text.Utf8.Bytes
  exitCode : Option Int
deriving DecidableEq, Repr

def Output.succeeded (o : Output) : Bool := o.exitCode == some 0

structure Program where
  run : (arguments : List String) → (home : Location) → FileTree → Output × FileTree

structure Machine where
  tree : FileTree
  home : Location
  searchPath : Option String
  programs : List (Location × Program)
  record : List (Location × List String)

namespace Machine

def program? (m : Machine) (l : Location) : Option Program :=
  (m.programs.find? (fun p => p.1 == l)).map Prod.snd

def searchDirectories (searchPath : String) : List String :=
  Text.splitText ':' searchPath

def defaultSearchPath : String := "/bin:/usr/bin"

def executable (m : Machine) (p : String) : Except SystemError (Location × Program) :=
  match m.tree.status m.home p with
  | .error e => .error e
  | .ok (_, .directory) => .error .accessDenied
  | .ok (l, .file _) =>
    match m.program? l with
    | some program => .ok (l, program)
    | none => .error .accessDenied

def firstExecutable (m : Machine) (missing : SystemError) :
    List String → Except SystemError (Location × Program)
  | [] => .error missing
  | p :: ps =>
    match m.executable p with
    | .ok found => .ok found
    | .error .accessDenied => m.firstExecutable .accessDenied ps
    | .error _ => m.firstExecutable missing ps

def findProgram (m : Machine) (name : String) : Except SystemError (Location × Program) :=
  if name = "" then .error .noEntry
  else if name.toList.contains '/' then m.executable name
  else if FileTree.maxName < name.utf8ByteSize then .error .nameTooLong
  else
    m.firstExecutable .noEntry
      ((searchDirectories (m.searchPath.getD defaultSearchPath)).map
        (fun directory => Path.join directory name))

def hasNul (s : String) : Bool := s.toList.contains '\x00'

def run (m : Machine) (name : String) (arguments : List String) :
    Except SystemError Output × Machine :=
  if (name :: arguments).any hasNul then (.error .nulInArgument, m)
  else
    match m.findProgram name with
    | .error e => (.error e, m)
    | .ok (l, program) =>
      let done := program.run arguments m.home m.tree
      (.ok done.1, { m with tree := done.2, record := m.record ++ [(l, arguments)] })

def doesExist (m : Machine) (p : String) : Bool := m.tree.doesExist m.home p

def isDirectory (m : Machine) (p : String) : Bool := m.tree.isDirectory m.home p

def isFile (m : Machine) (p : String) : Bool := m.tree.isFile m.home p

def makeDirectories (m : Machine) (p : String) : Except SystemError Unit × Machine :=
  let made := m.tree.makeDirectories m.home p
  (made.1, { m with tree := made.2 })

def removeDirectory (m : Machine) (p : String) : Except SystemError Unit × Machine :=
  let removed := m.tree.removeDirectory m.home p
  (removed.1, { m with tree := removed.2 })

end Machine

end CodeSurvey
