import CodeSurvey.Mining.Repository
import CodeSurvey.System.Machine
import CodeSurvey.Text.Basic

/-! Working copies below a root directory, one at the path of each repository's name. -/

namespace CodeSurvey.Mining

structure Cloner where
  root : String
  depth : Nat
  program : String
deriving DecidableEq, Repr

namespace Cloner

def isName (name : String) : Bool :=
  name != "" && !name.toList.contains '\\' &&
    (Path.components name).all Path.Component.isNormal &&
    (Path.segments name).all (fun segment => segment != "")

def path? (c : Cloner) (name : String) : Except Fault String :=
  if isName name then .ok (Path.join c.root name)
  else .error (.clone name "invalid repository name")

def verify (c : Cloner) (m : Machine) : Except Fault Unit × Machine :=
  match m.run c.program ["--version"] with
  | (.error _, m) => (.error (.gitMissing c.program), m)
  | (.ok output, m) =>
    (if output.succeeded then .ok () else .error (.gitMissing c.program), m)

def arguments (c : Cloner) (url path : String) : List String :=
  ["clone", "--depth", toString c.depth, url, path]

def reason (output : Output) : String :=
  Text.trim (Text.Utf8.decodeLenient output.stderr)

def clearAway (path : String) (m : Machine) : Machine :=
  if m.doesExist path then (m.removeDirectory path).2 else m

def clone (c : Cloner) (url name path : String) (m : Machine) :
    Except Fault WorkingCopy × Machine :=
  match m.run c.program (c.arguments url path) with
  | (.error e, m) => (.error (.system e), m)
  | (.ok output, m) =>
    if output.succeeded then (.ok ⟨path, false⟩, m)
    else (.error (.clone name (reason output)), clearAway path m)

def makeParent (path : String) (m : Machine) : Except SystemError Unit × Machine :=
  match Path.parent? path with
  | some parent => m.makeDirectories parent
  | none => (.ok (), m)

def obtain (c : Cloner) (url name : String) (m : Machine) :
    Except Fault WorkingCopy × Machine :=
  match c.path? name with
  | .error e => (.error e, m)
  | .ok path =>
    if m.doesExist path then (.ok ⟨path, true⟩, m)
    else
      match makeParent path m with
      | (.error e, m) => (.error (.system e), m)
      | (.ok (), m) => c.clone url name path m

def remove (copy : WorkingCopy) (m : Machine) : Except Fault Unit × Machine :=
  if m.doesExist copy.path then
    match m.removeDirectory copy.path with
    | (.error e, m) => (.error (.system e), m)
    | (.ok (), m) => (.ok (), m)
  else (.ok (), m)

end Cloner

end CodeSurvey.Mining
