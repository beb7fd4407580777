import CodeSurvey.Config.Document
import CodeSurvey.System.Machine

/-! The configuration file, and the directory of the database. -/

namespace CodeSurvey.Config

def load (m : Machine) (path : Option String) : Except ConfigError (Option Config) :=
  let path := path.getD defaultPath
  if m.doesExist path then
    match m.tree.read m.home path with
    | .error e => .error (.system e)
    | .ok bytes =>
      match Text.Utf8.decode? bytes with
      | none => .error (.system .notUtf8)
      | some s =>
        match parse? s with
        | some c => .ok (some c)
        | none => .error (.unreadable path)
  else .ok none

def save (m : Machine) (path : String) (c : Config) (force : Bool) :
    Except ConfigError Machine :=
  if m.doesExist path ∧ force = false then .error (.alreadyThere path)
  else
    match c.write? with
    | none => .error .outOfRange
    | some s =>
      match m.tree.write m.home path (Text.Utf8.encode s) with
      | .error e => .error (.system e)
      | .ok tree => .ok { m with tree := tree }

def makeDatabaseDirectory (m : Machine) (path : String) : Except SystemError Unit × Machine :=
  match Path.parent? path with
  | none => (.ok (), m)
  | some parent =>
    if parent = "" ∨ m.doesExist parent then (.ok (), m) else m.makeDirectories parent

end CodeSurvey.Config
