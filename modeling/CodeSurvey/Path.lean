import CodeSurvey.Text.Basic

/-! Paths as text; components leave out empty segments, and dots but for one at the front. -/

namespace CodeSurvey.Path

def segments (p : String) : List String := Text.splitText '/' p

def isAbsolute (p : String) : Bool := p.toList.head? == some '/'

inductive Component where
  | root
  | here
  | up
  | normal (name : String)
deriving DecidableEq, Repr

def Component.isNormal : Component → Bool
  | .normal _ => true
  | _ => false

def component? (segment : String) : Option Component :=
  if segment = "" ∨ segment = "." then none
  else if segment = ".." then some .up
  else some (.normal segment)

def components (p : String) : List Component :=
  let rest := (segments p).filterMap component?
  if isAbsolute p then .root :: rest
  else if (segments p).head? = some "." then .here :: rest
  else rest

def Component.text : Component → String
  | .root => "/"
  | .here => "."
  | .up => ".."
  | .normal name => name

def dropSlashEnd (p : String) : String :=
  String.ofList (p.toList.reverse.dropWhile (· == '/')).reverse

def join (base p : String) : String :=
  if isAbsolute p then p
  else if base = "" ∨ base.toList.getLast? = some '/' then base ++ p
  else base ++ "/" ++ p

def ofComponents (cs : List Component) : String :=
  cs.foldl (fun p c => join p c.text) ""

def parent? (p : String) : Option String :=
  match (components p).getLast? with
  | none => none
  | some .root => none
  | some _ => some (ofComponents (components p).dropLast)

end CodeSurvey.Path
