import CodeSurvey.Database.Uri

/-! What a database path asks for; a URI may ask for less than a plain path. -/

namespace CodeSurvey.Database

inductive Access where
  | reading
  | writing
  | making
  | memory
deriving DecidableEq, Repr

namespace Access

def ofText? : String → Option Access
  | "ro" => some .reading
  | "rw" => some .writing
  | "rwc" => some .making
  | "memory" => some .memory
  | _ => none

def rank : Access → Nat
  | .memory => 0
  | .reading => 1
  | .writing => 2
  | .making => 3

def allows (before after : Access) : Bool := before == .memory || after.rank ≤ before.rank

end Access

inductive Holding where
  | sharing
  | trusting
  | marking
  | excluding
  | memory
deriving DecidableEq, Repr

def Holding.ofText? : String → Option Holding
  | "unix" => some .sharing
  | "unix-none" => some .trusting
  | "unix-dotfile" => some .marking
  | "unix-excl" => some .excluding
  | "memdb" => some .memory
  | _ => none

structure Request where
  path : String
  access : Access
  holding : Holding
  isImmutable : Bool
  isUnlocked : Bool
  isIndexFixed : Bool
  model : Option String
deriving DecidableEq, Repr

namespace Request

def plain (path : String) : Request := ⟨path, .making, .sharing, false, false, false, none⟩

def apply (r : Request) (name value : String) : Except DatabaseError Request :=
  if name = "cache" then
    if ["shared", "private"].contains value then .ok r else .error (.unknownMode "cache" value)
  else if name = "mode" then
    match Access.ofText? value with
    | none => .error (.unknownMode "access" value)
    | some a =>
      if r.access.allows a then .ok { r with access := a }
      else .error (.deniedAccess value)
  else .ok r

def holdingOf (parameters : List (String × String)) : Except DatabaseError Holding :=
  match (parameters.filter (fun p => p.1 == "vfs")).getLast? with
  | none => .ok .sharing
  | some (_, name) =>
    match Holding.ofText? name with
    | some h => .ok h
    | none => .error (.unknownSystem name)

def ofUri (u : Uri) : Except DatabaseError Request := do
  let r ← u.parameters.foldlM (fun r p => r.apply p.1 p.2) (plain u.path)
  return { r with
    holding := ← holdingOf u.parameters
    isImmutable := u.isSet "immutable"
    isUnlocked := u.isSet "nolock"
    isIndexFixed := u.isSet "readonly_shm"
    model := u.value? "modeof" }

def ofPath (p : String) : Except DatabaseError Request :=
  if p.toList.contains '\x00' then
    .error (.nulInPath (Text.Utf8.encode (String.ofList (p.toList.takeWhile (· != '\x00')))).length)
  else if Uri.scheme.isPrefixOf p.toList then
    Uri.read (p.toList.drop Uri.scheme.length) >>= ofUri
  else .ok (plain p)

def isNameless (r : Request) : Bool :=
  r.access == .memory || r.path == "" || r.path == ":memory:"

def canLock (r : Request) : Bool :=
  r.access != .reading || r.isUnlocked || r.holding == .trusting || r.holding == .marking

def canLog (r : Request) : Bool :=
  !r.isUnlocked && (r.holding == .sharing || r.holding == .excluding)

end Request

end CodeSurvey.Database
