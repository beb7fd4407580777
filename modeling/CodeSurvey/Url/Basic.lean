import CodeSurvey.Url.Host

namespace CodeSurvey

namespace Url

structure Credential where
  user : String
  password : String
deriving DecidableEq, Repr

def Credential.nobody : Credential := ⟨"", ""⟩

def Credential.text (c : Credential) : String :=
  if c = .nobody then ""
  else c.user ++ (if c.password = "" then "" else ":" ++ c.password) ++ "@"

def Credential.isReadable (c : Credential) : Bool :=
  (decodedText? c.user).isSome &&
    (c.user != "" || (c.password != "" && (decodedText? c.password).isSome))

structure Authority where
  credential : Credential
  host : Option Host
  port : Option Nat
deriving DecidableEq, Repr

def ownPort? (scheme : String) : Option Nat :=
  if scheme = "http" ∨ scheme = "ws" then some 80
  else if scheme = "https" ∨ scheme = "wss" then some 443
  else if scheme = "ftp" then some 21
  else none

def isWellKnown (scheme : String) : Bool := (ownPort? scheme).isSome || scheme == "file"

end Url

structure Url where
  scheme : String
  authority : Option Url.Authority
  path : String
  query : Option String
  fragment : Option String
deriving DecidableEq, Repr

namespace Url

def Authority.text (a : Authority) : String :=
  "//" ++ a.credential.text ++ (a.host.map Host.text).getD "" ++
    (a.port.map (fun p => ":" ++ toString p)).getD ""

/-- A path that starts with two slashes is kept apart from an authority by a dot. -/
def pathText (u : Url) : String :=
  if u.authority.isNone ∧ "//".toList.isPrefixOf u.path.toList then "/." ++ u.path else u.path

def text (u : Url) : String :=
  u.scheme ++ ":" ++ (u.authority.map Authority.text).getD "" ++ u.pathText ++
    (u.query.map ("?" ++ ·)).getD "" ++ (u.fragment.map ("#" ++ ·)).getD ""

def withoutReadable (u : Url) : Url :=
  { u with
    authority := u.authority.map (fun a =>
      if a.credential.isReadable then { a with credential := .nobody } else a) }

def host? (u : Url) : Option Host := u.authority.bind Authority.host

end Url

end CodeSurvey
