import CodeSurvey.Database.Error
import CodeSurvey.Text.Basic
import CodeSurvey.Url.Percent

/-! Database paths in the form of a URI, percent-encoded. -/

namespace CodeSurvey.Database

structure Uri where
  path : String
  parameters : List (String × String)
deriving DecidableEq, Repr

namespace Uri

open Text (cut)

def scheme : List Char := "file:".toList

def decode (cs : List Char) : String :=
  let bytes := Url.percentDecode (Text.Utf8.encode (String.ofList cs))
  Text.Utf8.decodeLenient (bytes.takeWhile (· != 0))

def dropAuthority : List Char → Except DatabaseError (List Char)
  | '/' :: '/' :: cs =>
    let authority := String.ofList (cs.takeWhile (· != '/'))
    if authority = "" ∨ authority = "localhost" then .ok (cs.dropWhile (· != '/'))
    else .error (.unknownAuthority authority)
  | cs => .ok cs

def parameter (cs : List Char) : String × String :=
  let (name, value) := cut '=' cs
  (decode name, decode (value.getD []))

def read (cs : List Char) : Except DatabaseError Uri := do
  let (cs, _) := cut '#' (← dropAuthority cs)
  let (path, query) := cut '?' cs
  let parameters := ((query.getD []).splitOn '&').map parameter
  return ⟨decode path, parameters.filter (fun p => p.1 != "")⟩

def value? (u : Uri) (name : String) : Option String :=
  (u.parameters.find? (fun p => p.1 == name)).map Prod.snd

def maxNumber : Nat := 2147483647

def leadingNumber : List Char → Nat
  | '0' :: x :: cs =>
    let digits := (cs.takeWhile (fun c => (Text.hexDigit? c).isSome)).filterMap Text.hexDigit?
    if (x = 'x' ∨ x = 'X') ∧ digits ≠ [] then bounded (Text.ofDigits 16 digits)
    else decimal ('0' :: x :: cs)
  | cs => decimal cs
where
  bounded (n : Nat) : Nat := if n ≤ maxNumber then n else 0
  decimal (cs : List Char) : Nat :=
    bounded (Text.ofDigits 10 ((cs.takeWhile Char.isDigit).filterMap Text.digit?))

def saysYes (value : String) : Bool :=
  leadingNumber value.toList % 256 != 0 ||
    ["on", "yes", "true"].contains (String.ofList (value.toList.map Char.toLower))

def isSet (u : Uri) (name : String) : Bool := (u.value? name).any saysYes

end Uri

end CodeSurvey.Database
