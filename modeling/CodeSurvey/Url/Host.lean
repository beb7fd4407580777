import CodeSurvey.Url.Address
import CodeSurvey.Url.Direction
import CodeSurvey.Url.Error
import CodeSurvey.Url.Label
import CodeSurvey.Url.Percent

/-! Domain names as they are sent, and hosts. -/

namespace CodeSurvey.Url

def labels? (cs : List Char) : Option (List Label) := do
  let name ← mapName cs
  if name.any isForbidden then none
  let labels ← (name.splitOn '.').mapM Label.read?
  if Direction.areOrderly (labels.map Label.name) then some labels else none

def domainText? (cs : List Char) : Option (List Char) :=
  (labels? cs).map (fun labels => ['.'].intercalate (labels.map Label.sent))

inductive Host where
  | domain (name : String)
  | address4 (n : Nat)
  | address6 (groups : List Nat)
deriving DecidableEq, Repr

namespace Host

def text : Host → String
  | .domain name => name
  | .address4 n => Address4.text n
  | .address6 groups => "[" ++ Address6.text groups ++ "]"

def ofDomain (cs : List Char) : Except UrlError Host :=
  match domainText? cs with
  | none => .error .invalidDomain
  | some [] => .error .emptyHost
  | some name =>
    if Address4.isMeant name then
      match Address4.parse? name with
      | some n => .ok (.address4 n)
      | none => .error .invalidAddress4
    else .ok (.domain (String.ofList name))

def ofBracketed (cs : List Char) : Except UrlError Host :=
  if cs.getLast? = some ']' then
    match Address6.parse? cs.dropLast with
    | some groups => .ok (.address6 groups)
    | none => .error .invalidAddress6
  else .error .invalidAddress6

def parse : List Char → Except UrlError Host
  | '[' :: cs => ofBracketed cs
  | cs =>
    match Text.Utf8.decode? (percentDecode (Text.Utf8.encode (String.ofList cs))) with
    | some s => ofDomain s.toList
    | none => .error .invalidDomain

def parseOpaque : List Char → Except UrlError (Option Host)
  | [] => .ok none
  | '[' :: cs => (ofBracketed cs).map some
  | cs =>
    if cs.any (fun c => "\x00\t\n\r #/:<>?@[\\]^|".toList.contains c) then
      .error .invalidHostCharacter
    else .ok (some (.domain (String.ofList (percentEncode .any cs))))

end Host

end CodeSurvey.Url
