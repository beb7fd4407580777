import CodeSurvey.Text.Basic
import CodeSurvey.Url.Basic

/-! Reading a URL; blanks around it and line breaks within it do not count. -/

namespace CodeSurvey.Url

open Text (cut)

def isLineBreakOrTab (c : Char) : Bool := c == '\t' || c == '\n' || c == '\r'

def dropEnd (p : Char → Bool) (cs : List Char) : List Char :=
  (cs.reverse.dropWhile p).reverse

def significant (cs : List Char) : List Char :=
  let around (c : Char) : Bool := c.toNat ≤ 0x20
  (dropEnd around (cs.dropWhile around)).filter (fun c => !isLineBreakOrTab c)

def isSchemeChar (c : Char) : Bool := c.isAlphanum || c == '+' || c == '-' || c == '.'

def scheme? (cs : List Char) : Option (String × List Char) :=
  match cs.span isSchemeChar with
  | (c :: rest, ':' :: after) =>
    if c.isAlpha then some (String.ofList ((c :: rest).map Char.toLower), after) else none
  | _ => none

def isSlash (special : Bool) (c : Char) : Bool := c == '/' || (special && c == '\\')

def isBoundary (special : Bool) (c : Char) : Bool := isSlash special c || c == '?' || c == '#'

def cutLast? (mark : Char) (cs : List Char) : Option (List Char × List Char) :=
  match cut mark cs.reverse with
  | (back, some front) => some (front.reverse, back.reverse)
  | (_, none) => none

def spanHost : Bool → List Char → List Char × List Char
  | _, [] => ([], [])
  | bracketed, c :: cs =>
    if c = ':' ∧ bracketed = false then ([], c :: cs)
    else
      let rest := spanHost (if c = '[' then true else if c = ']' then false else bracketed) cs
      (c :: rest.1, rest.2)

def maxPort : Nat := 65535

def readPort (own : Option Nat) (cs : List Char) : Except UrlError (Option Nat × List Char) :=
  match cs with
  | ':' :: cs =>
    let read := cs.span Char.isDigit
    let n := Text.ofDigits 10 (read.1.filterMap Text.digit?)
    if maxPort < n ∨ (read.2.head?.any (· != '\\')) then .error .invalidPort
    else .ok (if read.1 = [] ∨ own = some n then none else some n, read.2)
  | cs => .ok (none, cs)

def credentialOf (cs : List Char) : Credential :=
  let (user, password) := cut ':' cs
  let text (cs : List Char) : String := String.ofList (percentEncode .credential cs)
  ⟨text user, text (password.getD [])⟩

def hostOf (special : Bool) (cs : List Char) : Except UrlError (Option Host) :=
  if special then if cs = [] then .error .emptyHost else (Host.parse cs).map some
  else Host.parseOpaque cs

def readAuthority (scheme : String) (isLast : Bool) (cs : List Char) :
    Except UrlError (Authority × List Char) := do
  let (credential, cs) :=
    match cutLast? '@' cs with
    | some (credential, cs) => (some credential, cs)
    | none => (none, cs)
  if credential = some [] ∧ cs = [] ∧ isLast = false then throw .emptyHost
  let (name, rest) := spanHost false cs
  let host ← hostOf (isWellKnown scheme) name
  if host.isNone ∧ rest.head? = some ':' then throw .emptyHost
  let (port, rest) ← readPort (ownPort? scheme) rest
  let credential := credentialOf (credential.getD [])
  if host.isNone ∧ credential ≠ .nobody then throw .emptyHost
  return (⟨credential, host, port⟩, rest)

def isDots (n : Nat) (segment : String) : Bool :=
  let s := (segment.toLower).replace "%2e" "."
  s == String.ofList (List.replicate n '.')

def isDrive (segment : String) : Bool :=
  match segment.toList with
  | [c, d] => c.isAlpha && (d == ':' || d == '|')
  | _ => false

def leave : List String → List String
  | [] => []
  | s :: above => if isDrive s then s :: above else above

def walkSegments (settle : List String → String → String) :
    List String → List String → List String
  | above, [] => above.reverse
  | above, [s] =>
    if isDots 2 s then ("" :: leave above).reverse
    else if isDots 1 s then ("" :: above).reverse
    else (settle above s :: above).reverse
  | above, s :: rest =>
    if isDots 2 s then walkSegments settle (leave above) rest
    else if isDots 1 s then walkSegments settle above rest
    else walkSegments settle (settle above s :: above) rest

def encodedSegments (special : Bool) (cs : List Char) : List String :=
  ((cs.map (fun c => if isSlash special c then '/' else c)).splitOn '/').map
    (fun s => String.ofList (percentEncode .path s))

def dropSlash (special : Bool) : List Char → List Char
  | [] => []
  | c :: cs => if isSlash special c then cs else c :: cs

def segments (special : Bool) (cs : List Char) : List String :=
  walkSegments (fun _ s => s) [] (encodedSegments special (dropSlash special cs))

def slashed (segments : List String) : String := String.join (segments.map ("/" ++ ·))

def pathAfter (special : Bool) (cs : List Char) : String :=
  if cs = [] ∧ special = false then "" else slashed (segments special cs)

structure Ending where
  path : List Char
  query : Option String
  fragment : Option String

def ending (special : Bool) (cs : List Char) : Ending :=
  let (cs, fragment) := cut '#' cs
  let (path, query) := cut '?' cs
  let plain := if special then Plain.webQuery else Plain.query
  ⟨path, query.map (fun q => String.ofList (percentEncode plain q)),
    fragment.map (fun f => String.ofList (percentEncode .fragment f))⟩

def afterSlashes (scheme : String) (cs : List Char) : Except UrlError Url := do
  let special := isWellKnown scheme
  let (front, back) := cs.span (fun c => !isBoundary special c)
  let (authority, rest) ← readAuthority scheme (back == []) front
  let e := ending special back
  return ⟨scheme, some authority, pathAfter special (rest ++ e.path), e.query, e.fragment⟩

def settleDrive (above : List String) (s : String) : String :=
  if above = [] ∧ isDrive s then String.ofList (s.toList.take 1) ++ ":" else s

def fileSegments (cs : List Char) : List String :=
  walkSegments settleDrive [] (encodedSegments true cs)

def filePath (segments : List String) : String :=
  match segments.dropWhile (· == "") with
  | [] => "/"
  | names => slashed names

def fileUrl (host : Option Host) (path : List Char) (e : Ending) : Url :=
  let segments := fileSegments path
  let host := if segments.head?.any isDrive then none else host
  ⟨"file", some ⟨.nobody, host, none⟩, filePath segments, e.query, e.fragment⟩

def fileHost (cs : List Char) : Except UrlError (Option Host × List Char) :=
  let (name, rest) := cs.span (fun c => !isBoundary true c)
  if isDrive (String.ofList name) then .ok (none, cs)
  else if name = [] then .ok (none, rest)
  else
    (Host.parse name).map (fun host =>
      (if host = .domain "localhost" then none else some host, rest))

def fileAt (cs : List Char) : Except UrlError Url := do
  let alone (cs : List Char) : Url :=
    let e := ending true cs
    fileUrl none (dropSlash true e.path) e
  match cs with
  | a :: b :: rest =>
    if isSlash true a && isSlash true b then
      let (host, rest) ← fileHost rest
      let e := ending true rest
      return fileUrl host (if host.isSome then dropSlash true e.path else e.path) e
    else return alone cs
  | cs => return alone cs

def plainUrl (scheme : String) (cs : List Char) : Url :=
  let e := ending false cs
  let path :=
    match e.path with
    | '/' :: _ => slashed (segments false e.path)
    | path => String.ofList (percentEncode .any path)
  ⟨scheme, none, path, e.query, e.fragment⟩

def parse (s : String) : Except UrlError Url :=
  match scheme? (significant s.toList) with
  | none => .error .missingScheme
  | some (scheme, rest) =>
    if scheme = "file" then fileAt rest
    else if isWellKnown scheme then afterSlashes scheme (rest.dropWhile (isSlash true))
    else
      match rest with
      | '/' :: '/' :: rest => afterSlashes scheme rest
      | rest => .ok (plainUrl scheme rest)

end CodeSurvey.Url
