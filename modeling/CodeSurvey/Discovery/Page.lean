import CodeSurvey.Discovery.RateLimit
import CodeSurvey.Json.Reader
import CodeSurvey.Path
import CodeSurvey.Record
import CodeSurvey.Url.Reader

/-! Windows of star counts, the requests for their pages, and the bodies of the answers. -/

namespace CodeSurvey.Discovery

structure Window where
  lower : Int
  upper : Int
  page : Nat
deriving DecidableEq, Repr

namespace Window

def start (lower upper : Int) : Window := ⟨lower, upper, 1⟩

def nextPage (w : Window) : Window := { w with page := w.page + 1 }

def shrink (w : Window) (seen : Int) : Window :=
  ⟨w.lower, if seen < w.upper then seen else w.upper - 1, 1⟩

def exhausted (w : Window) : Bool := w.upper ≤ w.lower

def range (w : Window) : String := toString w.lower ++ ".." ++ toString w.upper

@[simp] theorem shrink_lower (w : Window) (seen : Int) : (w.shrink seen).lower = w.lower := rfl

theorem shrink_upper_lt (w : Window) (seen : Int) : (w.shrink seen).upper < w.upper := by
  simp only [shrink]
  split <;> omega

theorem not_exhausted_iff {w : Window} : w.exhausted = false ↔ w.lower < w.upper := by
  simp [exhausted]

def width (w : Window) : Nat := (w.upper - w.lower).toNat

theorem width_shrink_lt {w : Window} (h : w.exhausted = false) (seen : Int) :
    (w.shrink seen).width < w.width := by
  have h1 := shrink_upper_lt w seen
  have h2 := not_exhausted_iff.1 h
  simp only [width, shrink_lower]
  omega

end Window

structure Request where
  language : String
  window : Window
  perPage : Nat
deriving DecidableEq, Repr

namespace Request

def query (r : Request) : String :=
  "q=language:" ++ r.language ++ "+stars:" ++ r.window.range ++
    "&sort=stars&order=desc&per_page=" ++ toString r.perPage ++ "&page=" ++ toString r.window.page

def url (r : Request) (service : String) : String :=
  Path.dropSlashEnd service ++ "/search/repositories?" ++ r.query

end Request

def authorization (token : String) : String := "Bearer " ++ token

def isWebScheme (scheme : String) : Bool := scheme == "http" || scheme == "https"

def maxUrl : Nat := 65534

def unsendable : List Char := "\"`\x7b\x7d".toList

def isSendable (u : Url) : Bool :=
  u.text.utf8ByteSize ≤ maxUrl &&
    !(u.host?.map Url.Host.text).any (fun s => s.toList.any unsendable.contains)

def refusal (url token : String) : RequestError :=
  match Url.parse url with
  | .error e => .unreadable e
  | .ok read =>
    let u := read.withoutReadable
    if u.host?.isNone then .scheme u.text
    else if Header.isValue (Text.Utf8.encode (authorization token)) = false then .header
    else if isWebScheme u.scheme = false then .scheme u.text
    else if isSendable u = false then .unwritable u.text
    else .unreachable u.text

open Json (Value)

def repositoryOf? (id name cloneUrl stars : Option Value) : Option Repository := do
  let id ← (← id).int64?
  let name ← (← name).text?
  let cloneUrl ← (← cloneUrl).text?
  let stars ← (← stars).int64?
  return ⟨id, name, cloneUrl, stars⟩

def item? : Value → Option Repository
  | .object fields =>
    let get (name : String) := Value.lookup? name fields
    repositoryOf? (get "id") (get "full_name") (get "clone_url") (get "stargazers_count")
  | .array [id, name, cloneUrl, stars] => repositoryOf? id name cloneUrl stars
  | _ => none

def rawItems? (body : String) : Option (List Value) := do
  let v ← Json.parse? body
  (← v.field? "items").array?

def items? (body : String) : Option (List Repository) :=
  (rawItems? body).map (fun items => items.filterMap item?)

end CodeSurvey.Discovery
