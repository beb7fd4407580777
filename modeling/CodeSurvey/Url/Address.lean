import CodeSurvey.Text.Numeral
import CodeSurvey.Text.Basic

/-! Numeric addresses of versions 4 and 6. -/

namespace CodeSurvey.Url

def digitsBelow? (base : Nat) (cs : List Char) : Option Nat := do
  let ds ← cs.mapM Text.hexDigit?
  if ds.all (fun d => d < base) then some (Text.ofDigits base ds) else none

namespace Address4

def number? : List Char → Option Nat
  | [] => none
  | '0' :: 'x' :: cs => digitsBelow? 16 cs
  | '0' :: 'X' :: cs => digitsBelow? 16 cs
  | '0' :: c :: cs => digitsBelow? 8 (c :: cs)
  | cs => digitsBelow? 10 cs

def parts (cs : List Char) : List (List Char) :=
  let all := cs.splitOn '.'
  if all.getLast? = some [] ∧ 1 < all.length then all.dropLast else all

def isMeant (cs : List Char) : Bool :=
  match (parts cs).getLast? with
  | none => false
  | some [] => false
  | some part => part.all Char.isDigit || (number? part).isSome

def value? : List Nat → Option Nat
  | [] => none
  | numbers =>
    let last := numbers.getLastD 0
    let front := numbers.dropLast
    let room := Nat.pow 256 (4 - front.length)
    if 4 < numbers.length ∨ front.any (fun n => 255 < n) ∨ room ≤ last then none
    else some (Text.ofDigits 256 front * room + last)

def parse? (cs : List Char) : Option Nat := ((parts cs).mapM number?).bind value?

def text (n : Nat) : String :=
  String.intercalate "."
    ([n / 16777216, n / 65536 % 256, n / 256 % 256, n % 256].map toString)

end Address4

namespace Address6

def group? (cs : List Char) : Option (List Nat) :=
  if cs = [] ∨ 4 < cs.length then none else (digitsBelow? 16 cs).map (fun n => [n])

def octet? (cs : List Char) : Option Nat :=
  match digitsBelow? 10 cs with
  | none => none
  | some n => if toString n = String.ofList cs ∧ n ≤ 255 then some n else none

def dotted? (cs : List Char) : Option (List Nat) :=
  match (cs.splitOn '.').mapM octet? with
  | some [a, b, c, d] => some [256 * a + b, 256 * c + d]
  | _ => none

def groups? (final : Bool) : List (List Char) → Option (List Nat)
  | [] => some []
  | [piece] => if final && piece.contains '.' then dotted? piece else group? piece
  | piece :: pieces => do return (← group? piece) ++ (← groups? final pieces)

def side? (final : Bool) (cs : List Char) : Option (List Nat) :=
  if cs = [] then some [] else groups? final (cs.splitOn ':')

def halves : List Char → List Char × Option (List Char)
  | [] => ([], none)
  | [c] => ([c], none)
  | c :: d :: cs =>
    if c = ':' ∧ d = ':' then ([], some cs)
    else
      let rest := halves (d :: cs)
      (c :: rest.1, rest.2)

def parse? (cs : List Char) : Option (List Nat) :=
  match halves cs with
  | (all, none) => do
    let groups ← side? true all
    if groups.length = 8 then some groups else none
  | (front, some back) => do
    let before ← side? false front
    let after ← side? true back
    let known := before.length + after.length
    if known ≤ 7 then some (before ++ List.replicate (8 - known) 0 ++ after) else none

def hexText (n : Nat) : String := String.ofList (Nat.toDigits 16 n)

def colons (groups : List Nat) : String := String.intercalate ":" (groups.map hexText)

def zeros (groups : List Nat) : Nat := (groups.takeWhile (· == 0)).length

def longestZeros (groups : List Nat) : Nat × Nat :=
  (List.range groups.length).foldl
    (fun best i => if best.2 < zeros (groups.drop i) then (i, zeros (groups.drop i)) else best)
    (0, 0)

def text (groups : List Nat) : String :=
  let stretch := longestZeros groups
  if stretch.2 < 2 then colons groups
  else colons (groups.take stretch.1) ++ "::" ++ colons (groups.drop (stretch.1 + stretch.2))

end Address6

end CodeSurvey.Url
