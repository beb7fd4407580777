import CodeSurvey.Number.Binary64
import CodeSurvey.Text.Numeral
import CodeSurvey.Toml.Item

/-! Numbers; single underscores may stand between digits. -/

namespace CodeSurvey.Toml

open Text (Numeral.maxInt64 digit? hexDigit? ofDigits)

def moreDigits (digit : Char → Option Nat) : List Char → List Nat × List Char
  | '_' :: c :: cs =>
    match digit c with
    | some d => (d :: (moreDigits digit cs).1, (moreDigits digit cs).2)
    | none => ([], '_' :: c :: cs)
  | c :: cs =>
    match digit c with
    | some d => (d :: (moreDigits digit cs).1, (moreDigits digit cs).2)
    | none => ([], c :: cs)
  | [] => ([], [])

def digits (digit : Char → Option Nat) : List Char → Option (List Nat × List Char)
  | [] => none
  | c :: cs =>
    match digit c with
    | some d => some (d :: (moreDigits digit cs).1, (moreDigits digit cs).2)
    | none => none

def digitBelow (base : Nat) (c : Char) : Option Nat :=
  match hexDigit? c with
  | some d => if d < base then some d else none
  | none => none

def sign : List Char → Bool × List Char
  | '+' :: cs => (false, cs)
  | '-' :: cs => (true, cs)
  | cs => (false, cs)

def whole : List Char → Option (List Nat × List Char)
  | '0' :: cs => some ([0], cs)
  | cs => digits digit? cs

def int64? (n : Int) : Option Item :=
  if -(Numeral.maxInt64 + 1 : Int) ≤ n ∧ n ≤ Numeral.maxInt64 then some (.integer n) else none

def inBase (base : Nat) (cs : List Char) : Option (Item × List Char) :=
  match digits (digitBelow base) cs with
  | none => none
  | some (ds, rest) => (int64? (ofDigits base ds : Nat)).map (fun item => (item, rest))

def decimalInteger (cs : List Char) : Option (Item × List Char) :=
  let signed := sign cs
  match whole signed.2 with
  | none => none
  | some (ds, rest) =>
    let n : Int := (ofDigits 10 ds : Nat)
    (int64? (if signed.1 then -n else n)).map (fun item => (item, rest))

def integer : List Char → Option (Item × List Char)
  | '0' :: 'x' :: cs => inBase 16 cs
  | '0' :: 'o' :: cs => inBase 8 cs
  | '0' :: 'b' :: cs => inBase 2 cs
  | cs => decimalInteger cs

def exponent : List Char → Option (Int × List Char)
  | [] => none
  | c :: cs =>
    if c = 'e' ∨ c = 'E' then
      let signed := sign cs
      (digits digit? signed.2).map (fun r =>
        let n : Int := (ofDigits 10 r.1 : Nat)
        (if signed.1 then -n else n, r.2))
    else none

def fraction : List Char → Option (List Nat × List Char)
  | '.' :: cs => digits digit? cs
  | _ => none

def floatEnd (cs : List Char) : Option ((List Nat × Int) × List Char) :=
  match fraction cs with
  | some (ds, rest) =>
    match exponent rest with
    | some (e, rest) => some ((ds, e), rest)
    | none => some ((ds, 0), rest)
  | none => (exponent cs).map (fun r => (([], r.1), r.2))

def between (cs rest : List Char) : String := String.ofList (cs.take (cs.length - rest.length))

def finiteFloat (cs : List Char) : Option (Item × List Char) :=
  let signed := sign cs
  match whole signed.2 with
  | none => none
  | some (ds, rest) =>
    match floatEnd rest with
    | none => none
    | some ((more, e), rest) =>
      if !signed.1 && Binary64.overflows (ofDigits 10 (ds ++ more)) (e - more.length) then none
      else some (.float (between cs rest), rest)

def specialFloat (cs : List Char) : Option (Item × List Char) :=
  match (sign cs).2 with
  | 'i' :: 'n' :: 'f' :: rest => some (.float (between cs rest), rest)
  | 'n' :: 'a' :: 'n' :: rest => some (.float (between cs rest), rest)
  | _ => none

def float (cs : List Char) : Option (Item × List Char) :=
  finiteFloat cs <|> specialFloat cs

end CodeSurvey.Toml
