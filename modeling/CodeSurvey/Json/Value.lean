import CodeSurvey.Number.Binary64
import CodeSurvey.Text.Numeral

/-! JSON values; a name that is there more than once means its last value. -/

namespace CodeSurvey.Json

open Text (Numeral.maxInt64 Numeral.maxWord64)

structure Decimal where
  negative : Bool
  digits : Nat
  exponent : Int
deriving DecidableEq, Repr

inductive Value where
  | null
  | bool (b : Bool)
  | integer (n : Int)
  | decimal (d : Decimal)
  | text (s : String)
  | array (values : List Value)
  | object (fields : List (String × Value))

namespace Value

def lookup? (name : String) : List (String × Value) → Option Value
  | [] => none
  | (key, value) :: fields =>
    match lookup? name fields with
    | some v => some v
    | none => if key = name then some value else none

def field? (v : Value) (name : String) : Option Value :=
  match v with
  | .object fields => lookup? name fields
  | _ => none

def array? : Value → Option (List Value)
  | .array values => some values
  | _ => none

def text? : Value → Option String
  | .text s => some s
  | _ => none

def int64? : Value → Option Int
  | .integer n => if n ≤ Numeral.maxInt64 then some n else none
  | _ => none

end Value

structure Literal where
  negative : Bool
  whole : List Nat
  fraction : Option (List Nat)
  exponent : Option Int
deriving DecidableEq, Repr

namespace Literal

def fitting : Nat → List Nat → Nat × List Nat
  | n, [] => (n, [])
  | n, d :: ds =>
    if 10 * n + d ≤ Numeral.maxWord64 then fitting (10 * n + d) ds else (n, d :: ds)

def decimal (l : Literal) : Decimal :=
  let fraction := l.fraction.getD []
  let kept := fitting 0 l.whole
  let more := fitting kept.1 fraction
  let used := fraction.length - more.2.length
  ⟨l.negative, more.1, (kept.2.length : Int) - used + l.exponent.getD 0⟩

end Literal

def Decimal.outOfRange (d : Decimal) : Bool :=
  d.digits != 0 && decide (0 ≤ d.exponent) &&
    (decide (308 < d.exponent) || Binary64.productOverflows d.digits (Nat.pow 10 d.exponent.toNat))

namespace Literal

def integer? (l : Literal) : Option Int :=
  match l.fraction, l.exponent with
  | none, none =>
    let n := Text.ofDigits 10 l.whole
    if l.negative then
      if n ≠ 0 ∧ n ≤ Numeral.maxInt64 + 1 then some (-n) else none
    else if n ≤ Numeral.maxWord64 then some n
    else none
  | _, _ => none

def value? (l : Literal) : Option Value :=
  match l.integer? with
  | some n => some (.integer n)
  | none => if l.decimal.outOfRange then none else some (.decimal l.decimal)

end Literal

end CodeSurvey.Json
