/-! Doubles without floating point; each operation rounds its exact result, ties to even. -/

namespace CodeSurvey

/-- A finite double, counted in units of 2⁻¹⁰⁷⁴. -/
structure Binary64 where
  units : Int
deriving DecidableEq, Repr

namespace Binary64

def one : Nat := Nat.pow 2 1074

def nearest (num den : Nat) : Nat :=
  let q := num / den
  let r := num % den
  if den < 2 * r ∨ (2 * r = den ∧ q % 2 = 1) then q + 1 else q

def spacing (num den : Nat) : Nat :=
  Nat.pow 2 ((num / den).log2 - 52)

/-- The double nearest to a quotient of units: 53 binary digits are kept. -/
def roundQuotient (num den : Nat) : Nat :=
  nearest num (den * spacing num den) * spacing num den

def round (x : Int) : Int :=
  if x < 0 then -(roundQuotient x.natAbs 1 : Nat) else (roundQuotient x.natAbs 1 : Nat)

def ofNat (n : Nat) : Binary64 :=
  ⟨roundQuotient (n * one) 1⟩

def ofFraction (num den : Nat) : Binary64 :=
  ⟨roundQuotient (num * one) den⟩

def add (x y : Binary64) : Binary64 :=
  ⟨round (x.units + y.units)⟩

def sub (x y : Binary64) : Binary64 :=
  ⟨round (x.units - y.units)⟩

def max (x y : Binary64) : Binary64 :=
  if x.units < y.units then y else x

def divNat (x : Binary64) (n : Nat) : Binary64 :=
  ⟨roundQuotient x.units.toNat n⟩

def roundHalfUp (x : Binary64) : Nat :=
  (2 * x.units.toNat + one) / (2 * one)

def toBits (x : Binary64) : UInt64 :=
  let n := x.units.toNat
  let e := n.log2 - 52
  if n < Nat.pow 2 52 then n.toUInt64
  else ((e + 1) * Nat.pow 2 52 + (n / Nat.pow 2 e - Nat.pow 2 52)).toUInt64

def overflows (digits : Nat) (exponent : Int) : Bool :=
  let bound := Nat.pow 2 1024 - Nat.pow 2 970
  if digits = 0 then false
  else if 308 < exponent then true
  else if 0 ≤ exponent then bound ≤ digits * Nat.pow 10 exponent.toNat
  else if digits.log2 < exponent.natAbs then false
  else bound * Nat.pow 10 exponent.natAbs ≤ digits

def productOverflows (a b : Nat) : Bool :=
  let bound := Nat.pow 2 1024 - Nat.pow 2 970
  bound ≤ roundQuotient a 1 * roundQuotient b 1

@[simp] theorem round_zero : round 0 = 0 := by
  simp [round, roundQuotient, nearest]

end Binary64

end CodeSurvey
