/-! Numerals as runs of code points, so that bytes and characters are read by one rule. -/

namespace CodeSurvey.Text

def digit? (c : Char) : Option Nat :=
  if '0' ≤ c ∧ c ≤ '9' then some (c.toNat - '0'.toNat) else none

def hexDigit? (c : Char) : Option Nat :=
  if '0' ≤ c ∧ c ≤ '9' then some (c.toNat - '0'.toNat)
  else if 'a' ≤ c ∧ c ≤ 'f' then some (c.toNat - 'a'.toNat + 10)
  else if 'A' ≤ c ∧ c ≤ 'F' then some (c.toNat - 'A'.toNat + 10)
  else none

def ofDigits (base : Nat) (digits : List Nat) : Nat :=
  digits.foldl (fun n d => base * n + d) 0

def hexChar (n : Nat) : Char :=
  if n < 10 then Char.ofNat ('0'.toNat + n) else Char.ofNat ('A'.toNat + (n - 10))

namespace Numeral

def isDigit (code : Nat) : Bool :=
  48 ≤ code && code ≤ 57

def value (codes : List Nat) : Nat :=
  codes.foldl (fun n c => 10 * n + (c - 48)) 0

def read? (limit : Nat) (codes : List Nat) : Option Nat :=
  if codes ≠ [] ∧ codes.all isDigit = true ∧ value codes ≤ limit then some (value codes) else none

def readPlus? (limit : Nat) : List Nat → Option Nat
  | 43 :: codes => read? limit codes
  | codes => read? limit codes

def maxInt64 : Nat := 9223372036854775807

def minInt64 : Int := -9223372036854775808

def maxWord64 : Nat := 18446744073709551615

def maxWord32 : Nat := 4294967295

def ofText? (limit : Nat) (s : String) : Option Nat :=
  readPlus? limit (s.toList.map Char.toNat)

theorem read?_eq_some_iff {limit n : Nat} {codes : List Nat} :
    read? limit codes = some n ↔
      codes ≠ [] ∧ (∀ c ∈ codes, isDigit c = true) ∧ value codes = n ∧ n ≤ limit := by
  unfold read?
  split
  · rename_i h
    obtain ⟨h1, h2, h3⟩ := h
    rw [List.all_eq_true] at h2
    constructor
    · intro h
      injection h with h
      exact ⟨h1, h2, h, h ▸ h3⟩
    · rintro ⟨-, -, h, -⟩
      rw [h]
  · rename_i h
    constructor
    · intro h
      cases h
    · rintro ⟨h1, h2, h3, h4⟩
      exact absurd ⟨h1, List.all_eq_true.2 h2, h3 ▸ h4⟩ h

end Numeral

end CodeSurvey.Text
