import CodeSurvey.Text.Numeral
import CodeSurvey.Text.Utf8
import Mathlib.Data.List.Induction
import Mathlib.Data.Nat.Digits.Defs

/-! How numbers are written, and which byte strings spell one. -/

namespace CodeSurvey.Text

theorem isDigit_of_mem_nat {n : Nat} {c : Char} (h : c ∈ (toString n).toList) :
    c.isDigit = true := by
  rw [Nat.toString_eq_ofList_toDigits, String.toList_ofList] at h
  exact Nat.isDigit_of_mem_toDigits (by decide) (by decide) h

theorem toString_negSucc (n : Nat) : toString (Int.negSucc n) = "-" ++ toString (n + 1) := rfl

theorem isDigit_or_minus_of_mem_int {z : Int} {c : Char} (h : c ∈ (toString z).toList) :
    c.isDigit = true ∨ c = '-' := by
  cases z with
  | ofNat n => exact Or.inl (isDigit_of_mem_nat h)
  | negSucc n =>
    rw [toString_negSucc, String.toList_append] at h
    rcases List.mem_append.1 h with h | h
    · exact Or.inr (by simpa using h)
    · exact Or.inl (isDigit_of_mem_nat h)

namespace Numeral

open Utf8 (Bytes encode encode_eq_flatMap)

structure Spells (field : Bytes) (n : Nat) : Prop where
  ne_nil : field ≠ []
  digits : ∀ b ∈ field, 0x30 ≤ b.toNat ∧ b.toNat ≤ 0x39
  value : Nat.ofDigits 10 (field.reverse.map fun b => b.toNat - 0x30) = n

theorem exists_spells_iff {field : Bytes} : (∃ n, Spells field n) ↔
    field ≠ [] ∧ ∀ b ∈ field, 0x30 ≤ b.toNat ∧ b.toNat ≤ 0x39 := by
  constructor
  · rintro ⟨n, h⟩
    exact ⟨h.ne_nil, h.digits⟩
  · rintro ⟨hne, hdigits⟩
    exact ⟨_, hne, hdigits, rfl⟩

theorem value_eq_ofDigits (codes : List Nat) :
    value codes = Nat.ofDigits 10 (codes.reverse.map fun c => c - 48) := by
  rw [Nat.ofDigits_eq_foldr, List.foldr_map, List.foldr_reverse, value]
  simp only [Nat.cast_id, Nat.add_comm]

theorem read?_toNat_eq_some_iff {limit n : Nat} {field : Bytes} :
    read? limit (field.map UInt8.toNat) = some n ↔ Spells field n ∧ n ≤ limit := by
  have hdigit : (∀ c ∈ field.map UInt8.toNat, isDigit c = true) ↔
      ∀ b ∈ field, 0x30 ≤ b.toNat ∧ b.toNat ≤ 0x39 := by
    simp [isDigit]
  rw [read?_eq_some_iff, hdigit, value_eq_ofDigits, ← List.map_reverse, List.map_map]
  constructor
  · rintro ⟨hne, hd, hv, hn⟩
    exact ⟨⟨fun h => hne (by rw [h]; rfl), hd, hv⟩, hn⟩
  · rintro ⟨⟨hne, hd, hv⟩, hn⟩
    exact ⟨by simpa using hne, hd, hv, hn⟩

theorem read?_toNat_of_large {limit n : Nat} {field : Bytes} (hn : Spells field n)
    (hmax : limit < n) : read? limit (field.map UInt8.toNat) = none := by
  refine Option.eq_none_iff_forall_ne_some.2 fun m hm => ?_
  obtain ⟨hm, hle⟩ := read?_toNat_eq_some_iff.1 hm
  have hmn : m = n := hm.value.symm.trans hn.value
  omega

def digit (d : Nat) : UInt8 := UInt8.ofNat (0x30 + d)

theorem toNat_digit {d : Nat} (h : d < 10) : (digit d).toNat = 0x30 + d :=
  UInt8.toNat_ofNat_of_lt' (Nat.lt_of_lt_of_le (Nat.add_lt_add_left h _) (by decide))

theorem exists_digit {b : UInt8} (h : 0x30 ≤ b.toNat ∧ b.toNat ≤ 0x39) :
    ∃ d, d < 10 ∧ b = digit d := by
  refine ⟨b.toNat - 0x30, by omega, UInt8.toNat_inj.1 ?_⟩
  rw [toNat_digit (by omega)]
  omega

namespace Spells

variable {field : Bytes} {n d : Nat}

theorem digit (h : d < 10) : Spells [digit d] d where
  ne_nil := List.cons_ne_nil _ _
  digits := by
    intro b hb
    rw [List.mem_singleton.1 hb, toNat_digit h]
    omega
  value := by simp [toNat_digit h]

theorem concat (h : Spells field n) (hd : d < 10) :
    Spells (field ++ [Numeral.digit d]) (10 * n + d) where
  ne_nil := List.append_ne_nil_of_right_ne_nil _ (List.cons_ne_nil _ _)
  digits := by
    intro b hb
    rcases List.mem_append.1 hb with hb | hb
    · exact h.digits b hb
    · exact (Spells.digit hd).digits b hb
  value := by
    rw [List.reverse_concat, List.map_cons, Nat.ofDigits_cons, h.value, toNat_digit hd]
    simp [Nat.add_comm]

theorem zero_cons (h : Spells field n) : Spells (0x30 :: field) n where
  ne_nil := List.cons_ne_nil _ _
  digits := by
    intro b hb
    rcases List.mem_cons.1 hb with rfl | hb
    · decide
    · exact h.digits b hb
  value := by
    rw [List.reverse_cons, List.map_append, Nat.ofDigits_append, h.value]
    simp

theorem dropLast (h : Spells (field ++ [Numeral.digit d]) n) (hd : d < 10) (hne : field ≠ []) :
    ∃ m, Spells field m ∧ n = 10 * m + d := by
  refine ⟨_, ⟨hne, fun b hb => h.digits b (List.mem_append_left _ hb), rfl⟩, ?_⟩
  have hv := h.value
  rw [List.reverse_concat, List.map_cons, Nat.ofDigits_cons, toNat_digit hd] at hv
  rw [← hv]
  simp [Nat.add_comm]

end Spells

def decimal (n : Nat) : Bytes := encode (toString n)

theorem decimal_eq (n : Nat) : decimal n = (Nat.toDigits 10 n).flatMap String.utf8EncodeChar := by
  rw [decimal, encode_eq_flatMap, Nat.toString_eq_ofList_toDigits, String.toList_ofList]

theorem decimal_of_lt {d : Nat} (h : d < 10) : decimal d = [digit d] := by
  have hall : ∀ d < 10, String.utf8EncodeChar (Nat.digitChar d) = [digit d] := by decide
  rw [decimal_eq, Nat.toDigits_of_lt_base h, List.flatMap_cons, hall d h, List.flatMap_nil,
    List.append_nil]

theorem decimal_concat {n d : Nat} (hn : 0 < n) (hd : d < 10) :
    decimal n ++ [digit d] = decimal (10 * n + d) := by
  rw [← decimal_of_lt hd, decimal_eq, decimal_eq, decimal_eq, ← List.flatMap_append,
    Nat.toDigits_append_toDigits (by decide) hn hd]

theorem spells_decimal (n : Nat) : Spells (decimal n) n := by
  induction n using Nat.strongRecOn with
  | _ n ih =>
    by_cases hn : n < 10
    · rw [decimal_of_lt hn]
      exact .digit hn
    · have h := (ih (n / 10) (by omega)).concat (Nat.mod_lt n (by decide : 0 < 10))
      rwa [decimal_concat (by omega) (by omega), Nat.div_add_mod] at h

def padded (zeros n : Nat) : Bytes := List.replicate zeros 0x30 ++ decimal n

theorem spells_padded (zeros n : Nat) : Spells (padded zeros n) n := by
  induction zeros with
  | zero => exact spells_decimal n
  | succ zeros ih => exact ih.zero_cons

theorem Spells.exists_padded {field : Bytes} {n : Nat} (h : Spells field n) :
    ∃ zeros, field = padded zeros n := by
  induction field using List.reverseRecOn generalizing n with
  | nil => exact absurd rfl h.ne_nil
  | append_singleton field b ih =>
    obtain ⟨d, hd, rfl⟩ := exists_digit (h.digits b (by simp))
    by_cases hne : field = []
    · subst hne
      obtain rfl : d = n := (Spells.digit hd).value.symm.trans h.value
      exact ⟨0, (decimal_of_lt hd).symm⟩
    obtain ⟨m, hm, rfl⟩ := h.dropLast hd hne
    obtain ⟨zeros, rfl⟩ := ih hm
    rcases Nat.eq_zero_or_pos m with rfl | hpos
    · -- a numeral of zeros alone lends its last one to the padding
      refine ⟨zeros + 1, ?_⟩
      rw [padded, padded, decimal_of_lt (by decide), Nat.mul_zero, Nat.zero_add, decimal_of_lt hd,
        List.replicate_succ']
      rfl
    · exact ⟨zeros, by rw [padded, List.append_assoc, decimal_concat hpos hd, padded]⟩

end Numeral

end CodeSurvey.Text
