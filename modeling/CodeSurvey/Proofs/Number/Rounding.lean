import CodeSurvey.Number.Binary64
import Mathlib.Algebra.Group.Nat.Defs
import Mathlib.Order.Nat

/-! Rounding to a double keeps the order of numbers, and leaves alone what is a double already. -/

namespace CodeSurvey

namespace Binary64

variable {a b c m n den : Nat}

theorem nearest_le_of_le (hden : 0 < den) (h : a ≤ c * den) : nearest a den ≤ c := by
  rcases Nat.lt_or_eq_of_le h with hlt | rfl
  · have hq : a / den < c := Nat.div_lt_of_lt_mul (by rwa [Nat.mul_comm])
    simp only [nearest]
    split <;> omega
  · simp only [nearest, Nat.mul_div_cancel c hden, Nat.mul_mod_left]
    rw [if_neg (by omega)]

theorem le_nearest_of_le (hden : 0 < den) (h : c * den ≤ a) : c ≤ nearest a den := by
  have hq : c ≤ a / den := (Nat.le_div_iff_mul_le hden).2 h
  simp only [nearest]
  split <;> omega

theorem nearest_mono (h : a ≤ b) : nearest a den ≤ nearest b den := by
  have hq : a / den ≤ b / den := Nat.div_le_div_right h
  have ha := Nat.div_add_mod a den
  have hb := Nat.div_add_mod b den
  rcases Nat.lt_or_eq_of_le hq with hlt | heq
  · simp only [nearest]
    split <;> split <;> omega
  · -- with equal quotients the remainders are in order, and so is what decides
    rw [heq] at ha
    simp only [nearest, heq]
    split <;> split <;> omega

abbrev rounded (n : Nat) : Nat := roundQuotient n 1

def step (n : Nat) : Nat := 2 ^ (n.log2 - 52)

theorem step_pos (n : Nat) : 0 < step n := Nat.two_pow_pos _

theorem rounded_eq (n : Nat) : rounded n = nearest n (step n) * step n := by
  simp only [rounded, roundQuotient, spacing, step, Nat.div_one, Nat.one_mul, Nat.pow_eq]

theorem rounded_le_of_dvd (hdvd : step n ∣ c) (h : n ≤ c) : rounded n ≤ c := by
  obtain ⟨k, rfl⟩ := hdvd
  rw [rounded_eq, Nat.mul_comm (step n) k]
  exact Nat.mul_le_mul_right _ (nearest_le_of_le (step_pos n) (by rwa [Nat.mul_comm]))

theorem le_rounded_of_dvd (hdvd : step n ∣ c) (h : c ≤ n) : c ≤ rounded n := by
  obtain ⟨k, rfl⟩ := hdvd
  rw [rounded_eq, Nat.mul_comm (step n) k]
  exact Nat.mul_le_mul_right _ (le_nearest_of_le (step_pos n) (by rwa [Nat.mul_comm]))

theorem step_dvd_pow {k : Nat} (h : n.log2 - 52 ≤ k) : step n ∣ 2 ^ k :=
  Nat.pow_dvd_pow 2 h

@[simp] theorem rounded_zero : rounded 0 = 0 :=
  Nat.le_zero.1 (rounded_le_of_dvd (Nat.dvd_zero _) (Nat.le_refl 0))

theorem rounded_mono (h : m ≤ n) : rounded m ≤ rounded n := by
  rcases Nat.eq_zero_or_pos m with rfl | hm
  · rw [rounded_zero]
    exact Nat.zero_le _
  have hself : 2 ^ m.log2 ≤ n := (Nat.log2_self_le (by omega)).trans h
  have hlog : m.log2 ≤ n.log2 := (Nat.le_log2 (by omega)).2 hself
  rcases Nat.lt_or_eq_of_le hlog with hlt | heq
  · -- a power of two lies between the two, and rounding passes it on neither side
    calc rounded m
        ≤ 2 ^ (m.log2 + 1) := rounded_le_of_dvd (step_dvd_pow (by omega)) Nat.lt_log2_self.le
      _ ≤ 2 ^ n.log2 := Nat.pow_le_pow_right (by decide) hlt
      _ ≤ rounded n := le_rounded_of_dvd (step_dvd_pow (by omega)) (Nat.log2_self_le (by omega))
  · rw [rounded_eq, rounded_eq, step, heq, ← step]
    exact Nat.mul_le_mul_right _ (nearest_mono h)

theorem rounded_of_dvd (h : step n ∣ n) : rounded n = n :=
  Nat.le_antisymm (rounded_le_of_dvd h (Nat.le_refl n)) (le_rounded_of_dvd h (Nat.le_refl n))

@[simp] theorem rounded_two_pow (k : Nat) : rounded (2 ^ k) = 2 ^ k :=
  rounded_of_dvd (step_dvd_pow (by rw [Nat.log2_two_pow]; omega))

@[simp] theorem rounded_rounded (n : Nat) : rounded (rounded n) = rounded n := by
  rcases Nat.eq_zero_or_pos n with rfl | hn
  · simp
  have hlow : 2 ^ n.log2 ≤ rounded n :=
    le_rounded_of_dvd (step_dvd_pow (by omega)) (Nat.log2_self_le (by omega))
  have hhigh : rounded n ≤ 2 ^ (n.log2 + 1) :=
    rounded_le_of_dvd (step_dvd_pow (by omega)) Nat.lt_log2_self.le
  rcases Nat.lt_or_eq_of_le hhigh with hlt | heq
  · have hpos : rounded n ≠ 0 := by
      have := Nat.two_pow_pos n.log2
      omega
    have hlog : (rounded n).log2 = n.log2 := (Nat.log2_eq_iff hpos).2 ⟨hlow, hlt⟩
    apply rounded_of_dvd
    rw [step, hlog, ← step, rounded_eq]
    exact Nat.dvd_mul_left _ _
  · rw [heq, rounded_two_pow]

theorem round_natCast (n : Nat) : round n = rounded n := by
  rw [round, if_neg (by omega), Int.natAbs_natCast]

theorem round_mono {x y : Int} (h : x ≤ y) : round x ≤ round y := by
  rcases Int.lt_or_le x 0 with hx | hx
  · rw [round, if_pos hx]
    rcases Int.lt_or_le y 0 with hy | hy
    · rw [round, if_pos hy]
      exact Int.neg_le_neg (Int.ofNat_le.2 (rounded_mono (by omega)))
    · rw [round, if_neg (by omega)]
      omega
  · obtain ⟨m, rfl⟩ := Int.eq_ofNat_of_zero_le hx
    obtain ⟨n, rfl⟩ := Int.eq_ofNat_of_zero_le (Int.le_trans hx h)
    rw [round_natCast, round_natCast]
    exact Int.ofNat_le.2 (rounded_mono (Int.ofNat_le.1 h))

end Binary64

end CodeSurvey
