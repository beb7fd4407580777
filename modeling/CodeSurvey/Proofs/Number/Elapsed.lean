import CodeSurvey.Mining.Repository
import Mathlib.Algebra.Group.Nat.Defs
import Mathlib.Order.Nat

/-! Rounding no more than doubles a number, up to one unit. -/

namespace CodeSurvey

namespace Binary64

theorem nearest_le (num den : Nat) : nearest num den ≤ num / den + 1 := by
  simp only [nearest]
  split <;> omega

theorem spacing_le (num den : Nat) : spacing num den ≤ num / den + 1 := by
  unfold spacing
  generalize num / den = q
  rcases Nat.eq_zero_or_pos q with rfl | hq
  · decide
  · have hle : 2 ^ (q.log2 - 52) ≤ 2 ^ q.log2 := Nat.pow_le_pow_right (by decide) (by omega)
    have hlog : 2 ^ q.log2 ≤ q := Nat.log2_self_le (by omega)
    exact Nat.le_succ_of_le (hle.trans hlog)

theorem roundQuotient_le (num den : Nat) : roundQuotient num den ≤ 2 * (num / den) + 1 := by
  have hn := nearest_le num (den * spacing num den)
  have hs := spacing_le num den
  calc roundQuotient num den
      ≤ (num / (den * spacing num den) + 1) * spacing num den := Nat.mul_le_mul_right _ hn
    _ = num / den / spacing num den * spacing num den + spacing num den := by
      rw [Nat.add_mul, Nat.one_mul, Nat.div_div_eq_div_mul]
    _ ≤ num / den + (num / den + 1) := Nat.add_le_add (Nat.div_mul_le_self _ _) hs
    _ = 2 * (num / den) + 1 := by omega

theorem add_units_le (a b : Nat) : (add ⟨a⟩ ⟨b⟩).units.toNat ≤ 2 * (a + b) + 1 := by
  have h := roundQuotient_le (a + b) 1
  have hnat : ((a : Int) + b).natAbs = a + b := by omega
  rw [Nat.div_one] at h
  simp only [add, round, hnat]
  rw [if_neg (by omega), Int.toNat_natCast]
  exact h

theorem toBits_lt {x : Binary64} {k : Nat} (hk : k < 2098) (hx : x.units.toNat < 2 ^ k) :
    x.toBits.toNat < 2047 * 2 ^ 52 := by
  simp only [toBits, Nat.pow_eq]
  generalize x.units.toNat = n at hx
  split
  · rename_i hn
    have hmod : n.toUInt64.toNat = n % 2 ^ 64 := UInt64.toNat_ofNat'
    have := Nat.mod_le n (2 ^ 64)
    omega
  · rename_i hn
    have hpos : n ≠ 0 := by omega
    have hlt : n.log2 < k := (Nat.log2_lt hpos).2 hx
    have hself : n < 2 ^ (n.log2 + 1) := Nat.lt_log2_self
    have hlog : 52 ≤ n.log2 := (Nat.le_log2 hpos).2 (by omega)
    -- the fraction keeps 53 digits, the first of which is left out of the pattern
    have hquot : n / 2 ^ (n.log2 - 52) < 2 ^ 53 := by
      apply Nat.div_lt_of_lt_mul
      rw [← Nat.pow_add, show n.log2 - 52 + 53 = n.log2 + 1 by omega]
      exact hself
    generalize n / 2 ^ (n.log2 - 52) = q at hquot
    have hmod : ((n.log2 - 52 + 1) * 2 ^ 52 + (q - 2 ^ 52)).toUInt64.toNat =
        ((n.log2 - 52 + 1) * 2 ^ 52 + (q - 2 ^ 52)) % 2 ^ 64 := UInt64.toNat_ofNat'
    have := Nat.mod_le ((n.log2 - 52 + 1) * 2 ^ 52 + (q - 2 ^ 52)) (2 ^ 64)
    omega

end Binary64

theorem Elapsed.isNaN_of_lt {e : Elapsed} (h : e.bits.toNat < 2047 * 2 ^ 52) :
    e.isNaN = false := by
  cases hn : e.isNaN with
  | false => rfl
  | true =>
    simp only [isNaN, Bool.and_eq_true, beq_iff_eq] at hn
    have hand : e.bits.toNat &&& 0x7FF0000000000000 = 0x7FF0000000000000 := by
      simpa using congrArg UInt64.toNat hn.1
    have hle : e.bits.toNat &&& 0x7FF0000000000000 ≤ e.bits.toNat := Nat.and_le_left
    omega

theorem Elapsed.stored_of_lt {e : Elapsed} (h : e.bits.toNat < 2047 * 2 ^ 52) : e.stored = e := by
  have hne : e ≠ negativeZero := by
    rintro rfl
    exact absurd h (by decide)
  exact if_neg hne

namespace Duration

theorem toBinary64_units_le {d : Duration} (h : d.nanos < limit) :
    d.toBinary64.units.toNat ≤ 2 ^ 66 * Binary64.one + 4 * Binary64.one + 5 := by
  have hsec : d.seconds < 2 ^ 64 := Nat.div_lt_of_lt_mul (by rw [Nat.mul_comm]; exact h)
  have hsub : d.subseconds ≤ nanosPerSecond := (Nat.mod_lt _ (by decide)).le
  have hfrac : d.subseconds * Binary64.one / nanosPerSecond ≤ Binary64.one :=
    Nat.div_le_of_le_mul (Nat.mul_le_mul_right _ hsub)
  have hwhole : d.seconds * Binary64.one / 1 ≤ 2 ^ 64 * Binary64.one := by
    rw [Nat.div_one]
    exact Nat.mul_le_mul_right _ hsec.le
  have ha := Binary64.roundQuotient_le (d.seconds * Binary64.one) 1
  have hb := Binary64.roundQuotient_le (d.subseconds * Binary64.one) nanosPerSecond
  refine (Binary64.add_units_le _ _).trans ?_
  generalize Binary64.one = u at *
  omega

theorem units_lt {u n : Nat} (hu : u = Nat.pow 2 n) :
    2 ^ 66 * u + 4 * u + 5 < 2 ^ (68 + n) := by
  have hpos : 0 < 2 ^ n := Nat.two_pow_pos n
  rw [hu, Nat.pow_eq, Nat.pow_add]
  omega

theorem elapsed_bits_lt {d : Duration} (h : d.nanos < limit) :
    d.elapsed.bits.toNat < 2047 * 2 ^ 52 := by
  have hone : Binary64.one = Nat.pow 2 1074 := by unfold Binary64.one; rfl
  have hlt := Nat.lt_of_le_of_lt (toBinary64_units_le h) (units_lt hone)
  exact Binary64.toBits_lt (by decide) hlt

end Duration

end CodeSurvey
