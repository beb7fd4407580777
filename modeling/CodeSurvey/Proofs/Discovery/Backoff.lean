import CodeSurvey.Discovery.RateLimit
import CodeSurvey.Proofs.Number.Rounding

/-! How long a rate limit makes a request wait. -/

namespace CodeSurvey

open Binary64 (one rounded)

namespace Binary64

theorem one_eq : ∃ k, one = Nat.pow 2 k :=
  ⟨1074, by unfold one; rfl⟩

@[simp] theorem rounded_one : rounded one = one := by
  obtain ⟨k, hone⟩ := one_eq
  rw [hone, Nat.pow_eq, rounded_two_pow]

theorem one_pos : 0 < one := by
  obtain ⟨k, hone⟩ := one_eq
  rw [hone]
  exact Nat.two_pow_pos k

@[simp] theorem one_units : (ofNat 1).units = one := by
  rw [ofNat, Nat.one_mul]
  exact congrArg Int.ofNat rounded_one

theorem ofNat_mono {m n : Nat} (h : m ≤ n) : (ofNat m).units ≤ (ofNat n).units :=
  Int.ofNat_le.2 (rounded_mono (Nat.mul_le_mul_right one h))

theorem le_max_right (x y : Binary64) : y.units ≤ (x.max y).units := by
  rw [max]
  split <;> omega

theorem max_eq_right {x y : Binary64} (h : x.units ≤ y.units) : (x.max y).units = y.units := by
  rw [max]
  split <;> omega

end Binary64

namespace Duration

theorem seconds_le_toBinary64 (d : Duration) :
    (Binary64.ofNat d.seconds).units ≤ d.toBinary64.units := by
  rw [toBinary64, Binary64.ofNat, Binary64.add, Binary64.ofFraction, ← Int.natCast_add,
    Binary64.round_natCast]
  generalize Binary64.roundQuotient (d.subseconds * one) nanosPerSecond = fraction
  refine Int.ofNat_le.2 ?_
  calc rounded (d.seconds * one)
      = rounded (rounded (d.seconds * one)) := (Binary64.rounded_rounded _).symm
    _ ≤ rounded (rounded (d.seconds * one) + fraction) :=
      Binary64.rounded_mono (Nat.le_add_right _ _)

theorem second_le_of_one_le {x : Binary64} {d : Duration} (hx : one ≤ x.units)
    (h : ofBinary64? x = some d) : (ofSeconds 1).nanos ≤ d.nanos := by
  have hunits : one ≤ x.units.toNat := by omega
  have hwhole : nanosPerSecond * one ≤ x.units.toNat * nanosPerSecond := by
    rw [Nat.mul_comm]
    exact Nat.mul_le_mul_right _ hunits
  have hnearest := Binary64.le_nearest_of_le Binary64.one_pos hwhole
  simp only [ofBinary64?] at h
  split at h
  · cases h
  split at h
  · cases h
  simp only [ofSeconds, Nat.one_mul, ← Option.some.inj h]
  exact hnearest

theorem ofBinary64?_one {x : Binary64} (hx : x.units = one) :
    ofBinary64? x = some (ofSeconds 1) := by
  have hpos := Binary64.one_pos
  have hnearest : Binary64.nearest (one * nanosPerSecond) one = nanosPerSecond :=
    Nat.le_antisymm (Binary64.nearest_le_of_le hpos (Nat.mul_comm _ _).le)
      (Binary64.le_nearest_of_le hpos (Nat.mul_comm _ _).le)
  have hunits : ¬ Nat.pow 2 64 * one ≤ one :=
    Nat.not_le.2 ((Nat.lt_mul_iff_one_lt_left hpos).2 (by decide))
  have hlimit : ¬ limit ≤ nanosPerSecond := by decide
  simp only [ofBinary64?, hx, Int.toNat_natCast, hnearest, if_neg hunits, if_neg hlimit,
    ofSeconds, Nat.one_mul]

end Duration

namespace Discovery.RateLimit

def Backoff.Waits (b : Backoff) (n : Nat) : Prop :=
  ∃ d, b = .wait d ∧ (Duration.ofSeconds n).nanos ≤ d.nanos

structure Honours (l : RateLimit) (b : Backoff) : Prop where
  quota : l.remaining = some 0 → b.Waits 1
  wish : ∀ n, l.retryAfter = some n → 0 < n → b.Waits n
  free : l.remaining ≠ some 0 → l.retryAfter = none ∨ l.retryAfter = some 0 → b = .proceed

inductive Hides (l : RateLimit) (now : Moment) : Prop where
  | quota (hquota : l.remaining = some 0) (hreset : l.reset = none)
    (hwish : l.retryAfter = some 0) : Hides l now
  | wish {reset n : Nat} {d : Duration} (hquota : l.remaining = some 0)
    (hreset : l.reset = some reset) (hwish : l.retryAfter = some n)
    (hwait : Duration.ofBinary64? (untilReset reset now) = some d)
    (hshort : d.nanos < (Duration.ofSeconds n).nanos) : Hides l now

variable {l : RateLimit} {now : Moment} {reset : Nat}

theorem one_le_untilReset (reset : Nat) (now : Moment) : one ≤ (untilReset reset now).units := by
  rw [← Binary64.one_units]
  exact Binary64.le_max_right _ _

theorem untilReset_of_past (h : (Duration.ofSeconds reset).nanos ≤ now.nanos) :
    (untilReset reset now).units = one := by
  have hnanos : (Duration.ofSeconds reset).nanos ≤ now.nanos.toNat := by omega
  have hseconds : reset ≤ (Duration.mk now.nanos.toNat).seconds :=
    (Nat.le_div_iff_mul_le (by decide)).2 hnanos
  have hpast : (Binary64.ofNat reset).units ≤ now.seconds.units :=
    Int.le_trans (Binary64.ofNat_mono hseconds) (Duration.seconds_le_toBinary64 _)
  have hdiff : ((Binary64.ofNat reset).sub now.seconds).units ≤ 0 := by
    rw [← Binary64.round_zero]
    exact Binary64.round_mono (by omega)
  have hsum : (((Binary64.ofNat reset).sub now.seconds).add (.ofNat 1)).units ≤ one := by
    have hround : Binary64.round one = one := by
      rw [Binary64.round_natCast, Binary64.rounded_one]
    rw [← hround, Binary64.add, Binary64.one_units]
    exact Binary64.round_mono (by omega)
  rw [untilReset, Binary64.max_eq_right (by rwa [Binary64.one_units]), Binary64.one_units]

theorem backoff_of_reset (hquota : l.remaining = some 0) (hreset : l.reset = some reset)
    {d : Duration} (hwait : Duration.ofBinary64? (untilReset reset now) = some d) :
    l.backoff now = .wait d := by
  simp only [backoff, hquota, hreset, hwait]

theorem backoff_of_far_reset (hquota : l.remaining = some 0) (hreset : l.reset = some reset)
    (hwait : Duration.ofBinary64? (untilReset reset now) = none) : l.backoff now = .tooLong := by
  simp only [backoff, hquota, hreset, hwait]

theorem backoff_of_reset_past (hquota : l.remaining = some 0) (hreset : l.reset = some reset)
    (h : (Duration.ofSeconds reset).nanos ≤ now.nanos) :
    l.backoff now = .wait (.ofSeconds 1) :=
  backoff_of_reset hquota hreset (Duration.ofBinary64?_one (untilReset_of_past h))

theorem backoff_of_wish (hreset : l.remaining = some 0 → l.reset = none) {n : Nat}
    (hwish : l.retryAfter = some n) (hn : 0 < n) : l.backoff now = .wait (.ofSeconds n) := by
  unfold backoff
  split
  all_goals simp_all

theorem backoff_of_zero (hreset : l.remaining = some 0 → l.reset = none)
    (hwish : l.retryAfter = some 0) : l.backoff now = .proceed := by
  unfold backoff
  split
  all_goals simp_all

theorem backoff_of_quota (hquota : l.remaining = some 0) (hreset : l.reset = none)
    (hwish : l.retryAfter = none) : l.backoff now = .wait (.ofSeconds 1) := by
  simp only [backoff, hquota, hreset, hwish]

theorem backoff_of_silence (hquota : l.remaining ≠ some 0) (hwish : l.retryAfter = none) :
    l.backoff now = .proceed := by
  unfold backoff
  split
  all_goals simp_all

theorem exists_wait_of_reset (h : l.backoff now ≠ .tooLong) (hquota : l.remaining = some 0)
    (hreset : l.reset = some reset) : ∃ d, Duration.ofBinary64? (untilReset reset now) = some d ∧
      l.backoff now = .wait d := by
  cases hwait : Duration.ofBinary64? (untilReset reset now) with
  | none => exact absurd (backoff_of_far_reset hquota hreset hwait) h
  | some d => exact ⟨d, rfl, backoff_of_reset hquota hreset hwait⟩

theorem waits_of_quota (h : l.backoff now ≠ .tooLong) (hhides : ¬ l.Hides now)
    (hquota : l.remaining = some 0) : (l.backoff now).Waits 1 := by
  cases hreset : l.reset with
  | some reset =>
    obtain ⟨d, hwait, hb⟩ := exists_wait_of_reset h hquota hreset
    exact ⟨d, hb, Duration.second_le_of_one_le (one_le_untilReset reset now) hwait⟩
  | none =>
    cases hwish : l.retryAfter with
    | none => exact ⟨_, backoff_of_quota hquota hreset hwish, Nat.le_refl _⟩
    | some n =>
      rcases Nat.eq_zero_or_pos n with rfl | hn
      · exact absurd (.quota hquota hreset hwish) hhides
      · exact ⟨_, backoff_of_wish (fun _ => hreset) hwish hn, Nat.mul_le_mul_right _ hn⟩

theorem waits_of_wish (h : l.backoff now ≠ .tooLong) (hhides : ¬ l.Hides now) {n : Nat}
    (hwish : l.retryAfter = some n) (hn : 0 < n) : (l.backoff now).Waits n := by
  by_cases hreset : l.remaining = some 0 → l.reset = none
  · exact ⟨_, backoff_of_wish hreset hwish hn, Nat.le_refl _⟩
  · obtain ⟨hquota, hsome⟩ := Classical.not_imp.1 hreset
    obtain ⟨reset, hreset⟩ := Option.ne_none_iff_exists'.1 hsome
    obtain ⟨d, hwait, hb⟩ := exists_wait_of_reset h hquota hreset
    refine ⟨d, hb, Nat.le_of_not_lt fun hshort => ?_⟩
    exact hhides (.wish hquota hreset hwish hwait hshort)

theorem proceeds_of_free (hquota : l.remaining ≠ some 0)
    (hwish : l.retryAfter = none ∨ l.retryAfter = some 0) : l.backoff now = .proceed := by
  rcases hwish with hwish | hwish
  · exact backoff_of_silence hquota hwish
  · exact backoff_of_zero (fun h => absurd h hquota) hwish

theorem not_honours_of_hides (hhides : l.Hides now) : ¬ l.Honours (l.backoff now) := by
  intro hh
  cases hhides with
  | quota hquota hreset hwish =>
    obtain ⟨d, hb, -⟩ := hh.quota hquota
    rw [backoff_of_zero (fun _ => hreset) hwish] at hb
    cases hb
  | wish hquota hreset hwish hwait hshort =>
    rename_i n d
    have hn : 0 < n := by
      rcases Nat.eq_zero_or_pos n with rfl | hn
      · simp [Duration.ofSeconds] at hshort
      · exact hn
    obtain ⟨d', hb, hle⟩ := hh.wish n hwish hn
    rw [backoff_of_reset hquota hreset hwait] at hb
    cases hb
    omega

theorem hides_of_reset_past (hquota : l.remaining = some 0) (hreset : l.reset = some reset)
    (h : (Duration.ofSeconds reset).nanos ≤ now.nanos) {n : Nat} (hwish : l.retryAfter = some n)
    (hn : 1 < n) : l.Hides now :=
  .wish hquota hreset hwish (Duration.ofBinary64?_one (untilReset_of_past h))
    (Nat.mul_lt_mul_of_pos_right hn (by decide))

/-- Unless a wait is longer than any duration, every value is honoured that no other hides. -/
theorem backoff_honours_iff (h : l.backoff now ≠ .tooLong) :
    l.Honours (l.backoff now) ↔ ¬ l.Hides now := by
  constructor
  · intro hh hhides
    exact not_honours_of_hides hhides hh
  · intro hhides
    exact
      { quota := waits_of_quota h hhides
        wish := fun n => waits_of_wish h hhides
        free := proceeds_of_free }

def inNovember : Moment := ⟨1700000000000000000⟩

theorem backoff_honours_pastReset :
    (RateLimit.mk none (some 0) (some 1600000000)).backoff inNovember ≠ .tooLong ∧
      (RateLimit.mk none (some 0) (some 1600000000)).Honours
        ((RateLimit.mk none (some 0) (some 1600000000)).backoff inNovember) := by
  have hpast : (RateLimit.mk none (some 0) (some 1600000000)).backoff inNovember =
      .wait (.ofSeconds 1) := backoff_of_reset_past rfl rfl (by decide)
  have hfits : (RateLimit.mk none (some 0) (some 1600000000)).backoff inNovember ≠ .tooLong := by
    rw [hpast]
    exact Backoff.noConfusion
  refine ⟨hfits, (backoff_honours_iff hfits).2 ?_⟩
  rintro (⟨-, -, ⟨⟩⟩ | ⟨-, -, ⟨⟩, -, -⟩)

theorem backoff_overlooks :
    ((RateLimit.mk (some 0) (some 0) none).backoff inNovember = .proceed ∧
      ¬ (RateLimit.mk (some 0) (some 0) none).Honours .proceed) ∧
    ((RateLimit.mk (some 60) (some 0) (some 1600000000)).backoff inNovember =
        .wait (.ofSeconds 1) ∧
      ¬ (RateLimit.mk (some 60) (some 0) (some 1600000000)).Honours (.wait (.ofSeconds 1))) := by
  have hzero : (RateLimit.mk (some 0) (some 0) none).backoff inNovember = .proceed := rfl
  have hpast : (RateLimit.mk (some 60) (some 0) (some 1600000000)).backoff inNovember =
      .wait (.ofSeconds 1) := backoff_of_reset_past rfl rfl (by decide)
  refine ⟨⟨hzero, ?_⟩, hpast, ?_⟩
  · rw [← hzero]
    exact not_honours_of_hides (.quota rfl rfl rfl)
  · rw [← hpast]
    exact not_honours_of_hides (hides_of_reset_past rfl rfl (by decide) rfl (by decide))

end Discovery.RateLimit

end CodeSurvey
