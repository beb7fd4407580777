import CodeSurvey.Proofs.Discovery.Turning

/-! Where the walk goes on after a window without items. -/

namespace CodeSurvey

namespace Store

variable {s : Store} {n : Int}

structure Lowest (s : Store) (n : Int) : Prop where
  known : ∃ r ∈ s.repositories, r.stars = n
  le : ∀ r ∈ s.repositories, n ≤ r.stars

theorem leastStars_le {rs : List Repository} (h : leastStars rs = some n) :
    ∀ r ∈ rs, n ≤ r.stars := by
  induction rs generalizing n with
  | nil => cases h
  | cons r rs ih =>
    simp only [leastStars] at h
    split at h
    · rename_i hnone
      cases h
      rw [leastStars_eq_none_iff.1 hnone]
      exact List.forall_mem_singleton.2 (Int.le_refl _)
    · rename_i m hm
      cases h
      refine List.forall_mem_cons.2 ⟨Int.min_le_left _ _, fun q hq => ?_⟩
      exact Int.le_trans (Int.min_le_right _ _) (ih hm q hq)

theorem minStarsSeen_le : ∀ r ∈ s.repositories, s.minStarsSeen ≤ r.stars := by
  unfold minStarsSeen
  cases h : leastStars s.repositories with
  | none => simp [leastStars_eq_none_iff.1 h]
  | some n => exact leastStars_le h

theorem lowest_minStarsSeen (h : s.repositories ≠ []) : s.Lowest s.minStarsSeen :=
  ⟨s.minStarsSeen_cases.resolve_left fun hnil => h hnil.1, minStarsSeen_le⟩

theorem Lowest.minStarsSeen (h : s.Lowest n) : s.minStarsSeen = n := by
  obtain ⟨r, hr, rfl⟩ := h.known
  obtain ⟨q, hq, hstars⟩ := (lowest_minStarsSeen (List.ne_nil_of_mem hr)).known
  exact Int.le_antisymm (minStarsSeen_le r hr) (hstars ▸ h.le q hq)

theorem minStarsSeen_eq_noStarsSeen_iff :
    s.minStarsSeen = noStarsSeen ↔ s.repositories = [] ∨ s.Lowest noStarsSeen := by
  constructor
  · intro h
    by_cases hnil : s.repositories = []
    · exact Or.inl hnil
    · exact Or.inr (h ▸ lowest_minStarsSeen hnil)
  · rintro (hnil | hlowest)
    · rw [Store.minStarsSeen, hnil]
      rfl
    · exact hlowest.minStarsSeen

end Store

namespace Discovery

variable {options : Options} {window : Window} {w : Walk} {s : Store} {n : Int}

def Window.floor (window : Window) : Window := ⟨window.lower, window.lower, 1⟩

theorem Window.shrink_eq_floor_iff :
    window.shrink n = window.floor ↔
      (n < window.upper ∧ n = window.lower) ∨
        (window.upper ≤ n ∧ window.upper = window.lower + 1) := by
  simp only [shrink, floor, Window.mk.injEq, true_and, and_true]
  split <;> omega

namespace Walk

theorem windowBelow_of_seen (h : s.minStarsSeen ≠ Store.noStarsSeen) :
    windowBelow s window = window.shrink s.minStarsSeen := if_neg h

theorem windowBelow_of_unseen (hw : window.exhausted = false)
    (h : s.minStarsSeen = Store.noStarsSeen) : windowBelow s window = window.floor := by
  rw [windowBelow, if_pos h, Window.shrink, if_pos (Window.not_exhausted_iff.1 hw)]
  rfl

def GivesUp (s : Store) : Prop :=
  ∀ window : Window, window.exhausted = false → windowBelow s window = window.floor

theorem givesUp_iff : GivesUp s ↔ s.repositories = [] ∨ s.Lowest Store.noStarsSeen := by
  rw [← Store.minStarsSeen_eq_noStarsSeen_iff]
  constructor
  · intro h
    by_contra hseen
    -- a window around the lowest star count goes on there, above its own lower bound
    let around : Window := ⟨s.minStarsSeen - 1, s.minStarsSeen + 1, 1⟩
    have hopen : around.exhausted = false :=
      Window.not_exhausted_iff.2 (by simp only [around]; omega)
    have hfloor := (windowBelow_of_seen hseen).symm.trans (h around hopen)
    have := Window.shrink_eq_floor_iff.1 hfloor
    simp only [around] at this
    omega
  · intro h window hw
    exact windowBelow_of_unseen hw h

theorem windowBelow_eq_shrink_iff (hw : window.exhausted = false) (hn : s.Lowest n) :
    windowBelow s window = window.shrink n ↔
      n ≠ Store.noStarsSeen ∨ n = window.lower ∨
        (window.upper ≤ n ∧ window.upper = window.lower + 1) := by
  have hmin := hn.minStarsSeen
  by_cases hseen : n = Store.noStarsSeen
  · have hlt := Window.not_exhausted_iff.1 hw
    rw [windowBelow_of_unseen hw (hmin.trans hseen), eq_comm, Window.shrink_eq_floor_iff]
    omega
  · rw [windowBelow_of_seen (hmin ▸ hseen), hmin]
    exact ⟨fun _ => Or.inl hseen, fun _ => rfl⟩

def EndsDrained (options : Options) (window : Window) (w : Walk) : Prop :=
  ∃ e, (advance options window w).2.trace.getLast? = some e ∧ e.kind w.started = .drained

theorem advance_of_drained (h : EndsDrained options window w) :
    (advance options window w).1 = .ok (windowBelow w.store window) ∧
      (advance options window w).2.store = w.store := by
  obtain ⟨e, he, hk⟩ := h
  have hd := stepped options window w
  generalize advance options window w = d at hd he
  cases hd with
  | faulted hf hk' =>
    obtain rfl := Option.some.inj (hf.getLast?.symm.trans he)
    rcases hk' with hk' | hk' <;> simp [hk] at hk'
  | turned hf hr hne =>
    rw [insert_trace] at he
    obtain rfl := Option.some.inj (hf.getLast?.symm.trans he)
    rw [Exchange.kind_of_final hr, if_neg hne] at hk
    cases hk
  | closed hf hr hnil => exact ⟨by rw [close, hf.store], by rw [close_store, hf.store]⟩

theorem run_of_floor (hopen : Open options window w)
    (h : (advance options window w).1 = .ok window.floor) :
    run options window w = (.ok window.floor, (advance options window w).2) := by
  have hclosed : ¬ Open options window.floor (advance options window w).2 := by
    rintro ⟨-, hx⟩
    exact Int.lt_irrefl _ (Window.not_exhausted_iff.1 hx)
  rw [run_of_advance hopen (Prod.ext h rfl), run_of_not_open hclosed]

/-- After a drained answer the walk goes on below the lowest star count known, or a star below the
window. It gives up instead if the store is empty or its lowest star count is the one that stands
for an empty store. -/
theorem advance_drained (hw : window.exhausted = false) (hd : EndsDrained options window w) :
    (∀ n, w.store.Lowest n →
      ((advance options window w).1 =
          .ok ⟨window.lower, if n < window.upper then n else window.upper - 1, 1⟩ ↔
        n ≠ Store.noStarsSeen ∨ n = window.lower ∨
          (window.upper ≤ n ∧ window.upper = window.lower + 1))) ∧
    (w.store.repositories = [] → (advance options window w).1 = .ok window.floor) ∧
    (GivesUp w.store ↔ w.store.repositories = [] ∨ w.store.Lowest Store.noStarsSeen) ∧
    (GivesUp w.store → w.tally.found < options.maxRepositories →
      run options window w = (.ok window.floor, (advance options window w).2)) ∧
    (advance options window w).2.store = w.store := by
  obtain ⟨hnext, hstore⟩ := advance_of_drained hd
  have hfloor : GivesUp w.store → (advance options window w).1 = .ok window.floor :=
    fun hg => hnext.trans (congrArg Except.ok (hg window hw))
  refine ⟨fun n hn => ?_, fun hnil => hfloor (givesUp_iff.2 (Or.inl hnil)), givesUp_iff,
    fun hg hlt => run_of_floor ⟨hlt, hw⟩ (hfloor hg), hstore⟩
  rw [hnext, Except.ok.injEq]
  exact windowBelow_eq_shrink_iff hw hn

def overKnown (known : List Repository) : Walk :=
  .start { Store.empty with repositories := known } ⟨[], .drained⟩ ⟨0⟩

theorem advance_drained_twoKnown :
    let w := overKnown [⟨1, "a/one", "u1", 10000000⟩, ⟨2, "b/two", "u2", 742⟩]
    EndsDrained .standard ⟨500, 1000, 3⟩ w ∧ w.store.Lowest 742 ∧
      (advance .standard ⟨500, 1000, 3⟩ w).1 = .ok ⟨500, 742, 1⟩ := by
  intro w
  have hlowest : w.store.Lowest 742 :=
    ⟨⟨_, List.mem_cons_of_mem _ List.mem_cons_self, rfl⟩, by decide⟩
  have hdrained : EndsDrained .standard ⟨500, 1000, 3⟩ w :=
    ⟨⟨.zero, 0, ⟨"c", ⟨500, 1000, 3⟩, 100⟩, drainedAnswer⟩, by decide +kernel, by decide +kernel⟩
  exact ⟨hdrained, hlowest, ((advance_drained rfl hdrained).1 742 hlowest).2 (Or.inl (by decide))⟩

theorem discover_gives_up_tenMillion :
    let service : Service :=
      ⟨[.response ⟨200, .silent, some [⟨1, "a/one", "u1", 10000000⟩]⟩, drainedAnswer,
        .response ⟨200, .silent, some [⟨2, "b/two", "u2", 742⟩]⟩], .drained⟩
    let walked := discover .standard .empty service ⟨0⟩
    (¬ ∀ (options : Options) (window : Window) (w : Walk) (n : Int), window.exhausted = false →
      EndsDrained options window w → w.store.Lowest n →
        (advance options window w).1 =
          .ok ⟨window.lower, if n < window.upper then n else window.upper - 1, 1⟩) ∧
    (¬ ∀ s : Store, GivesUp s → s.repositories = []) ∧
      walked.1 = .ok ⟨500, 500, 1⟩ ∧ walked.2.tally.found = 1 ∧
      walked.2.service.upcoming.length = 1 := by
  intro service walked
  let known : List Repository := [⟨1, "a/one", "u1", 10000000⟩]
  have hlowest : (overKnown known).store.Lowest Store.noStarsSeen :=
    ⟨⟨_, List.mem_cons_self, rfl⟩, by decide⟩
  refine ⟨fun h => ?_, fun h => ?_, by decide +kernel, by decide +kernel, by decide +kernel⟩
  · have hdrained : EndsDrained .standard ⟨500, 10000000, 1⟩ (overKnown known) :=
      ⟨⟨.zero, 0, ⟨"c", ⟨500, 10000000, 1⟩, 100⟩, drainedAnswer⟩, by decide +kernel,
        by decide +kernel⟩
    have hnext := h .standard ⟨500, 10000000, 1⟩ (overKnown known) _ rfl hdrained hlowest
    have hcode : (advance .standard ⟨500, 10000000, 1⟩ (overKnown known)).1 =
      .ok ⟨500, 500, 1⟩ := by decide +kernel
    exact absurd (hcode.symm.trans hnext) (by decide)
  · exact absurd (h (overKnown known).store (givesUp_iff.2 (Or.inr hlowest))) (by decide)

end Walk

end Discovery

end CodeSurvey
