import CodeSurvey.Proofs.Discovery.Coverage

/-! What becomes of the repositories at the threshold. -/

namespace CodeSurvey.Discovery

open Walk (Stepped Open)

variable {u : Ranking} {options : Options} {window : Window} {w v : Walk}

theorem Ranking.mem_reach_iff {r : Repository} (hw : window.exhausted = false)
    (hstars : r.stars = window.lower) : r ∈ u.reach window ↔ r ∈ u.served window := by
  have hlt := Window.not_exhausted_iff.1 hw
  have hn : r ∉ u.above (window.upper + 1) := by
    intro hr
    have := (mem_above.1 hr).2
    omega
  rw [reach, List.mem_append, or_iff_right hn]

theorem Covers.stepped_reach {next : Window} (hc : Covers u options window w)
    (hp : 0 < options.perPage) (hw : window.exhausted = false)
    (hs : w.store.repositories <+: u.reach window)
    (hd : Stepped options window w (.ok next, v)) (ha : ∀ e ∈ v.trace, u.Answers v.started e) :
    (next.exhausted = false → v.store.repositories <+: u.reach next) ∧
      (next.exhausted = true → v.store.repositories = u.reach window) := by
  have hle := Int.le_of_lt (Window.not_exhausted_iff.1 hw)
  cases hd with
  | turned hf hr hne =>
    have hids : ((u.reach window).map Repository.id).Nodup :=
      (u.ids_above _).sublist ((Ranking.reach_prefix_above hle).sublist.map _)
    obtain ⟨n, t, hinsert, -, hreach, -⟩ :=
      (hc.fetched hf).inserted hids (hf.store ▸ hs) List.prefix_rfl
    rw [page_of_fetched hf hr (by simpa using ha), hinsert]
    have hnext : window.nextPage.exhausted = false := hw
    exact ⟨fun _ => hreach, fun he => by simp [hnext] at he⟩
  | closed hf hr hnil =>
    have hpage := page_of_fetched hf hr (by simpa using ha)
    have hall := (hc.fetched hf).drained hp (hpage.symm.trans hnil)
    rw [← hf.store] at hs
    rw [Walk.close_store]
    refine ⟨fun hn => hs.trans ?_, fun _ => hs.eq_of_length_le hall.length_le⟩
    exact Ranking.reach_prefix_reach (Walk.windowBelow_lower _ _)
      (Int.le_of_lt (Window.not_exhausted_iff.1 hn)) (Int.le_of_lt (Walk.windowBelow_upper_lt _ _))

/-- A walk that holds nothing beyond its window. Once its range is used up, it holds what the last
window that it asked for reaches. -/
structure Confined (u : Ranking) (options : Options) (window : Window) (w : Walk) : Prop
    extends Covers u options window w where
  inside : window.exhausted = false → w.store.repositories <+: u.reach window
  last : window.exhausted = true → ∃ e, w.trace.getLast? = some e ∧
    e.request.window.lower = options.minStars ∧ e.request.window.exhausted = false ∧
    w.store.repositories = u.reach e.request.window

theorem Confined.turned {next : Window} (hc : Confined u options window w)
    (hties : u.TiesFit options.minStars) (hp : 0 < options.perPage) (hopen : Open options window w)
    (hd : Stepped options window w (.ok next, v)) (ha : ∀ e ∈ v.trace, u.Answers v.started e) :
    Confined u options next v := by
  obtain ⟨hinside, hlast⟩ := hc.stepped_reach hp hopen.2 (hc.inside hopen.2) hd ha
  refine ⟨(hc.stepped hties hp hopen.2 hd ha).2 next rfl, hinside, fun hx => ?_⟩
  obtain ⟨e, he, rfl⟩ := hd.getLast?
  exact ⟨e, he, hc.lower, hopen.2, hlast hx⟩

theorem Confined.run (hc : Confined u options window w) (hties : u.TiesFit options.minStars)
    (hp : 0 < options.perPage)
    (ha : ∀ e ∈ (Walk.run options window w).2.trace, u.Answers w.started e) :
    ∀ last, (Walk.run options window w).1 = .ok last →
      Confined u options last (Walk.run options window w).2 := by
  refine Walk.run_induction_of_trace u.Answers (Confined u options)
    (fun d => ∀ last, d.1 = .ok last → Confined u options last d.2) ?_ ?_ ?_ hc ha
  · intro window w fault v h hopen hd ha last he
    cases he
  · intro window w next v h hopen hd ha
    exact h.turned hties hp hopen hd ha
  · intro window w h _ last he
    exact Except.ok.inj he ▸ h

theorem discover_last {service : Service} {started : Moment} (hties : u.TiesFit options.minStars)
    (hw : Surveys u options.minStars options .empty service started) {last : Window}
    (hok : (discover options .empty service started).1 = .ok last)
    (hlt : (discover options .empty service started).2.tally.found < options.maxRepositories)
    (hsome : ∃ r ∈ u.ranks, r.stars = options.minStars) :
    ∃ e, (discover options .empty service started).2.trace.getLast? = some e ∧
      e.request.window.lower = options.minStars ∧ e.request.window.exhausted = false ∧
      (discover options .empty service started).2.store.repositories =
        u.reach e.request.window := by
  obtain ⟨-, hp, ha⟩ := hw
  obtain ⟨r, hr, hstars⟩ := hsome
  -- Above all star counts, nothing would have been asked for.
  have hbelow : options.minStars < Store.noStarsSeen := hstars ▸ u.below r hr
  have hw : (startingWindow options .empty).exhausted = false := Window.not_exhausted_iff.2 hbelow
  have hc : Confined u options (startingWindow options .empty)
      (Walk.start .empty service started) :=
    ⟨Covers.start (fun _ => rfl) List.nil_prefix, fun _ => List.nil_prefix,
      fun he => Bool.noConfusion (hw.symm.trans he)⟩
  exact (hc.run hties hp ha last hok).last (Walk.exhausted_of_run hok hlt)

theorem Ranking.mem_served_of_fits {r : Repository} (hr : r ∈ u.ranks)
    (hw : window.exhausted = false) (hstars : r.stars = window.lower)
    (hfits : (u.within window.lower window.upper).length ≤ u.cap) : r ∈ u.served window := by
  have hlt := Window.not_exhausted_iff.1 hw
  rw [served, List.take_of_length_le hfits]
  exact List.mem_filter.2 ⟨mem_above.2 ⟨hr, by omega⟩, decide_eq_true (by omega)⟩

theorem discover_threshold (u : Ranking) (options : Options)
    (hties : u.TiesFit options.minStars) (service : Service) (started : Moment)
    (hw : Surveys u options.minStars options .empty service started) :
    let walked := discover options .empty service started
    ∀ last, walked.1 = .ok last → walked.2.tally.found < options.maxRepositories →
      (∀ r ∈ u.ranks, r.stars = options.minStars →
        (r ∈ walked.2.store.repositories ↔
          ∃ e, walked.2.trace.getLast? = some e ∧ r ∈ u.served e.request.window)) ∧
      ((∀ e, walked.2.trace.getLast? = some e →
          (u.within e.request.window.lower e.request.window.upper).length ≤ u.cap) →
        ∀ r ∈ u.ranks, r.stars = options.minStars → r ∈ walked.2.store.repositories) := by
  intro walked last hok hlt
  refine ⟨fun r hr hstars => ?_, fun hfits r hr hstars => ?_⟩
  · obtain ⟨e, he, hlower, hwindow, hstore⟩ := discover_last hties hw hok hlt ⟨r, hr, hstars⟩
    rw [hstore, Ranking.mem_reach_iff hwindow (hstars.trans hlower.symm)]
    constructor
    · intro hserved
      exact ⟨e, he, hserved⟩
    · rintro ⟨e', he', hserved⟩
      obtain rfl : e = e' := Option.some.inj (he.symm.trans he')
      exact hserved
  · obtain ⟨e, he, hlower, hwindow, hstore⟩ := discover_last hties hw hok hlt ⟨r, hr, hstars⟩
    have hr' : r.stars = e.request.window.lower := hstars.trans hlower.symm
    rw [hstore, Ranking.mem_reach_iff hwindow hr']
    exact Ranking.mem_served_of_fits hr hwindow hr' (hfits e he)

def threeRanked : Ranking where
  ranks := [⟨1, "a/one", "u1", 5⟩, ⟨2, "b/two", "u2", 3⟩, ⟨3, "c/three", "u3", 3⟩]
  cap := 2
  cap_pos := Nat.two_pos
  ids := by decide
  descending := by decide
  below := by decide

def cutAtThree : Service where
  upcoming := [answered (some [⟨1, "a/one", "u1", 5⟩, ⟨2, "b/two", "u2", 3⟩]), answered (some []),
    answered (some [⟨2, "b/two", "u2", 3⟩, ⟨3, "c/three", "u3", 3⟩]), answered (some [])]
  tail := .drained

theorem threeRanked_surveys :
    Surveys threeRanked 3 (downToThree 10 0) .empty cutAtThree ⟨0⟩ :=
  ⟨rfl, by decide, by decide +kernel⟩

theorem discover_threshold_threeRanked :
    let walked := discover (downToThree 10 0) .empty cutAtThree ⟨0⟩
    threeRanked.TiesFit 3 ∧ walked.1 = .ok ⟨3, 3, 1⟩ ∧ walked.2.tally.found < 10 ∧
      (⟨2, "b/two", "u2", 3⟩ ∈ walked.2.store.repositories ↔
        ∃ e, walked.2.trace.getLast? = some e ∧
          ⟨2, "b/two", "u2", 3⟩ ∈ threeRanked.served e.request.window) ∧
      walked.2.trace.getLast?.map (fun e => e.request.window.range) = some "3..10000000" := by
  intro walked
  have hties : threeRanked.TiesFit 3 := fun n _ => Ranking.length_ties_le (by decide) n
  have hok : walked.1 = .ok ⟨3, 3, 1⟩ := by decide +kernel
  have hlt : walked.2.tally.found < 10 := by decide +kernel
  have h := discover_threshold threeRanked (downToThree 10 0) hties cutAtThree ⟨0⟩
    threeRanked_surveys _ hok hlt
  exact ⟨hties, hok, hlt, h.1 _ (by decide) rfl, by decide +kernel⟩

theorem discover_loses_threeRanked :
    let walked := discover (downToThree 10 0) .empty cutAtThree ⟨0⟩
    (∀ n, 3 ≤ n → (threeRanked.within n n).length ≤ threeRanked.cap) ∧
      Surveys threeRanked 3 (downToThree 10 0) .empty cutAtThree ⟨0⟩ ∧
      walked.1 = .ok ⟨3, 3, 1⟩ ∧ walked.2.tally.found < 10 ∧
      ¬ ∀ r ∈ threeRanked.ranks, r.stars = 3 → r ∈ walked.2.store.repositories := by
  intro walked
  refine ⟨fun n _ => Ranking.length_ties_le (by decide) n, threeRanked_surveys,
    by decide +kernel, by decide +kernel, fun hall => ?_⟩
  have hlost : ⟨3, "c/three", "u3", 3⟩ ∉ walked.2.store.repositories := by decide +kernel
  exact hlost (hall _ (by decide) rfl)

end CodeSurvey.Discovery
