import CodeSurvey.Proofs.Discovery.Ranking
import CodeSurvey.Proofs.Discovery.Steps

/-! No walk skips a repository above the threshold. -/

namespace CodeSurvey.Discovery

open Walk (Fetched Stepped close pageSize requestFor windowBelow)

structure Charted (u : Ranking) (minStars : Int) (w : Walk) : Prop where
  accepts : ∀ r, w.store.refusals.repository r = false
  initial : w.store.repositories <+: u.above minStars
  pages : ∀ e ∈ w.trace, e.request.window.page ≤ u.cap + 1

/-- What holds of a walk before each step: the store knows all that ranks above the window, and of
the window as much as the pages before this one hold at the present page size. -/
structure Covers (u : Ranking) (options : Options) (window : Window) (w : Walk) : Prop
    extends Charted u options.minStars w where
  lower : window.lower = options.minStars
  page : 1 ≤ window.page ∧ window.page ≤ u.cap + 1
  covered : u.above (window.upper + 1) ++
    (u.served window).take ((window.page - 1) * pageSize options w.tally.found) <+:
      w.store.repositories

variable {u : Ranking} {options : Options} {window : Window} {w v : Walk}

theorem pageSize_pos (h : 0 < options.perPage) (found : Nat) : 0 < pageSize options found := by
  unfold pageSize
  omega

theorem pageSize_le {m n : Nat} (h : m ≤ n) : pageSize options n ≤ pageSize options m := by
  unfold pageSize
  omega

variable {retries : Nat} {tries : List Exchange} {last : Exchange}

theorem Covers.fetched (hc : Covers u options window w)
    (hf : Fetched (requestFor options window w.tally.found) retries w v tries last) :
    Covers u options window v where
  accepts := hf.store ▸ hc.accepts
  initial := hf.store ▸ hc.initial
  lower := hc.lower
  page := hc.page
  covered := by
    rw [hf.store, hf.found]
    exact hc.covered
  pages := by
    intro e he
    rcases hf.mem_trace.1 he with he | he
    · exact hc.pages e he
    · rw [hf.requests e he]
      exact hc.page.2

theorem page_of_fetched {items : Option (List Repository)}
    (hf : Fetched (requestFor options window w.tally.found) retries w v tries last)
    (hr : last.reading w.started = .final items) (ha : ∀ e ∈ v.trace, u.Answers v.started e) :
    items.getD [] = u.page (requestFor options window v.tally.found) := by
  rw [hf.found, ← hf.request_last]
  exact ha last (List.mem_of_getLast? hf.getLast?) items (hf.started ▸ hr)

theorem Covers.inserted (hc : Covers u options window v) {all : List Repository}
    (hids : (all.map Repository.id).Nodup) (hs : v.store.repositories <+: all)
    (hall : u.reach window <+: all) :
    ∃ n t, v.insert (u.page (requestFor options window v.tally.found)) = { v with
        store := t
        tally := { v.tally with found := v.tally.found + n, pages := v.tally.pages + 1 } } ∧
      t.refusals = v.store.refusals ∧ t.repositories <+: all ∧
      u.above (window.upper + 1) ++ (u.served window).take
        (window.page * pageSize options v.tally.found) <+: t.repositories := by
  have hseen : (u.served window).take ((window.page - 1) * pageSize options v.tally.found) ++
      u.page (requestFor options window v.tally.found) =
        (u.served window).take (window.page * pageSize options v.tally.found) :=
    Ranking.take_append_page (requestFor options window v.tally.found) hc.page.1
  have hsegment : u.above (window.upper + 1) ++ (u.served window).take
      (window.page * pageSize options v.tally.found) <+: all :=
    ((List.prefix_append_right_inj _).2 (List.take_prefix _ _)).trans hall
  obtain ⟨n, t, ht, href, hrep, hknown⟩ :=
    Store.insertRepositories_segment hids hs hc.covered
      (by rw [List.append_assoc, hseen]; exact hsegment) (fun r _ => hc.accepts r)
  rw [List.append_assoc, hseen] at hknown
  exact ⟨n, t, by simp [Walk.insert, ht], href, hrep, hknown⟩

theorem Covers.turned (hc : Covers u options window v) (hp : 0 < options.perPage)
    (hw : window.exhausted = false)
    (hne : u.page (requestFor options window v.tally.found) ≠ []) :
    Covers u options window.nextPage
      (v.insert (u.page (requestFor options window v.tally.found))) := by
  have hlast := Ranking.page_le_cap (requestFor options window v.tally.found)
    (pageSize_pos hp v.tally.found) hne
  have hreach : u.reach window <+: u.above options.minStars := by
    rw [← hc.lower]
    exact Ranking.reach_prefix_above (Int.le_of_lt (Window.not_exhausted_iff.1 hw))
  obtain ⟨n, t, hinsert, href, hall, hknown⟩ := hc.inserted (u.ids_above _) hc.initial hreach
  rw [hinsert]
  refine ⟨⟨fun r => href ▸ hc.accepts r, hall, hc.pages⟩, hc.lower, ?_, ?_⟩
  · exact ⟨Nat.le_add_left 1 _, Nat.succ_le_succ hlast⟩
  · refine ((List.prefix_append_right_inj _).2 ?_).trans hknown
    apply List.take_prefix_take_left
    exact Nat.mul_le_mul_left _ (pageSize_le (Nat.le_add_right _ n))

theorem above_windowBelow {s : Store} (hw : window.exhausted = false)
    (hties : (u.within window.upper window.upper).length ≤ u.cap)
    (hs : s.repositories <+: u.above window.lower)
    (hall : u.above (window.upper + 1) ++ u.served window <+: s.repositories) :
    u.above ((windowBelow s window).upper + 1) <+: s.repositories := by
  have hlt := Window.not_exhausted_iff.1 hw
  unfold windowBelow
  split
  · rename_i hnone
    rcases s.minStarsSeen_cases with ⟨hempty, -⟩ | ⟨r, hr, hstars⟩
    · rw [hempty] at hall ⊢
      have hnil := Ranking.above_eq_nil (Int.le_of_lt hlt) (List.prefix_nil.1 hall)
      rw [← hnil]
      apply Ranking.above_prefix_above
      simp only [Window.shrink, hlt, if_true]
      omega
    · have := u.below r (Ranking.mem_above.1 (hs.subset hr)).1
      omega
  · simp only [Window.shrink]
    split
    · exact Ranking.above_minStarsSeen hs
    · rw [Int.sub_add_cancel]
      have hupper : u.above window.upper =
          u.above (window.upper + 1) ++ u.within window.upper window.upper :=
        Ranking.above_eq_append (by omega)
      rw [hupper]
      exact ((List.prefix_append_right_inj _).2
        (Ranking.ties_prefix_served (Int.le_of_lt hlt) hties)).trans hall

theorem Covers.drained (hc : Covers u options window v) (hp : 0 < options.perPage)
    (hnil : u.page (requestFor options window v.tally.found) = []) :
    u.reach window <+: v.store.repositories := by
  have hlength : (u.served window).length ≤
      (window.page - 1) * pageSize options v.tally.found :=
    (Ranking.page_eq_nil_iff (requestFor options window v.tally.found) (pageSize_pos hp _)).1 hnil
  have h := hc.covered
  rw [List.take_of_length_le hlength] at h
  exact h

theorem Covers.closed (hc : Covers u options window v) (hp : 0 < options.perPage)
    (hw : window.exhausted = false)
    (hties : (u.within window.upper window.upper).length ≤ u.cap)
    (hnil : u.page (requestFor options window v.tally.found) = []) :
    Covers u options (close options window v).1 (close options window v).2 where
  accepts := by simpa using hc.accepts
  initial := by simpa using hc.initial
  pages := by simpa using hc.pages
  lower := by simpa using hc.lower
  page := by simp
  covered := by
    simpa using above_windowBelow hw hties (hc.lower ▸ hc.initial) (hc.drained hp hnil)

def Ranking.TiesFit (u : Ranking) (minStars : Int) : Prop :=
  ∀ n, minStars < n → (u.within n n).length ≤ u.cap

theorem Covers.stepped {result : Except Fault Window} (hc : Covers u options window w)
    (hties : u.TiesFit options.minStars) (hp : 0 < options.perPage)
    (hw : window.exhausted = false) (hd : Stepped options window w (result, v))
    (ha : ∀ e ∈ v.trace, u.Answers v.started e) :
    Charted u options.minStars v ∧ ∀ next, result = .ok next → Covers u options next v := by
  have hupper := Window.not_exhausted_iff.1 hw
  rw [hc.lower] at hupper
  cases hd with
  | faulted hf hk => exact ⟨(hc.fetched hf).toCharted, fun next he => by cases he⟩
  | turned hf hr hne =>
    have hpage := page_of_fetched hf hr (by simpa using ha)
    rw [hpage] at hne ⊢
    have ht := (hc.fetched hf).turned hp hw hne
    exact ⟨ht.toCharted, fun next he => Except.ok.inj he ▸ ht⟩
  | closed hf hr hnil =>
    have hpage := page_of_fetched hf hr (by simpa using ha)
    have ht := (hc.fetched hf).closed hp hw (hties _ hupper) (hpage.symm.trans hnil)
    exact ⟨ht.toCharted, fun next he => Except.ok.inj he ▸ ht⟩

theorem Covers.run (hc : Covers u options window w) (hties : u.TiesFit options.minStars)
    (hp : 0 < options.perPage)
    (ha : ∀ e ∈ (Walk.run options window w).2.trace, u.Answers w.started e) :
    Charted u options.minStars (Walk.run options window w).2 ∧
      ∀ last, (Walk.run options window w).1 = .ok last →
        Covers u options last (Walk.run options window w).2 := by
  refine Walk.run_induction_of_trace u.Answers (Covers u options)
    (fun d => Charted u options.minStars d.2 ∧ ∀ last, d.1 = .ok last → Covers u options last d.2)
    ?_ ?_ ?_ hc ha
  · intro window w fault v h hopen hd ha
    exact h.stepped hties hp hopen.2 hd ha
  · intro window w next v h hopen hd ha
    exact (h.stepped hties hp hopen.2 hd ha).2 next rfl
  · intro window w h _
    exact ⟨h.toCharted, fun last he => Except.ok.inj he ▸ h⟩

structure Surveys (u : Ranking) (minStars : Int) (options : Options) (s : Store)
    (service : Service) (started : Moment) : Prop where
  threshold : options.minStars = minStars
  perPage : 0 < options.perPage
  answers : ∀ e ∈ (discover options s service started).2.trace, u.Answers started e

/-- The stores that any number of such walks, one after the other, make of the empty one. -/
inductive Surveyed (u : Ranking) (minStars : Int) : Store → Prop where
  | empty : Surveyed u minStars .empty
  | again {s : Store} {options : Options} {service : Service} {started : Moment}
    (h : Surveyed u minStars s) (hw : Surveys u minStars options s service started) :
    Surveyed u minStars (discover options s service started).2.store

variable {minStars : Int} {s : Store} {service : Service} {started : Moment}

theorem Covers.start (haccepts : ∀ r, s.refusals.repository r = false)
    (hs : s.repositories <+: u.above options.minStars) :
    Covers u options (startingWindow options s) (Walk.start s service started) := by
  refine ⟨⟨haccepts, hs, by simp [Walk.start]⟩, rfl, ⟨Nat.le_refl 1, Nat.le_add_left 1 _⟩, ?_⟩
  have hzero : (startingWindow options s).page - 1 = 0 := rfl
  rw [hzero, Nat.zero_mul, List.take_zero, List.append_nil]
  exact Ranking.above_minStarsSeen hs

theorem Surveyed.charted (hties : u.TiesFit minStars) (h : Surveyed u minStars s) :
    (∀ r, s.refusals.repository r = false) ∧ s.repositories <+: u.above minStars := by
  induction h with
  | empty => exact ⟨fun _ => rfl, List.nil_prefix⟩
  | again h hw ih =>
    obtain ⟨rfl, hp, ha⟩ := hw
    have hc := ((Covers.start ih.1 ih.2).run hties hp ha).1
    exact ⟨hc.accepts, hc.initial⟩

theorem discover_coverage (u : Ranking) (minStars : Int) (hties : u.TiesFit minStars) {s : Store}
    (hs : Surveyed u minStars s) (options : Options) (service : Service) (started : Moment)
    (hw : Surveys u minStars options s service started) :
    let walked := discover options s service started
    s.repositories <+: u.above minStars ∧
      walked.2.store.repositories <+: u.above minStars ∧
      (∀ e ∈ walked.2.trace, e.request.window.page ≤ u.cap + 1) ∧
      ∀ last, walked.1 = .ok last →
        walked.2.tally.found < options.maxRepositories ∨ last.exhausted = true →
          ∀ r ∈ u.ranks, minStars < r.stars → r ∈ walked.2.store.repositories := by
  intro walked
  obtain ⟨haccepts, hinitial⟩ := hs.charted hties
  obtain ⟨rfl, hp, ha⟩ := hw
  obtain ⟨hc, hend⟩ := (Covers.start haccepts hinitial).run hties hp ha
  refine ⟨hinitial, hc.initial, hc.pages, ?_⟩
  intro last hok hover r hr hstars
  have hlast := hend last hok
  have hexhausted : last.exhausted = true := by
    rcases hover with hlt | he
    · exact Walk.exhausted_of_run hok hlt
    · exact he
  have hupper : last.upper ≤ options.minStars := by
    rw [← hlast.lower]
    simpa [Window.exhausted] using hexhausted
  have hin : r ∈ u.above (last.upper + 1) := Ranking.mem_above.2 ⟨hr, by omega⟩
  exact ((List.prefix_append _ _).trans hlast.covered).subset hin

def fiveRanked : Ranking where
  ranks := [⟨1, "a/one", "u1", 5⟩, ⟨2, "b/two", "u2", 5⟩, ⟨3, "c/three", "u3", 4⟩,
    ⟨4, "d/four", "u4", 3⟩, ⟨5, "e/five", "u5", 2⟩]
  cap := 2
  cap_pos := by decide
  ids := by decide
  descending := by decide
  below := by decide

theorem fiveRanked_tiesFit : fiveRanked.TiesFit 3 :=
  fun n _ => Ranking.length_ties_le (by decide) n

def answered (page : Option (List Repository)) : Answer := .response ⟨200, .silent, page⟩

def downToThree (maxRepositories maxRetries : Nat) : Options :=
  ⟨"c", 3, maxRepositories, 2, .zero, maxRetries⟩

def failing : Service where
  upcoming := [.response ⟨429, ⟨some 7, none, none⟩, none⟩,
    answered (some [⟨1, "a/one", "u1", 5⟩, ⟨2, "b/two", "u2", 5⟩]), .failed (.search "timeout")]
  tail := .drained

def recovered : Service where
  upcoming := [answered (some [⟨1, "a/one", "u1", 5⟩, ⟨2, "b/two", "u2", 5⟩]),
    answered (some []), .response ⟨502, .silent, none⟩,
    answered (some [⟨3, "c/three", "u3", 4⟩, ⟨4, "d/four", "u4", 3⟩]),
    answered (some [⟨4, "d/four", "u4", 3⟩])]
  tail := .drained

theorem discover_coverage_fiveRanked :
    let failed := discover (downToThree 10 0) .empty failing ⟨0⟩
    let walked := discover (downToThree 3 1) failed.2.store recovered ⟨0⟩
    failed.2.store.repositories.map Repository.id = [1, 2] ∧
      walked.2.trace.map
          (fun e => (e.request.window.upper, e.request.window.page, e.request.perPage)) =
        [(5, 1, 2), (5, 2, 2), (4, 1, 2), (4, 1, 2), (4, 2, 1), (4, 3, 1)] ∧
      fiveRanked.TiesFit 3 ∧ Surveyed fiveRanked 3 failed.2.store ∧
      Surveys fiveRanked 3 (downToThree 3 1) failed.2.store recovered ⟨0⟩ ∧
      ∀ r ∈ fiveRanked.ranks, 3 < r.stars → r ∈ walked.2.store.repositories := by
  intro failed walked
  have hfailed : Surveyed fiveRanked 3 failed.2.store :=
    .again .empty ⟨rfl, by decide, by decide +kernel⟩
  have hwalked : Surveys fiveRanked 3 (downToThree 3 1) failed.2.store recovered ⟨0⟩ :=
    ⟨rfl, by decide, by decide +kernel⟩
  have h := discover_coverage fiveRanked 3 fiveRanked_tiesFit hfailed _ _ _ hwalked
  refine ⟨by decide +kernel, by decide +kernel, fiveRanked_tiesFit, hfailed, hwalked, ?_⟩
  exact h.2.2.2 ⟨3, 3, 1⟩ (by decide +kernel) (Or.inl (by decide +kernel))

end CodeSurvey.Discovery
