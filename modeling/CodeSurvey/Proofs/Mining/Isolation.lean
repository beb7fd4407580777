import CodeSurvey.Proofs.Mining.Interruption
import CodeSurvey.Proofs.Store.Dossier

/-! Repositories do not get in each other's way. -/

namespace CodeSurvey

def Dossier.lasting (d : Dossier) : Dossier :=
  { d with marker := d.marker.map MarkerRow.lasting }

namespace Mining

def Verdict.settle (v : Verdict) (r : Repository) (refused : Bool) (d : Dossier) : Dossier :=
  ⟨d.repository, if refused then none else some (v.row r), d.findings ∪ {f | f ∈ v.findings}⟩

variable {σ τ : Type} {shop : Workshop σ} {removing : Bool} {r : Repository} {s : Shift σ}

structure Workshop.KeepsTime (shop : Workshop σ) : Prop where
  runs : ∀ path log m run, (shop.analyze path log m).1 = .ok run →
    run.elapsed.nanos < Duration.limit
  failures : ∀ path log m failure, (shop.analyze path log m).1 = .error failure →
    failure.elapsed.nanos < Duration.limit

theorem Workshop.KeepsTime.writes (h : shop.KeepsTime) (r : Repository) (m : σ) :
    (shop.verdict r m).Writes r (shop.marker r m) := by
  cases ho : shop.obtain r.cloneUrl r.name m with
  | mk answer m' =>
    cases answer with
    | error e =>
      obtain ⟨hv, hm⟩ := answers_uncloned ho
      rw [hv, hm]
      rfl
    | ok copy =>
      cases ha : shop.analyze copy.path (toString r.id) m' with
      | mk answer m'' =>
        cases answer with
        | error failure =>
          obtain ⟨hv, hm⟩ := answers_unanalyzed ho ha
          rw [hv, hm]
          exact ⟨_, h.failures _ _ m' _ (congrArg Prod.fst ha), rfl⟩
        | ok run =>
          obtain ⟨hv, hm⟩ := answers_ran ho ha
          rw [hv, hm]
          exact ⟨h.runs _ _ m' _ (congrArg Prod.fst ha), rfl⟩

theorem Prepares.dossier_of_ne {p : Prepared × Shift σ} (h : Prepares shop r s p)
    (hs : s.store.Consistent) {id : Int} (hid : id ≠ r.id) :
    p.2.store.dossier id = s.store.dossier id := by
  cases h with
  | uncloned ho => rfl
  | unanalyzed ho ha => rfl
  | stuck ho ha hr => rfl
  | interned ho ha hr => exact Store.dossier_recordReport_of_ne hs hr hid

theorem mineOne_dossier_of_ne (hs : s.store.Consistent) {id : Int} (hid : id ≠ r.id) :
    (mineOne shop removing r s).2.store.dossier id = s.store.dossier id := by
  rw [mineOne_eq]
  have hp := prepares shop r s
  rcases (concludes shop removing (prepare shop r s)).store with he | ⟨m, _, _, _, hready, hm⟩
  · rw [he]
    exact hp.dossier_of_ne hs hid
  · rw [Store.dossier_mark_of_ne hm ((hp.marker_repository hready).symm ▸ hid)]
    exact hp.dossier_of_ne hs hid

theorem mineOne_dossier (hshop : shop.KeepsTime) (hs : s.store.Consistent)
    (hk : s.store.knows r.id = true) (hu : s.store.isMarked r.id = false) :
    ((mineOne shop removing r s).2.store.dossier r.id).lasting =
      (shop.verdict r s.memory).settle r (s.store.refusals.marker (shop.marker r s.memory))
        (s.store.dossier r.id) := by
  rw [mineOne_eq]
  have hp := prepares shop r s
  have hw := hshop.writes r s.memory
  obtain ⟨⟨newMatches, stage, copy, hready⟩, -, hrec⟩ := hp.answers hs hk
  have hprepared := hp.grows.dossier hrec r.id
  have hfindings : {f | (r.id, f) ∈ Store.attributed r.id (shop.verdict r s.memory).findings} =
      {f | f ∈ (shop.verdict r s.memory).findings} := by
    ext f
    simp
  rw [hfindings] at hprepared
  cases hrefused : s.store.refusals.marker (shop.marker r s.memory) with
  | true =>
    have hm : (prepare shop r s).2.store.mark (shop.marker r s.memory) =
        .error s.store.refusals.reason := by
      simp [Store.mark, hp.grows.refusals, hrefused]
    have hnone : (s.store.dossier r.id).marker = none := Store.dossier_marker_eq_none.2 hu
    rw [(concludes shop removing (prepare shop r s)).store_of_error hready hm, hprepared]
    simp [Dossier.lasting, Verdict.settle, hnone]
  | false =>
    have hm := hp.mark hk hu hw hrefused
    have hmarked := Store.dossier_mark hm
    rw [hw.repository, hprepared] at hmarked
    rw [(concludes shop removing (prepare shop r s)).store_of_mark hready hm, hmarked]
    simp [Dossier.lasting, Verdict.settle, hw.lasting]

theorem mineAll_dossier_of_ne {rs : List Repository} {summary : Summary}
    (hs : s.store.Consistent) {id : Int} (hid : ∀ q ∈ rs, id ≠ q.id) :
    (mineAll shop removing rs summary s).2.store.dossier id = s.store.dossier id := by
  induction rs generalizing summary s with
  | nil => rfl
  | cons q rs ih =>
    obtain ⟨hne, hid⟩ := List.forall_mem_cons.1 hid
    exact (ih (mineOne_consistent shop removing q hs) hid).trans (mineOne_dossier_of_ne hs hne)

theorem mineAll_dossier (hshop : shop.KeepsTime) {rs : List Repository} {summary : Summary}
    (hs : s.store.Consistent) (ha : rs.Pairwise (fun a b => a.id < b.id)) (hr : r ∈ rs)
    (hk : s.store.knows r.id = true) (hu : s.store.isMarked r.id = false) :
    ∃ t, (r, t) ∈ visits shop removing rs s ∧
      ((mineAll shop removing rs summary s).2.store.dossier r.id).lasting =
        (shop.verdict r t.memory).settle r (s.store.refusals.marker (shop.marker r t.memory))
          (s.store.dossier r.id) := by
  induction rs generalizing summary s with
  | nil => cases hr
  | cons q rs ih =>
    obtain ⟨hlt, ha⟩ := List.pairwise_cons.1 ha
    have hc := mineOne_consistent shop removing q hs
    rcases List.mem_cons.1 hr with rfl | hr
    · refine ⟨s, List.mem_cons_self, ?_⟩
      rw [← mineOne_dossier hshop hs hk hu]
      refine congrArg Dossier.lasting (mineAll_dossier_of_ne hc fun x hx => ?_)
      have := hlt x hx
      omega
    · have hne : r.id ≠ q.id := by
        have := hlt r hr
        omega
      have hk' : (mineOne shop removing q s).2.store.knows r.id = true := by
        simpa [Store.knows] using hk
      have hu' : (mineOne shop removing q s).2.store.isMarked r.id = false := by
        rw [mineOne_isMarked shop removing s hne]
        exact hu
      obtain ⟨t, ht, hd⟩ := ih hc ha hr hk' hu'
      rw [mineOne_dossier_of_ne hs hne, mineOne_refusals] at hd
      exact ⟨t, List.mem_cons_of_mem _ ht, hd⟩

theorem run_dossier (hshop : shop.KeepsTime) (hs : s.store.Consistent)
    (hr : r ∈ s.store.queueAfter none) :
    ∃ t, (r, t) ∈ visits shop removing (s.store.queueAfter none) s ∧
      ((run shop removing s).2.store.dossier r.id).lasting =
        (shop.verdict r t.memory).settle r (s.store.refusals.marker (shop.marker r t.memory))
          (s.store.dossier r.id) := by
  rw [run_eq_mineAll hs]
  exact mineAll_dossier hshop hs (Store.queueAfter_ascending hs none) hr
    (Store.knows_of_mem_queueAfter hr) (Store.mem_queueAfter.1 hr).1.2

theorem run_dossier_of_unqueued (hs : s.store.Consistent) {id : Int}
    (hid : ¬ Text.Numeral.minInt64 < id) :
    (run shop removing s).2.store.dossier id = s.store.dossier id := by
  rw [run_eq_mineAll hs]
  refine mineAll_dossier_of_ne hs fun q hq he => ?_
  exact hid (he ▸ (Store.mem_queueAfter.1 hq).2)

theorem run_isolated {shop : Workshop σ} {shop' : Workshop τ} (hshop : shop.KeepsTime)
    (hshop' : shop'.KeepsTime) {removing removing' : Bool} {s : Shift σ} {s' : Shift τ}
    (hs : s.store.Consistent) (hs' : s'.store.Consistent) {r : Repository} {held : Set Finding}
    (hr : s.store.dossier r.id = ⟨some r, none, held⟩)
    (hr' : s'.store.dossier r.id = ⟨some r, none, held⟩)
    (hanswers : ∀ t t', (r, t) ∈ visits shop removing (s.store.queueAfter none) s →
      (r, t') ∈ visits shop' removing' (s'.store.queueAfter none) s' →
        shop.verdict r t.memory = shop'.verdict r t'.memory ∧
          s.store.refusals.marker (shop.marker r t.memory) =
            s'.store.refusals.marker (shop'.marker r t'.memory)) :
    ((run shop removing s).2.store.dossier r.id).lasting =
        ((run shop' removing' s').2.store.dossier r.id).lasting ∧
      (Text.Numeral.minInt64 < r.id →
        ∃ t, (r, t) ∈ visits shop removing (s.store.queueAfter none) s ∧
          ((run shop removing s).2.store.dossier r.id).lasting =
            (shop.verdict r t.memory).settle r (s.store.refusals.marker (shop.marker r t.memory))
              ⟨some r, none, held⟩) := by
  by_cases hid : Text.Numeral.minInt64 < r.id
  · have hqueued : ∀ {u : Store}, u.Consistent → u.dossier r.id = ⟨some r, none, held⟩ →
        r ∈ u.queueAfter none := by
      intro u hu hd
      have hrow : r ∈ u.repositories := (Store.dossier_repository hu).1 (by rw [hd])
      have hunmarked : u.isMarked r.id = false := Store.dossier_marker_eq_none.1 (by rw [hd])
      exact Store.mem_queueAfter.2 ⟨⟨hrow, hunmarked⟩, hid⟩
    obtain ⟨t, ht, hd⟩ := run_dossier hshop hs (hqueued hs hr)
    obtain ⟨t', ht', hd'⟩ := run_dossier hshop' hs' (hqueued hs' hr')
    obtain ⟨hverdict, hrefused⟩ := hanswers t t' ht ht'
    rw [hr] at hd
    rw [hr'] at hd'
    refine ⟨?_, fun _ => ⟨t, ht, hd⟩⟩
    rw [hd, hd', hverdict, hrefused]
  · -- no run comes to a repository that has the least id
    refine ⟨?_, fun hlt => absurd hlt hid⟩
    rw [run_dossier_of_unqueued hs hid, run_dossier_of_unqueued hs' hid, hr, hr']

def threeBesideNine : Store :=
  (Store.blank ⟨fun _ => false, fun m => m.repository == 9, .refused⟩).performAll
    [.insert [⟨9, "b/nine", "u9", 50⟩, ⟨2, "x/two", "v2", 9⟩, ⟨3, "c/three", "u3", 40⟩,
      ⟨1, "x/one", "v1", 8⟩], .recordReport 9 threeReport, .mark ⟨1, 0, 0, .zero, .cloneFailed⟩]

def withoutTwo : Workshop Unit where
  obtain := fun _ name u =>
    if name = "x/two" then (.error (.clone name "not found"), u) else (.ok ⟨"kept", true⟩, u)
  analyze := fun _ _ u => (.ok ⟨threeReport, ⟨3, 0⟩, .ofMillis 1500, none⟩, u)
  remove := fun _ u => (.error (.clone "kept" "busy"), u)

theorem growingTired_keepsTime : growingTired.KeepsTime := by
  constructor
  · intro path log m run h
    simp only [growingTired] at h
    split at h
    · cases h
    · cases h
      decide
  · intro path log m failure h
    simp only [growingTired] at h
    split at h
    · cases h
      exact lt_of_le_of_lt (Nat.min_le_right _ _) (by decide)
    · cases h

theorem withoutTwo_keepsTime : withoutTwo.KeepsTime := by
  constructor
  · intro path log m run h
    cases h
    decide
  · intro path log m failure h
    cases h

theorem run_isolated_three :
    let left := (run growingTired false ⟨threeQueued, 0, []⟩).2.store
    let right := (run withoutTwo true ⟨threeBesideNine, (), []⟩).2.store
    (left.dossier 3).lasting = (right.dossier 3).lasting ∧ left.isMarked 3 = true ∧
      right.isMarked 9 = false ∧ left.matchRows.length = 2 ∧ right.matchRows.length = 4 := by
  intro left right
  let r : Repository := ⟨3, "c/three", "u3", 40⟩
  have hleft : threeQueued.dossier r.id = ⟨some r, none, ∅⟩ :=
    Dossier.ext (by decide +kernel) (by decide +kernel)
      (Store.dossier_findings_eq_empty (by decide +kernel))
  have hright : threeBesideNine.dossier r.id = ⟨some r, none, ∅⟩ :=
    Dossier.ext (by decide +kernel) (by decide +kernel)
      (Store.dossier_findings_eq_empty (by decide +kernel))
  have hanswers : ∀ m, growingTired.verdict r m = withoutTwo.verdict r () ∧
      threeQueued.refusals.marker (growingTired.marker r m) =
        threeBesideNine.refusals.marker (withoutTwo.marker r ()) := by
    intro m
    have haccepted : threeBesideNine.refusals.marker (withoutTwo.marker r ()) = false := by
      decide +kernel
    refine ⟨?_, haccepted ▸ rfl⟩
    simp [Workshop.verdict, growingTired, withoutTwo, r]
  have h : (left.dossier r.id).lasting = (right.dossier r.id).lasting :=
    run_isolated growingTired_keepsTime withoutTwo_keepsTime
      ((Store.Consistent.blank _).performAll _) ((Store.Consistent.blank _).performAll _)
      hleft hright (fun t t' _ _ => hanswers t.memory) |>.1
  refine ⟨h, ?_, ?_, ?_, ?_⟩ <;> decide +kernel

end Mining

end CodeSurvey
