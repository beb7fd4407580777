import CodeSurvey.Proofs.Mining.Accounting
import CodeSurvey.Proofs.Store.Tally
import CodeSurvey.Proofs.Survey.Events

/-! The yield of mining. -/

namespace CodeSurvey

namespace Store

variable {s t : Store}

theorem mark_matchRows {m : Marker} (h : s.mark m = .ok t) : t.matchRows = s.matchRows := by
  rw [(mark_eq_ok_iff.1 h).2.2.2.2]

theorem ncard_fresh_eq_zero_iff {repository : Int} {fs : List Finding} :
    (s.fresh repository fs).ncard = 0 ↔ ∀ f ∈ fs, (repository, f) ∈ s.recorded := by
  rw [Set.ncard_eq_zero (finite_fresh s repository fs), Set.eq_empty_iff_forall_notMem]
  simp [fresh]

end Store

namespace Mining

namespace Ending

def told : Ending → Nat
  | .marked _ newMatches => newMatches
  | .unmarked _ _ => 0

def isTorn : Ending → Bool
  | .unmarked .interned _ => true
  | _ => false

end Ending

@[simp] theorem Summary.record_newMatches (summary : Summary) (e : Ending) :
    (summary.record e).newMatches = summary.newMatches + e.told := by
  cases e with
  | unmarked stage reason => rfl
  | marked marker newMatches =>
    simp only [Summary.record, Ending.told]
    cases marker.outcome <;> rfl

variable {σ : Type} {shop : Workshop σ} {removing : Bool} {r : Repository} {s : Shift σ}

theorem Reaches.newMatches {stage : Stage} {n : Nat} {t : Store} (h : Reaches shop r s stage n t)
    (hs : s.store.Consistent) (hk : s.store.knows r.id = true) :
    t.matchRows.length = s.store.matchRows.length + n ∧
      n = if stage = .interned then
          (s.store.fresh r.id (shop.verdict r s.memory).findings).ncard else 0 := by
  cases h with
  | pending hv => exact ⟨rfl, rfl⟩
  | cloned hv => exact ⟨rfl, rfl⟩
  | interned hv hr =>
    obtain ⟨recording, u, hu, h⟩ := Store.recordFindings_records hs hk (Report.parse _)
    cases hr.symm.trans hu
    rw [hv]
    exact ⟨h.rows, h.newMatches⟩

theorem Ends.matchRows {ending : Ending} {t : Store} (h : Ends shop r s ending t)
    (hs : s.store.Consistent) (hk : s.store.knows r.id = true) :
    t.matchRows.length = s.store.matchRows.length + ending.told +
      if ending.isTorn then (s.store.fresh r.id (shop.verdict r s.memory).findings).ncard
      else 0 := by
  cases h with
  | unrecorded hv hr => rfl
  | @unwritten stage n t e hreach hm =>
    obtain ⟨hrows, hn⟩ := hreach.newMatches hs hk
    have htorn : (Ending.unmarked stage (.storage e)).isTorn = decide (stage = .interned) := by
      cases stage <;> rfl
    rw [hrows, htorn, hn]
    simp only [Ending.told, Nat.add_zero, decide_eq_true_eq]
  | written hreach hm =>
    rw [Store.mark_matchRows hm]
    exact (hreach.newMatches hs hk).1

noncomputable def untold (shop : Workshop σ) (removing : Bool) (v : Repository × Shift σ) : Nat :=
  if (mineOne shop removing v.1 v.2).1.isTorn then
    (v.2.store.fresh v.1.id (shop.verdict v.1 v.2.memory).findings).ncard
  else 0

noncomputable def withheld (shop : Workshop σ) (removing : Bool) (s : Shift σ) : Nat :=
  ((visits shop removing (s.store.queueAfter none) s).map (untold shop removing)).sum

theorem untold_eq_zero_iff {v : Repository × Shift σ} :
    untold shop removing v = 0 ↔
      ((mineOne shop removing v.1 v.2).1.isTorn = true →
        ∀ f ∈ (shop.verdict v.1 v.2.memory).findings, (v.1.id, f) ∈ v.2.store.recorded) := by
  unfold untold
  split
  · rename_i htorn
    simp only [Store.ncard_fresh_eq_zero_iff, htorn, forall_const]
  · rename_i htorn
    simp [htorn]

theorem mineAll_matchRows {rs : List Repository} (summary : Summary) (hs : s.store.Consistent)
    (hk : ∀ r ∈ rs, s.store.knows r.id = true) :
    (mineAll shop removing rs summary s).2.store.matchRows.length + summary.newMatches =
      s.store.matchRows.length + (mineAll shop removing rs summary s).1.newMatches +
        ((visits shop removing rs s).map (untold shop removing)).sum := by
  -- What the summary comes in with stands on both sides, as the induction meets it at every visit.
  induction rs generalizing summary s with
  | nil => rfl
  | cons r rs ih =>
    obtain ⟨hr, hrs⟩ := List.forall_mem_cons.1 hk
    have hrows := (mineOne_ends shop removing r s).matchRows hs hr
    have hknown : ∀ q ∈ rs, (mineOne shop removing r s).2.store.knows q.id = true := by
      intro q hq
      simpa [Store.knows] using hrs q hq
    have hrest := ih (summary.record (mineOne shop removing r s).1)
      (mineOne_consistent shop removing r hs) hknown
    rw [Summary.record_newMatches, hrows] at hrest
    simp only [mineAll, visits, List.map_cons, List.sum_cons, untold]
    omega

structure Yields (shop : Workshop σ) (removing : Bool) (s : Shift σ) : Prop where
  rows : (run shop removing s).2.store.matchRows.length =
    s.store.matchRows.length + (run shop removing s).1.newMatches + withheld shop removing s
  told_iff : (run shop removing s).2.store.matchRows.length =
      s.store.matchRows.length + (run shop removing s).1.newMatches ↔
    ∀ v ∈ visits shop removing (s.store.queueAfter none) s,
      (mineOne shop removing v.1 v.2).1.isTorn = true →
        ∀ f ∈ (shop.verdict v.1 v.2.memory).findings, (v.1.id, f) ∈ v.2.store.recorded

theorem withheld_eq_zero_iff :
    withheld shop removing s = 0 ↔ ∀ v ∈ visits shop removing (s.store.queueAfter none) s,
      untold shop removing v = 0 := by
  rw [withheld, List.sum_eq_zero_iff_forall_eq_nat, List.forall_mem_map]

theorem run_rows (shop : Workshop σ) (removing : Bool) (hs : s.store.Consistent) :
    (run shop removing s).2.store.matchRows.length =
      s.store.matchRows.length + (run shop removing s).1.newMatches + withheld shop removing s := by
  have hknown : ∀ r ∈ s.store.queueAfter none, s.store.knows r.id = true :=
    fun r hr => Store.knows_of_mem_queueAfter hr
  rw [run_eq_mineAll hs]
  exact mineAll_matchRows .zero hs hknown

theorem yields (shop : Workshop σ) (removing : Bool) (hs : s.store.Consistent) :
    Yields shop removing s where
  rows := run_rows shop removing hs
  told_iff := by
    rw [run_rows shop removing hs, Nat.add_eq_left, withheld_eq_zero_iff]
    simp only [untold_eq_zero_iff]

end Mining

def Store.Operation.LeavesMatches : Store.Operation → Prop
  | .recordMatch _ _ => False
  | .write _ _ => False
  | .recordReport _ _ => False
  | _ => True

namespace Event

def LeavesMatchesToMining : Event → Prop
  | .operation o => o.LeavesMatches
  | _ => True

def told (s : Store) : Event → Nat
  | .mine shop removing memory => (Mining.run shop removing ⟨s, memory, []⟩).1.newMatches
  | _ => 0

noncomputable def withheld (s : Store) : Event → Nat
  | .mine shop removing memory => Mining.withheld shop removing ⟨s, memory, []⟩
  | _ => 0

end Event

namespace Store

open Store (Operation)

variable {s t : Store}

def along (count : Store → Event → Nat) (s : Store) : List Event → Nat
  | [] => 0
  | e :: events => count s e + along count (s.undergo e) events

theorem settled_matchRows {α : Type} {result : Except StoreError (α × Store)}
    (h : ∀ a t, result = .ok (a, t) → t.matchRows = s.matchRows) :
    (s.settled result).matchRows = s.matchRows :=
  settled_of (P := fun t => t.matchRows = s.matchRows) rfl h

theorem perform_matchRows {o : Operation} (h : o.LeavesMatches) :
    (s.perform o).matchRows = s.matchRows := by
  cases o with
  | insert rs =>
    refine settled_matchRows fun n t hi => ?_
    rw [insertRepositories_rest hi]
  | mark m =>
    cases hm : s.mark m with
    | error e => simp [perform, settled, hm, Except.map]
    | ok t =>
      rw [perform_of_mark hm]
      exact mark_matchRows hm
  | resetFailed => rfl
  | ensureFile repository path => exact settled_matchRows fun id t hf => ensureFile_matchRows hf
  | recordMatch file site => exact absurd h id
  | write entries keep => exact absurd h id
  | recordReport repository report => exact absurd h id

theorem Performs.matchRows {kind : Operation → Prop} (h : s.Performs kind t)
    (hk : ∀ o, kind o → o.LeavesMatches) : t.matchRows = s.matchRows :=
  h.preserves (P := fun u => u.matchRows = s.matchRows)
    (fun _ o ho hu => (perform_matchRows (hk o ho)).trans hu) rfl

theorem Operation.Inserts.leavesMatches {o : Operation} (h : o.Inserts) : o.LeavesMatches := by
  cases o with
  | insert rs => trivial
  | _ => exact absurd h id

theorem undergo_matchRows (hs : s.Consistent) {e : Event} (h : e.LeavesMatchesToMining) :
    (s.undergo e).matchRows.length = s.matchRows.length + e.told s + e.withheld s := by
  cases e with
  | operation o => exact congrArg List.length (perform_matchRows h)
  | walk options service started =>
    have hwalk := s.undergo_walk_performs options service started
    exact congrArg List.length (hwalk.matchRows fun o ho => ho.leavesMatches)
  | mine shop removing memory => exact Mining.run_rows shop removing hs
  | refuse refusals => rfl

theorem undergoAll_matchRows (hs : s.Consistent) {events : List Event}
    (h : ∀ e ∈ events, e.LeavesMatchesToMining) :
    (s.undergoAll events).matchRows.length =
      s.matchRows.length + s.along Event.told events + s.along Event.withheld events := by
  induction events generalizing s with
  | nil => rfl
  | cons e events ih =>
    obtain ⟨he, hevents⟩ := List.forall_mem_cons.1 h
    have hstep := undergo_matchRows hs he
    have hrest := ih (hs.undergo e) hevents
    simp only [along, undergoAll, List.foldl_cons] at hrest ⊢
    omega

theorem along_eq_zero_iff {count : Store → Event → Nat} {events : List Event} :
    s.along count events = 0 ↔
      ∀ past e later, events = past ++ e :: later → count (s.undergoAll past) e = 0 := by
  induction events generalizing s with
  | nil => simp [along]
  | cons e events ih =>
    rw [along, Nat.add_eq_zero_iff, ih]
    constructor
    · rintro ⟨hfirst, hrest⟩ past e' later h
      cases past with
      | nil =>
        cases h
        exact hfirst
      | cons _ past =>
        cases h
        exact hrest past e' later rfl
    · intro h
      exact ⟨h [] e events rfl, fun past e' later hp => h (e :: past) e' later (by rw [hp]; rfl)⟩

/-- What the summaries tell of falls short of the matches by what was recorded without a marker. -/
theorem undergoAll_newMatches (hs : s.Consistent) :
    (∀ (σ : Type) (shop : Mining.Workshop σ) (removing : Bool) (memory : σ),
        Mining.Yields shop removing ⟨s, memory, []⟩) ∧
      ∀ events : List Event, (∀ e ∈ events, e.LeavesMatchesToMining) →
        (s.undergoAll events).matchRows.length =
            s.matchRows.length + s.along Event.told events + s.along Event.withheld events ∧
          ((s.undergoAll events).matchRows.length =
              s.matchRows.length + s.along Event.told events ↔
            ∀ past e later, events = past ++ e :: later →
              e.withheld (s.undergoAll past) = 0) := by
  refine ⟨fun σ shop removing memory => Mining.yields shop removing hs, fun events h => ?_⟩
  have hrows := undergoAll_matchRows hs h
  refine ⟨hrows, ?_⟩
  rw [hrows, Nat.add_eq_left, along_eq_zero_iff]

def minedTwice : List Event :=
  [.mine Mining.growingTired true 0, .refuse .none, .mine Mining.growingTired true 0]

theorem undergoAll_newMatches_minedTwice :
    let s := Mining.sevenListed
    (s.undergoAll minedTwice).matchRows.length = 4 ∧ s.matchRows.length = 0 ∧
      s.along Event.told minedTwice = 2 ∧ s.along Event.withheld minedTwice = 2 ∧
      Mining.Yields Mining.growingTired true ⟨s, 0, []⟩ := by
  intro s
  have hs : s.Consistent := (Consistent.blank _).performAll _
  have hleaves : ∀ e ∈ minedTwice, e.LeavesMatchesToMining := by
    simp [minedTwice, Event.LeavesMatchesToMining]
  have h := undergoAll_newMatches hs
  have hrows := (h.2 minedTwice hleaves).1
  have hafter : (s.undergoAll minedTwice).matchRows.length = 4 := by decide +kernel
  have hbefore : s.matchRows.length = 0 := by decide +kernel
  have htold : s.along Event.told minedTwice = 2 := by decide +kernel
  exact ⟨hafter, hbefore, htold, by omega, h.1 _ _ _ _⟩

theorem run_withholds_sevenListed :
    ¬ ∀ (s : Store) (shop : Mining.Workshop Nat) (removing : Bool) (memory : Nat), s.Consistent →
      let ran := Mining.run shop removing ⟨s, memory, []⟩
      ran.2.store.matchRows.length = s.matchRows.length + ran.1.newMatches := by
  intro h
  have hs : Mining.sevenListed.Consistent := (Consistent.blank _).performAll _
  have hran := h Mining.sevenListed Mining.growingTired true 0 hs
  revert hran
  decide +kernel

end Store

end CodeSurvey
