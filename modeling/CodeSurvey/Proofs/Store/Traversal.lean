import CodeSurvey.Mining.Run
import CodeSurvey.Proofs.Store.History
import CodeSurvey.Proofs.Store.Waiting

/-! Walking the queue of an unchanging store, from one repository to the one behind it. -/

namespace CodeSurvey.Store

def walkAfter (s : Store) (last : Int) : List Repository :=
  match _h : s.nextUnminedAfter (some last) with
  | none => []
  | some r => r :: s.walkAfter r.id
termination_by Mining.ahead s.repositories (some last)
decreasing_by
  have hm := nextUnminedAfter_mem _h
  exact Mining.ahead_lt hm.1 hm.2.2

def walk (s : Store) : List Repository :=
  match s.nextUnmined with
  | none => []
  | some r => r :: s.walkAfter r.id

variable {s : Store}

theorem walkAfter_eq_queueAfter (hs : s.Consistent) (last : Int) :
    s.walkAfter last = s.queueAfter (some last) := by
  generalize hq : s.queueAfter (some last) = q
  have hnext := nextUnminedAfter_eq_head? hs (some last)
  rw [hq] at hnext
  induction q generalizing last with
  | nil =>
    rw [walkAfter]
    split
    · rfl
    · rename_i r hr
      rw [hnext] at hr
      cases hr
  | cons r rs ih =>
    rw [walkAfter]
    split
    · rename_i hr
      rw [hnext] at hr
      cases hr
    rename_i r' hr
    rw [hnext] at hr
    cases hr
    have htail := queueAfter_head hs hs hq rfl (fun _ _ => rfl)
    have hnext' := nextUnminedAfter_eq_head? hs (some r.id)
    rw [htail] at hnext'
    rw [ih r.id htail hnext']

theorem walk_eq_queueAfter (hs : s.Consistent) : s.walk = s.queueAfter none := by
  have hnext : s.nextUnmined = (s.queueAfter none).head? := nextUnminedAfter_eq_head? hs none
  rw [walk, hnext]
  cases hq : s.queueAfter none with
  | nil => rfl
  | cons r rs =>
    have htail := queueAfter_head hs hs hq rfl (fun _ _ => rfl)
    simp only [List.head?_cons, walkAfter_eq_queueAfter hs, htail]

theorem mem_walk (hs : s.Consistent) (hids : ∀ r ∈ s.repositories, Text.Numeral.minInt64 ≤ r.id)
    {r : Repository} : r ∈ s.walk ↔ r ∈ s.unmined ∧ r.id ≠ Text.Numeral.minInt64 := by
  rw [walk_eq_queueAfter hs, mem_queueAfter, mem_unmined, Option.getD_none]
  refine and_congr_right fun hr => ?_
  have := hids r hr.1
  omega

theorem walk_perm_filter (hs : s.Consistent)
    (hids : ∀ r ∈ s.repositories, Text.Numeral.minInt64 ≤ r.id) :
    s.walk.Perm (s.unmined.filter (fun r => r.id ≠ Text.Numeral.minInt64)) := by
  have hunmined : s.unmined.Nodup := hs.repositoryIds.of_map.filter _
  have hwalk : s.walk.Nodup := by
    rw [walk_eq_queueAfter hs]
    exact (queueAfter_ascending hs none).imp fun h he => Int.ne_of_lt h (congrArg _ he)
  refine (List.perm_ext_iff_of_nodup hwalk (hunmined.filter _)).2 fun r => ?_
  rw [mem_walk hs hids, List.mem_filter, decide_eq_true_eq]

def lowest (s : Store) : List Repository :=
  s.unmined.filter (fun r => r.id = Text.Numeral.minInt64)

theorem lowest_eq_nil_iff : s.lowest = [] ↔ ∀ r ∈ s.unmined, r.id ≠ Text.Numeral.minInt64 := by
  simp [lowest, List.filter_eq_nil_iff]

theorem length_lowest_le (hs : s.Consistent) : s.lowest.length ≤ 1 := by
  have hn : s.lowest.Nodup := (hs.repositoryIds.of_map.filter _).filter _
  have hall : ∀ q ∈ s.lowest, ∀ r ∈ s.lowest, q = r := by
    intro q hq r hr
    simp only [lowest, List.mem_filter, decide_eq_true_eq, mem_unmined] at hq hr
    exact hs.repository_unique hq.1.1 hr.1.1 (hq.2.trans hr.2.symm)
  rcases hl : s.lowest with _ | ⟨q, _ | ⟨r, rest⟩⟩
  · simp
  · simp
  · rw [hl] at hn hall
    have hqr : q = r := hall q (by simp) r (by simp)
    simp [hqr] at hn

theorem length_walk (hs : s.Consistent)
    (hids : ∀ r ∈ s.repositories, Text.Numeral.minInt64 ≤ r.id) :
    s.walk.length + s.lowest.length = s.countUnmined := by
  have hsplit := List.length_eq_length_filter_add
    (l := s.unmined) (fun r => decide (r.id = Text.Numeral.minInt64))
  rw [(walk_perm_filter hs hids).length_eq, countUnmined, hsplit, lowest, Nat.add_comm]
  simp

theorem nextUnmined_eq_none_iff (hs : s.Consistent)
    (hids : ∀ r ∈ s.repositories, Text.Numeral.minInt64 ≤ r.id) :
    s.nextUnmined = none ↔ s.countUnmined = s.lowest.length := by
  have hnext : s.nextUnmined = s.walk.head? := by
    rw [walk_eq_queueAfter hs]
    exact nextUnminedAfter_eq_head? hs none
  have hlength := length_walk hs hids
  rw [hnext, List.head?_eq_none_iff, ← List.length_eq_zero_iff]
  omega

/-- The walk meets every waiting repository once and in ascending order, but for one with the least
id; without such a one, its length is the number of the waiting and it is empty if none waits. -/
theorem walk_meets (hs : s.Consistent)
    (hids : ∀ r ∈ s.repositories, Text.Numeral.minInt64 ≤ r.id) :
    s.walk.Pairwise (fun a b => a.id < b.id) ∧
      (∀ r, r ∈ s.walk ↔ r ∈ s.unmined ∧ r.id ≠ Text.Numeral.minInt64) ∧
      s.walk.length + s.lowest.length = s.countUnmined ∧ s.lowest.length ≤ 1 ∧
      (s.lowest = [] ↔ s.walk.Perm s.unmined) ∧
      (s.lowest = [] → (s.nextUnmined = none ↔ s.countUnmined = 0)) := by
  have hlength := length_walk hs hids
  refine ⟨?_, fun r => mem_walk hs hids, hlength, length_lowest_le hs, ?_, fun hnone => ?_⟩
  · rw [walk_eq_queueAfter hs]
    exact queueAfter_ascending hs none
  · constructor
    · intro hnone
      have hall := List.filter_eq_self.2 fun r hr => decide_eq_true (lowest_eq_nil_iff.1 hnone r hr)
      exact hall ▸ walk_perm_filter hs hids
    · intro hperm
      have := hperm.length_eq
      rw [countUnmined] at hlength
      exact List.length_eq_zero_iff.1 (by omega)
  · rw [nextUnmined_eq_none_iff hs hids, hnone, List.length_nil]

def fourFarApart : Store :=
  (blank .none).performAll
    [.insert [⟨9223372036854775807, "z/last", "u1", 5⟩, ⟨-5, "m/five", "u2", 4⟩,
      ⟨Text.Numeral.minInt64 + 1, "a/second", "u3", 3⟩, ⟨0, "n/zero", "u4", 2⟩],
      .mark ⟨-5, 0, 0, .zero, .cloneFailed⟩]

theorem walk_meets_fourFarApart :
    (∀ r ∈ fourFarApart.repositories, Text.Numeral.minInt64 ≤ r.id) ∧
      fourFarApart.walk.Perm fourFarApart.unmined ∧ fourFarApart.walk.length = 3 ∧
      fourFarApart.walk.Pairwise (fun a b => a.id < b.id) := by
  have hs : fourFarApart.Consistent := (Consistent.blank _).performAll _
  have hids : ∀ r ∈ fourFarApart.repositories, Text.Numeral.minInt64 ≤ r.id := by
    decide +kernel
  obtain ⟨hascending, -, hlength, -, hperm, -⟩ := walk_meets hs hids
  have hnone : fourFarApart.lowest = [] := by decide +kernel
  have hcount : fourFarApart.countUnmined = 3 := by decide +kernel
  rw [hnone, hcount] at hlength
  exact ⟨hids, hperm.1 hnone, hlength, hascending⟩

theorem walk_overlooks_least :
    ¬ ∀ (refusals : Refusals) (history : List Operation),
      (∀ r ∈ ((blank refusals).performAll history).repositories,
        Text.Numeral.minInt64 ≤ r.id ∧ r.id ≤ Text.Numeral.maxInt64) →
      (((blank refusals).performAll history).nextUnmined = none ↔
        ((blank refusals).performAll history).countUnmined = 0) := by
  intro h
  have hleast := h .none [.insert [⟨Text.Numeral.minInt64, "a/one", "u1", 5⟩]] (by decide +kernel)
  have hnone : ((blank .none).performAll
      [.insert [⟨Text.Numeral.minInt64, "a/one", "u1", 5⟩]]).nextUnmined = none := by
    decide +kernel
  have hcount : ((blank .none).performAll
      [.insert [⟨Text.Numeral.minInt64, "a/one", "u1", 5⟩]]).countUnmined = 1 := by
    decide +kernel
  rw [hcount] at hleast
  exact absurd (hleast.1 hnone) (by decide)

end CodeSurvey.Store
