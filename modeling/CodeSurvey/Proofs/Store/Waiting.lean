import CodeSurvey.Proofs.Store.Consistency
import Mathlib.Data.List.Sort

/-! The queue as a list. -/

namespace CodeSurvey.Store

def queueAfter (s : Store) (after : Option Int) : List Repository :=
  (s.unmined.filter (fun r => after.getD Text.Numeral.minInt64 < r.id)).insertionSort
    (fun a b => a.id ≤ b.id)

variable {s t : Store} {after : Option Int}

@[simp, grind =] theorem mem_unmined {r : Repository} :
    r ∈ s.unmined ↔ r ∈ s.repositories ∧ s.isMarked r.id = false := by
  simp [unmined]

@[simp, grind =] theorem mem_queueAfter {r : Repository} :
    r ∈ s.queueAfter after ↔
      (r ∈ s.repositories ∧ s.isMarked r.id = false) ∧
        after.getD Text.Numeral.minInt64 < r.id := by
  simp [queueAfter]

theorem knows_of_mem_queueAfter {r : Repository} (hr : r ∈ s.queueAfter after) :
    s.knows r.id = true :=
  knows_iff.2 ⟨r, (mem_queueAfter.1 hr).1.1, rfl⟩

theorem isMarked_of_mark {m : Marker} (h : s.mark m = .ok t) :
    t.isMarked m.repository = true := by
  rw [(mark_eq_ok_iff.1 h).2.2.2.2]
  simp [isMarked, Marker.row]

theorem Consistent.repository_unique (hs : s.Consistent) {q r : Repository}
    (hq : q ∈ s.repositories) (hr : r ∈ s.repositories) (h : q.id = r.id) : q = r :=
  List.inj_on_of_nodup_map hs.repositoryIds hq hr h

theorem queueAfter_ascending (hs : s.Consistent) (after : Option Int) :
    (s.queueAfter after).Pairwise (fun a b => a.id < b.id) := by
  have : Std.Total (fun a b : Repository => a.id ≤ b.id) := ⟨fun a b => by omega⟩
  have : IsTrans Repository (fun a b => a.id ≤ b.id) := ⟨fun a b c hab hbc => by omega⟩
  have hle := List.pairwise_insertionSort (fun a b : Repository => a.id ≤ b.id)
    (s.unmined.filter (fun r => after.getD Text.Numeral.minInt64 < r.id))
  have hn : (s.queueAfter after).Nodup := by
    have hr : s.repositories.Nodup := hs.repositoryIds.of_map
    exact (List.perm_insertionSort _ _).nodup_iff.2 ((hr.filter _).filter _)
  refine (List.Pairwise.and hle hn).imp_of_mem ?_
  intro a b ha hb h
  have hab : a.id ≠ b.id := fun he =>
    h.2 (hs.repository_unique (mem_queueAfter.1 ha).1.1 (mem_queueAfter.1 hb).1.1 he)
  have := h.1
  omega

theorem eq_of_ascending {p q : List Repository} (hp : p.Pairwise (fun a b => a.id < b.id))
    (hq : q.Pairwise (fun a b => a.id < b.id)) (h : ∀ r, r ∈ p ↔ r ∈ q) : p = q := by
  have : Std.Asymm (fun a b : Repository => a.id < b.id) := ⟨fun a b hab => by omega⟩
  have : Std.Irrefl (fun a b : Repository => a.id < b.id) := ⟨fun a => by omega⟩
  exact hp.eq_of_mem_iff hq h

theorem nextUnminedAfter_eq_head? (hs : s.Consistent) (after : Option Int) :
    s.nextUnminedAfter after = (s.queueAfter after).head? := by
  have hmem : ∀ r, r ∈ s.unmined.filter (fun r => after.getD Text.Numeral.minInt64 < r.id) ↔
      r ∈ s.queueAfter after := by
    intro r
    simp [queueAfter]
  have ha := queueAfter_ascending hs after
  unfold nextUnminedAfter
  cases hl : leastId (s.unmined.filter (fun r => after.getD Text.Numeral.minInt64 < r.id)) with
  | none =>
    have he := leastId_eq_none_iff.1 hl
    cases hq : s.queueAfter after with
    | nil => rfl
    | cons r rs =>
      have hr := (hmem r).2 (by simp [hq])
      simp [he] at hr
  | some m =>
    have hm := (hmem m).1 (leastId_mem hl)
    cases hq : s.queueAfter after with
    | nil => simp [hq] at hm
    | cons r rs =>
      have hle := leastId_le hl r ((hmem r).2 (by simp [hq]))
      rw [hq] at hm ha
      rcases List.mem_cons.1 hm with rfl | hm
      · rfl
      · have := (List.pairwise_cons.1 ha).1 m hm
        omega

theorem queueAfter_head (hs : s.Consistent) (ht : t.Consistent) {r : Repository}
    {rs : List Repository} (hq : s.queueAfter after = r :: rs)
    (hr : t.repositories = s.repositories)
    (hm : ∀ id, id ≠ r.id → t.isMarked id = s.isMarked id) : t.queueAfter (some r.id) = rs := by
  have ha := queueAfter_ascending hs after
  rw [hq] at ha
  obtain ⟨hlt, hrs⟩ := List.pairwise_cons.1 ha
  have hin : r ∈ s.queueAfter after := by simp [hq]
  apply eq_of_ascending (queueAfter_ascending ht _) hrs
  intro q
  rw [mem_queueAfter, hr, Option.getD_some]
  constructor
  · rintro ⟨⟨hq', hn⟩, hid⟩
    rw [hm q.id (by omega)] at hn
    have hmem : q ∈ s.queueAfter after :=
      mem_queueAfter.2 ⟨⟨hq', hn⟩, by have := (mem_queueAfter.1 hin).2; omega⟩
    rw [hq] at hmem
    rcases List.mem_cons.1 hmem with rfl | hmem
    · omega
    · exact hmem
  · intro hmem
    have hid := hlt q hmem
    have hq' : q ∈ s.queueAfter after := by simp [hq, hmem]
    obtain ⟨⟨hrep, hn⟩, -⟩ := mem_queueAfter.1 hq'
    exact ⟨⟨hrep, by rw [hm q.id (by omega)]; exact hn⟩, hid⟩

theorem queueAfter_none_perm (h : ∀ r ∈ s.repositories, Text.Numeral.minInt64 < r.id) :
    (s.queueAfter none).Perm s.unmined := by
  have hall : s.unmined.filter
      (fun r => (none : Option Int).getD Text.Numeral.minInt64 < r.id) = s.unmined := by
    rw [List.filter_eq_self]
    intro r hr
    exact decide_eq_true (h r (mem_unmined.1 hr).1)
  have hp := List.perm_insertionSort (fun a b : Repository => a.id ≤ b.id) s.unmined
  simpa only [queueAfter, hall] using hp

end CodeSurvey.Store
