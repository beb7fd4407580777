import CodeSurvey.Mining.Run
import CodeSurvey.Proofs.Mining.Stages
import CodeSurvey.Proofs.Store.Waiting

/-! A mining run is one pass over the queue as it stood at the start. -/

namespace CodeSurvey.Mining

variable {σ : Type} (shop : Workshop σ) (removing : Bool)

def mineAll : List Repository → Summary → Shift σ → Summary × Shift σ
  | [], summary, s => (summary, s)
  | r :: rs, summary, s =>
    let mined := mineOne shop removing r s
    mineAll rs (summary.record mined.1) mined.2

def visits : List Repository → Shift σ → List (Repository × Shift σ)
  | [], _ => []
  | r :: rs, s => (r, s) :: visits rs (mineOne shop removing r s).2

variable {shop removing} {s : Shift σ}

theorem runAfter_eq_mineAll {after : Option Int} {summary : Summary} (hs : s.store.Consistent) :
    runAfter shop removing after summary s =
      mineAll shop removing (s.store.queueAfter after) summary s := by
  generalize hq : s.store.queueAfter after = q
  have hnext := Store.nextUnminedAfter_eq_head? hs after
  rw [hq] at hnext
  induction q generalizing after summary s with
  | nil =>
    rw [runAfter]
    split
    · rfl
    · rename_i r hr
      rw [hnext] at hr
      cases hr
  | cons r rs ih =>
    rw [runAfter]
    split
    · rename_i hr
      rw [hnext] at hr
      cases hr
    rename_i r' hr
    rw [hnext] at hr
    cases hr
    have hc := mineOne_consistent shop removing r hs
    have htail := Store.queueAfter_head hs hc hq (mineOne_repositories shop removing r s)
      (fun id hid => mineOne_isMarked shop removing s hid)
    have hnext' := Store.nextUnminedAfter_eq_head? hc (some r.id)
    rw [htail] at hnext'
    exact ih hc htail hnext'

theorem run_eq_mineAll (hs : s.store.Consistent) :
    run shop removing s = mineAll shop removing (s.store.queueAfter none) .zero s :=
  runAfter_eq_mineAll hs

@[simp] theorem map_fst_visits (rs : List Repository) (s : Shift σ) :
    (visits shop removing rs s).map Prod.fst = rs := by
  induction rs generalizing s with
  | nil => rfl
  | cons r rs ih => simp [visits, ih]

theorem visits_unmarked {rs : List Repository} (ha : rs.Pairwise (fun a b => a.id < b.id))
    (hu : ∀ r ∈ rs, s.store.isMarked r.id = false) :
    ∀ v ∈ visits shop removing rs s, v.2.store.isMarked v.1.id = false := by
  induction rs generalizing s with
  | nil => simp [visits]
  | cons r rs ih =>
    obtain ⟨hlt, ha⟩ := List.pairwise_cons.1 ha
    intro v hv
    rcases List.mem_cons.1 hv with rfl | hv
    · exact hu _ List.mem_cons_self
    refine ih ha ?_ v hv
    intro q hq
    have hne : q.id ≠ r.id := by
      have := hlt q hq
      omega
    rw [mineOne_isMarked shop removing s hne]
    exact hu q (List.mem_cons_of_mem _ hq)

@[simp] theorem Summary.record_processed (summary : Summary) (e : Ending) :
    (summary.record e).processed = summary.processed + 1 := by
  cases e with
  | unmarked stage reason => rfl
  | marked marker newMatches =>
    simp only [Summary.record]
    cases marker.outcome <;> rfl

@[simp] theorem mineAll_processed (rs : List Repository) (summary : Summary) (s : Shift σ) :
    (mineAll shop removing rs summary s).1.processed = summary.processed + rs.length := by
  induction rs generalizing summary s with
  | nil => rfl
  | cons r rs ih =>
    simp [mineAll, ih]
    omega

end CodeSurvey.Mining
