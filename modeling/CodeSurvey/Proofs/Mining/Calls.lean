import CodeSurvey.Proofs.Mining.Pass
import CodeSurvey.Proofs.Store.History

/-! What a mining run asks of its workshop, and in which order. -/

namespace CodeSurvey.Mining

variable {σ : Type} (shop : Workshop σ)

def mineThenRemove (r : Repository) (s : Shift σ) : Ending × Shift σ :=
  let mined := mineOne shop false r s
  match (shop.obtain r.cloneUrl r.name s.memory).1 with
  | .error _ => mined
  | .ok copy =>
    if mined.2.store.isMarked r.id then (mined.1, mined.2.remove shop copy) else mined

def callsFor (removing : Bool) (r : Repository) (s : Shift σ) : List Call :=
  .clone r.cloneUrl r.name ::
    match (shop.obtain r.cloneUrl r.name s.memory).1 with
    | .error _ => []
    | .ok copy =>
      .analyze copy.path (toString r.id) ::
        if removing ∧ (mineOne shop false r s).2.store.isMarked r.id = true then
          [.remove copy.path]
        else []

variable {shop} {r : Repository} {s : Shift σ}

theorem conclude_true (marker : Marker) {newMatches : Nat} {stage : Stage} {copy : WorkingCopy}
    {t : Shift σ} (hu : t.store.isMarked marker.repository = false) :
    conclude shop true (.ready marker newMatches stage (some copy), t) =
      let mined := conclude shop false (.ready marker newMatches stage (some copy), t)
      if mined.2.store.isMarked marker.repository then (mined.1, mined.2.remove shop copy)
      else mined := by
  cases hm : t.store.mark marker with
  | error e => simp [conclude, Shift.mark, hm, hu]
  | ok store => simp [conclude, Shift.mark, hm, Store.isMarked_of_mark hm]

theorem mineOne_true (hu : s.store.isMarked r.id = false) :
    mineOne shop true r s = mineThenRemove shop r s := by
  simp only [mineThenRemove, mineOne_eq]
  have hp := prepares shop r s
  have hu' : (prepare shop r s).2.store.isMarked r.id = false := by
    rw [hp.grows.isMarked, hu]
  generalize prepare shop r s = p at hp hu'
  cases hp with
  | uncloned ho =>
    simp only [ho, conclude, Shift.mark]
  | unanalyzed ho ha =>
    simp only [ho]
    exact conclude_true _ hu'
  | stuck ho ha hr => simp [ho, conclude, hu]
  | interned ho ha hr =>
    simp only [ho]
    exact conclude_true (markerOf r _) hu'

theorem mineOne_calls (removing : Bool) (hu : s.store.isMarked r.id = false) :
    (mineOne shop removing r s).2.calls = s.calls ++ callsFor shop removing r s := by
  have hfalse : (mineOne shop false r s).2.calls = s.calls ++ callsFor shop false r s := by
    have hp := prepares shop r s
    have hc := concludes shop false (prepare shop r s)
    rw [mineOne_eq]
    have hcalls : (conclude shop false (prepare shop r s)).2.calls =
        (prepare shop r s).2.calls := by
      generalize conclude shop false (prepare shop r s) = d at hc
      cases hc with
      | stuck hp => rfl
      | refused hp hm => rfl
      | kept hp hm hc => rfl
      | removed hp hm hr => cases hr
    rw [hcalls]
    generalize prepare shop r s = p at hp
    cases hp with
    | uncloned ho => simp [callsFor, ho]
    | unanalyzed ho ha => simp [callsFor, ho]
    | stuck ho ha hr => simp [callsFor, ho]
    | interned ho ha hr => simp [callsFor, ho]
  cases removing with
  | false => exact hfalse
  | true =>
    rw [mineOne_true hu]
    simp only [mineThenRemove, callsFor] at hfalse ⊢
    cases ho : (shop.obtain r.cloneUrl r.name s.memory).1 with
    | error e => simpa [ho] using hfalse
    | ok copy =>
      cases hm : (mineOne shop false r s).2.store.isMarked r.id with
      | false => simpa [ho, hm] using hfalse
      | true =>
        simp only [ho, hm] at hfalse ⊢
        simp [Shift.remove, hfalse]

variable {removing : Bool}

theorem mineAll_calls {rs : List Repository} (summary : Summary)
    (hu : ∀ v ∈ visits shop removing rs s, v.2.store.isMarked v.1.id = false) :
    (mineAll shop removing rs summary s).2.calls =
      s.calls ++ (visits shop removing rs s).flatMap (fun v => callsFor shop removing v.1 v.2) := by
  induction rs generalizing summary s with
  | nil => simp [mineAll, visits]
  | cons r rs ih =>
    have hr : s.store.isMarked r.id = false := hu (r, s) List.mem_cons_self
    have hrs := ih (summary.record (mineOne shop removing r s).1)
      (fun v hv => hu v (List.mem_cons_of_mem _ hv))
    simp only [mineAll, visits, List.flatMap_cons]
    rw [hrs, mineOne_calls removing hr, List.append_assoc]

theorem run_calls (shop : Workshop σ) (removing : Bool) (s : Shift σ)
    (hs : s.store.Consistent)
    (hid : ∀ r ∈ s.store.repositories, Text.Numeral.minInt64 < r.id) :
    let visited := visits shop removing (s.store.queueAfter none) s
    (visited.map Prod.fst).Perm s.store.unmined ∧
      (visited.map Prod.fst).Pairwise (fun a b => a.id < b.id) ∧
      (run shop removing s).2.calls =
        s.calls ++ visited.flatMap (fun v => callsFor shop removing v.1 v.2) ∧
      (∀ v ∈ visited, mineOne shop true v.1 v.2 = mineThenRemove shop v.1 v.2) ∧
      (run shop removing s).1.processed = s.store.countUnmined := by
  intro visited
  have ha := Store.queueAfter_ascending hs none
  have hperm := Store.queueAfter_none_perm hid
  have hu : ∀ v ∈ visited, v.2.store.isMarked v.1.id = false :=
    visits_unmarked ha (fun r hr => (Store.mem_queueAfter.1 hr).1.2)
  have hfst : visited.map Prod.fst = s.store.queueAfter none := map_fst_visits _ _
  refine ⟨?_, ?_, ?_, fun v hv => mineOne_true (hu v hv), ?_⟩
  · rw [hfst]
    exact hperm
  · rw [hfst]
    exact ha
  · rw [run_eq_mineAll hs]
    exact mineAll_calls .zero hu
  · rw [run_eq_mineAll hs, mineAll_processed, hperm.length_eq]
    exact Nat.zero_add _

def fourQueued : Store :=
  (Store.blank ⟨fun _ => false, fun m => m.repository == 8, .refused⟩).performAll
    [.insert [⟨9, "b/nine", "u9", 50⟩, ⟨8, "b/eight", "u8", 40⟩, ⟨5, "a/five", "u5", 30⟩,
      ⟨7, "a/seven", "u7", 20⟩], .mark ⟨5, 1, 0, .zero, .analyzed⟩]

def withoutNine : Workshop Nat where
  obtain := fun _ name n =>
    if name = "b/nine" then (.error (.clone name "not found"), n) else (.ok ⟨name, false⟩, n + 1)
  analyze := fun _ _ n => (.ok ⟨[], ⟨0, 0⟩, .zero, some 0⟩, n)
  remove := fun _ n => (.ok (), n - 1)

theorem fourQueued_consistent : fourQueued.Consistent :=
  (Store.Consistent.blank _).performAll _

theorem run_calls_fourQueued :
    (∀ r ∈ fourQueued.repositories, Text.Numeral.minInt64 < r.id) ∧
      (run withoutNine true ⟨fourQueued, 0, []⟩).2.calls =
        [.clone "u7" "a/seven", .analyze "a/seven" "7", .remove "a/seven",
          .clone "u8" "b/eight", .analyze "b/eight" "8", .clone "u9" "b/nine"] := by
  have hid : ∀ r ∈ fourQueued.repositories, Text.Numeral.minInt64 < r.id := by decide
  have h := run_calls withoutNine true ⟨fourQueued, 0, []⟩ fourQueued_consistent hid
  refine ⟨hid, h.2.2.1.trans ?_⟩
  decide +kernel

end CodeSurvey.Mining
