import CodeSurvey.Proofs.Mining.Calls
import CodeSurvey.Proofs.Survey.Events
import Mathlib

/-! The life of a marker. -/

namespace CodeSurvey

open Store (Operation)

theorem MarkerRow.saysAnalyzed_iff {row : MarkerRow} {m : Marker} (h : row.marker = .ok m) :
    row.saysAnalyzed = true ↔ m.outcome = .analyzed := by
  unfold MarkerRow.marker at h
  split at h
  · rename_i outcome ho
    cases h
    have htext := Outcome.text_of_ofText? ho
    simp only [MarkerRow.saysAnalyzed, ← htext, beq_iff_eq]
    cases outcome <;> decide
  · cases h

namespace Store

variable {s t : Store} {id : Int} {m : Marker}

theorem marker?_eq_none_iff : s.marker? id = .ok none ↔ s.isMarked id = false := by
  rw [isMarked_eq_isSome]
  unfold marker?
  cases hr : s.markerRow? id with
  | none => simp
  | some row => cases hm : row.marker <;> simp [Except.map, hm]

theorem marker?_eq_some_iff :
    s.marker? id = .ok (some m) ↔ ∃ row, s.markerRow? id = some row ∧ row.marker = .ok m := by
  unfold marker?
  cases hr : s.markerRow? id with
  | none => simp
  | some row => cases hm : row.marker <;> simp [Except.map, hm]

theorem isMarked_of_marker? (h : s.marker? id = .ok (some m)) : s.isMarked id = true := by
  obtain ⟨row, hr, -⟩ := marker?_eq_some_iff.1 h
  simp [isMarked_eq_isSome, hr]

theorem marker?_of_isPrefix (hp : s.markers <+: t.markers) (h : s.marker? id = .ok (some m)) :
    t.marker? id = .ok (some m) := by
  obtain ⟨row, hr, hm⟩ := marker?_eq_some_iff.1 h
  exact marker?_eq_some_iff.2 ⟨row, hp.find?_eq_some hr, hm⟩

theorem markerRow?_eq_some_iff (hs : s.Consistent) {row : MarkerRow} :
    s.markerRow? id = some row ↔ row ∈ s.markers ∧ row.repository = id := by
  constructor
  · intro h
    exact ⟨List.mem_of_find?_eq_some h, by simpa using List.find?_some h⟩
  · rintro ⟨hrow, rfl⟩
    cases hf : s.markerRow? row.repository with
    | none => simpa using List.find?_eq_none.1 hf row hrow
    | some q =>
      have hid : q.repository = row.repository := by simpa using List.find?_some hf
      rw [List.inj_on_of_nodup_map hs.markerIds (List.mem_of_find?_eq_some hf) hrow hid]

structure Marks (s : Store) (m : Marker) : Prop where
  ok_iff : (∃ t, s.mark m = .ok t) ↔
    s.knows m.repository = true ∧ s.marker? m.repository = .ok none ∧ m.elapsed.isNaN = false ∧
      s.refusals.marker m = false
  ok : ∀ t, s.mark m = .ok t →
    t = { s with markers := s.markers ++ [m.row] } ∧
      t.marker? m.repository = .ok (some { m with elapsed := m.elapsed.stored }) ∧
      (∀ id, id ≠ m.repository → t.marker? id = s.marker? id) ∧ s.perform (.mark m) = t
  error : ∀ e, s.mark m = .error e → s.perform (.mark m) = s

theorem marker?_mark_of_ne (h : s.mark m = .ok t) (hid : id ≠ m.repository) :
    t.marker? id = s.marker? id := by
  simp only [marker?, markerRow?_mark_of_ne h hid]

theorem marks (s : Store) (m : Marker) : s.Marks m where
  ok_iff := by
    rw [marker?_eq_none_iff]
    constructor
    · rintro ⟨t, h⟩
      obtain ⟨href, hnan, hu, hk, -⟩ := mark_eq_ok_iff.1 h
      exact ⟨hk, hu, hnan, href⟩
    · rintro ⟨hk, hu, hnan, href⟩
      exact ⟨_, mark_eq_ok_iff.2 ⟨href, hnan, hu, hk, rfl⟩⟩
  ok := by
    intro t h
    exact ⟨(mark_eq_ok_iff.1 h).2.2.2.2, marker?_mark h, fun id hid => marker?_mark_of_ne h hid,
      perform_of_mark h⟩
  error := by
    intro e h
    simp [perform, settled, h, Except.map]

@[simp] theorem Writer.enterAll_markers (w : Writer) (entries : List Entry) :
    (entries.foldl Writer.enter w).draft.markers = w.draft.markers := by
  induction entries generalizing w with
  | nil => rfl
  | cons e entries ih =>
    refine (ih (w.enter e)).trans ?_
    cases e with
    | file repository path =>
      simp only [Writer.enter]
      split
      · rename_i id v h
        exact (ResultsGrow.ensureFile (Writer.ensureFile_ok h)).markers
      · rfl
    | site file site =>
      simp only [Writer.enter]
      split
      · rename_i id v h
        exact (ResultsGrow.recordMatch (Writer.recordMatch_ok h)).markers
      · rfl

theorem insertRepositories_markers {rs : List Repository} {n : Nat}
    (h : s.insertRepositories rs = .ok (n, t)) : t.markers = s.markers := by
  rw [insertRepositories_rest h]

theorem settled_markers {α : Type} {result : Except StoreError (α × Store)}
    (h : ∀ a t, result = .ok (a, t) → s.markers <+: t.markers) :
    s.markers <+: (s.settled result).markers :=
  settled_of (P := fun t => s.markers <+: t.markers) List.prefix_rfl h

theorem perform_markers {o : Operation} (h : o ≠ .resetFailed) :
    s.markers <+: (s.perform o).markers := by
  cases o with
  | insert rs =>
    exact settled_markers (fun n t h => (insertRepositories_markers h) ▸ List.prefix_rfl)
  | mark m =>
    cases hm : s.mark m with
    | error e =>
      have hs : (s.perform (.mark m)).markers = s.markers :=
        congrArg Store.markers ((s.marks m).error e hm)
      exact hs ▸ List.prefix_rfl
    | ok t =>
      rw [perform_of_mark hm, ((s.marks m).ok t hm).1]
      exact List.prefix_append _ _
  | resetFailed => exact absurd rfl h
  | ensureFile repository path =>
    exact settled_markers (fun id t h => (ResultsGrow.ensureFile h).markers ▸ List.prefix_rfl)
  | recordMatch file site =>
    exact settled_markers (fun id t h => (ResultsGrow.recordMatch h).markers ▸ List.prefix_rfl)
  | write entries keep =>
    cases keep with
    | true =>
      have hw := s.writer.enterAll_markers entries
      exact hw ▸ List.prefix_rfl
    | false =>
      have hb : (entries.foldl Writer.enter s.writer).drop = s := s.writer.enterAll_base entries
      have hd : (s.perform (.write entries false)).markers = s.markers := congrArg Store.markers hb
      exact hd ▸ List.prefix_rfl
  | recordReport repository report =>
    exact settled_markers (fun r t h => (ResultsGrow.recordReport h).markers ▸ List.prefix_rfl)

theorem Performs.markers {kind : Operation → Prop} (h : s.Performs kind t)
    (hk : ∀ o, kind o → o ≠ .resetFailed) : s.markers <+: t.markers :=
  h.preserves (P := fun u => s.markers <+: u.markers)
    (fun _ o ho hu => hu.trans (perform_markers (hk o ho))) List.prefix_rfl

theorem undergo_markers {e : Event} (h : e ≠ .operation .resetFailed) :
    s.markers <+: (s.undergo e).markers := by
  cases e with
  | operation o => exact perform_markers (fun ho => h (congrArg Event.operation ho))
  | walk options service started =>
    refine (s.undergo_walk_performs options service started).markers ?_
    rintro o ho rfl
    exact ho
  | mine shop removing memory =>
    refine (s.undergo_mine_performs shop removing memory).markers ?_
    rintro o ho rfl
    exact ho
  | refuse refusals => exact List.prefix_rfl

theorem marker?_resetFailed (hs : s.Consistent) (h : s.marker? id = .ok (some m)) :
    s.resetFailed.2.marker? id = if m.outcome = .analyzed then .ok (some m) else .ok none := by
  obtain ⟨row, hr, hm⟩ := marker?_eq_some_iff.1 h
  obtain ⟨hrow, hid⟩ := (markerRow?_eq_some_iff hs).1 hr
  have hanalyzed := MarkerRow.saysAnalyzed_iff hm
  split
  · rename_i ha
    have hkept : row ∈ s.resetFailed.2.markers := List.mem_filter.2 ⟨hrow, hanalyzed.2 ha⟩
    exact marker?_eq_some_iff.2
      ⟨row, (markerRow?_eq_some_iff hs.resetFailed).2 ⟨hkept, hid⟩, hm⟩
  · rename_i ha
    rw [marker?_eq_none_iff, isMarked_eq_isSome, Option.isSome_eq_false_iff,
      Option.isNone_iff_eq_none, Option.eq_none_iff_forall_ne_some]
    intro q hq
    obtain ⟨hq, he⟩ := (markerRow?_eq_some_iff hs.resetFailed).1 hq
    obtain ⟨hq, hkept⟩ := List.mem_filter.1 hq
    have hsame := (markerRow?_eq_some_iff hs).2 ⟨hq, he⟩
    rw [hr, Option.some.injEq] at hsame
    rw [← hsame] at hkept
    exact ha (hanalyzed.1 hkept)

theorem marker?_undergo (hs : s.Consistent) (h : s.marker? id = .ok (some m)) (e : Event) :
    (s.undergo e).marker? id = .ok (some m) ∨
      e = .operation .resetFailed ∧ m.outcome ≠ .analyzed ∧
        (s.undergo e).marker? id = .ok none := by
  by_cases he : e = .operation .resetFailed
  · subst he
    have hr := marker?_resetFailed hs h
    by_cases ha : m.outcome = .analyzed
    · rw [if_pos ha] at hr
      exact Or.inl hr
    · rw [if_neg ha] at hr
      exact Or.inr ⟨rfl, ha, hr⟩
  · exact Or.inl (marker?_of_isPrefix (undergo_markers he) h)

theorem marker?_undergoAll (hs : s.Consistent) (h : s.marker? id = .ok (some m))
    (ha : m.outcome = .analyzed) (later : List Event) :
    (s.undergoAll later).marker? id = .ok (some m) := by
  induction later generalizing s with
  | nil => exact h
  | cons e later ih =>
    rcases marker?_undergo hs h e with he | ⟨-, hn, -⟩
    · exact ih (hs.undergo e) he
    · exact absurd ha hn

end Store

namespace Mining

variable {σ : Type} {shop : Workshop σ} {removing : Bool} {s : Shift σ}

theorem run_blocks (hs : s.store.Consistent) :
    (run shop removing s).2.calls = s.calls ++
      (visits shop removing (s.store.queueAfter none) s).flatMap
        (fun v => callsFor shop removing v.1 v.2) := by
  have hu : ∀ v ∈ visits shop removing (s.store.queueAfter none) s,
      v.2.store.isMarked v.1.id = false :=
    visits_unmarked (Store.queueAfter_ascending hs none)
      (fun r hr => (Store.mem_queueAfter.1 hr).1.2)
  rw [run_eq_mineAll hs]
  exact mineAll_calls .zero hu

theorem visits_ne_of_isMarked {id : Int} (h : s.store.isMarked id = true) :
    ∀ v ∈ visits shop removing (s.store.queueAfter none) s, v.1.id ≠ id := by
  rintro v hv rfl
  have hfst : (visits shop removing (s.store.queueAfter none) s).map Prod.fst =
      s.store.queueAfter none := map_fst_visits _ _
  have hq : v.1 ∈ s.store.queueAfter none := hfst ▸ List.mem_map_of_mem hv
  have hu := (Store.mem_queueAfter.1 hq).1.2
  simp [h] at hu

theorem id_of_analyze_mem {r : Repository} {path : String} {id : Int}
    (h : Call.analyze path (toString id) ∈ callsFor shop removing r s) : r.id = id := by
  unfold callsFor at h
  rcases List.mem_cons.1 h with h | h
  · cases h
  split at h
  · cases h
  rcases List.mem_cons.1 h with h | h
  · exact (Int.repr_inj.1 (Call.analyze.inj h).2).symm
  · split at h
    · simp at h
    · cases h

structure Spares (shop : Workshop σ) (removing : Bool) (id : Int) (s : Shift σ) : Prop where
  calls : (run shop removing s).2.calls = s.calls ++
    (visits shop removing (s.store.queueAfter none) s).flatMap
      (fun v => callsFor shop removing v.1 v.2)
  visited : ∀ v ∈ visits shop removing (s.store.queueAfter none) s, v.1.id ≠ id
  analyzed : ∀ path, .analyze path (toString id) ∈ (run shop removing s).2.calls →
    .analyze path (toString id) ∈ s.calls

theorem spares (hs : s.store.Consistent) {id : Int} (h : s.store.isMarked id = true) :
    Spares shop removing id s where
  calls := run_blocks hs
  visited := visits_ne_of_isMarked h
  analyzed := by
    intro path hp
    rw [run_blocks hs] at hp
    rcases List.mem_append.1 hp with hp | hp
    · exact hp
    · obtain ⟨v, hv, hc⟩ := List.mem_flatMap.1 hp
      exact absurd (id_of_analyze_mem hc) (visits_ne_of_isMarked h v hv)

end Mining

theorem Store.undergoAll_markers (refusals : Refusals) (past : List Event) :
    let s := (blank refusals).undergoAll past
    (∀ m, s.Marks m) ∧
      (∀ id m e, s.marker? id = .ok (some m) →
        (s.undergo e).marker? id = .ok (some m) ∨
          e = .operation .resetFailed ∧ m.outcome ≠ .analyzed ∧
            (s.undergo e).marker? id = .ok none) ∧
      ∀ id m, s.marker? id = .ok (some m) → m.outcome = .analyzed → ∀ later : List Event,
        (s.undergoAll later).marker? id = .ok (some m) ∧
          ∀ (σ : Type) (shop : Mining.Workshop σ) (removing : Bool) (memory : σ)
            (calls : List Mining.Call),
            Mining.Spares shop removing id ⟨s.undergoAll later, memory, calls⟩ := by
  intro s
  have hs : s.Consistent := (Consistent.blank refusals).undergoAll past
  refine ⟨s.marks, fun id m e h => marker?_undergo hs h e, ?_⟩
  intro id m h ha later
  have hkept := marker?_undergoAll hs h ha later
  refine ⟨hkept, fun σ shop removing memory calls => ?_⟩
  exact Mining.spares (hs.undergoAll later) (isMarked_of_marker? hkept)

namespace Store

def minedOnce : List Event :=
  [.walk ⟨"c", 3, 10, 2, .zero, 0⟩
      ⟨[.response ⟨200, .silent, some [⟨9, "b/nine", "u9", 50⟩, ⟨7, "a/seven", "u7", 20⟩]⟩],
        .failing (.search "timeout")⟩ ⟨0⟩,
    .mine Mining.withoutNine true 0]

def minedAgain : List Event :=
  [.operation .resetFailed, .operation (.mark ⟨7, 0, 0, .zero, .cloneFailed⟩),
    .mine Mining.withoutNine true 0]

theorem undergoAll_markers_minedOnce :
    let s := (blank .none).undergoAll minedOnce
    s.marker? 7 = .ok (some ⟨7, 0, 0, .zero, .analyzed⟩) ∧
      s.marker? 9 = .ok (some ⟨9, 0, 0, .zero, .cloneFailed⟩) ∧
      (s.undergo (.operation .resetFailed)).marker? 9 = .ok none ∧
      (s.undergoAll minedAgain).marker? 7 = .ok (some ⟨7, 0, 0, .zero, .analyzed⟩) ∧
      Mining.Spares Mining.withoutNine true 7 ⟨s.undergoAll minedAgain, 0, []⟩ := by
  intro s
  have h := undergoAll_markers .none minedOnce
  have hseven : s.marker? 7 = .ok (some ⟨7, 0, 0, .zero, .analyzed⟩) := by decide +kernel
  have hkept := h.2.2 7 _ hseven rfl minedAgain
  refine ⟨hseven, by decide +kernel, by decide +kernel, hkept.1, hkept.2 _ _ _ _ _⟩

end Store

end CodeSurvey
