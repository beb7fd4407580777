import CodeSurvey.Proofs.Survey.Markers

/-! Clearing the markers of a store whose outcome texts may be anything. -/

namespace CodeSurvey

inductive Incident : Type 1 where
  | event (e : Event)
  | overwrite (repository : Int) (text : String)

theorem Outcome.ofText?_eq_some_iff {text : String} {o : Outcome} :
    ofText? text = some o ↔ text = o.text := by
  constructor
  · intro h
    exact (text_of_ofText? h).symm
  · rintro rfl
    exact ofText?_text o

theorem MarkerRow.saysAnalyzed_eq (row : MarkerRow) :
    row.saysAnalyzed = decide (Outcome.ofText? row.outcome = some .analyzed) := by
  rw [Bool.eq_iff_iff, decide_eq_true_iff, Outcome.ofText?_eq_some_iff, saysAnalyzed, beq_iff_eq]

theorem MarkerRow.marker_of_saysAnalyzed {row : MarkerRow} (h : row.saysAnalyzed = true) :
    ∃ m, row.marker = .ok m ∧ m.outcome = .analyzed := by
  rw [saysAnalyzed_eq, decide_eq_true_iff] at h
  exact ⟨⟨row.repository, row.successes, row.errors, row.elapsed, .analyzed⟩,
    by simp only [marker, h], rfl⟩

namespace Store

def suffer (s : Store) : Incident → Store
  | .event e => s.undergo e
  | .overwrite repository text => (s.overwriteOutcome repository text).2

def sufferAll (s : Store) (incidents : List Incident) : Store :=
  incidents.foldl suffer s

variable {s : Store}

@[simp] theorem map_repository_overwriteOutcome (s : Store) (repository : Int) (text : String) :
    (s.overwriteOutcome repository text).2.markers.map MarkerRow.repository =
      s.markers.map MarkerRow.repository := by
  simp only [overwriteOutcome, List.map_map]
  refine List.map_congr_left fun row _ => ?_
  simp only [Function.comp_apply]
  split <;> rfl

theorem Consistent.overwriteOutcome (hs : s.Consistent) (repository : Int) (text : String) :
    (s.overwriteOutcome repository text).2.Consistent := by
  have hids := s.map_repository_overwriteOutcome repository text
  exact { hs with
    markerIds := by
      rw [hids]
      exact hs.markerIds
    markersKnown := by
      intro m hm
      have hmem := List.mem_map_of_mem (f := MarkerRow.repository) hm
      rw [hids] at hmem
      obtain ⟨row, hrow, hid⟩ := List.mem_map.1 hmem
      exact hid ▸ hs.markersKnown row hrow }

theorem Consistent.suffer (hs : s.Consistent) (i : Incident) : (s.suffer i).Consistent := by
  cases i with
  | event e => exact hs.undergo e
  | overwrite repository text => exact hs.overwriteOutcome repository text

theorem Consistent.sufferAll (hs : s.Consistent) (incidents : List Incident) :
    (s.sufferAll incidents).Consistent := by
  induction incidents generalizing s with
  | nil => exact hs
  | cons i incidents ih => exact ih (hs.suffer i)

theorem length_resetFailed (s : Store) :
    s.markers.length = s.resetFailed.2.markers.length + s.resetFailed.1 := by
  simp only [resetFailed, ← List.countP_eq_length_filter]
  simpa using List.length_eq_countP_add_countP MarkerRow.saysAnalyzed

theorem saysAnalyzed_of_mem_resetFailed {row : MarkerRow} (h : row ∈ s.resetFailed.2.markers) :
    row.saysAnalyzed = true :=
  (List.mem_filter.1 h).2

theorem countUnmined_resetFailed (hs : s.Consistent) :
    s.resetFailed.2.countUnmined = s.countUnmined + s.resetFailed.1 := by
  have hbefore := hs.length_repositories
  have hafter := hs.resetFailed.length_repositories
  have hrows := s.length_resetFailed
  have hrepositories : s.resetFailed.2.repositories = s.repositories := rfl
  rw [hrepositories] at hafter
  omega

@[simp] theorem resetFailed_resetFailed (s : Store) :
    s.resetFailed.2.resetFailed = (0, s.resetFailed.2) := by
  have hcount : s.resetFailed.2.resetFailed.1 = 0 := by
    refine List.countP_eq_zero.2 fun row hrow => ?_
    simp [saysAnalyzed_of_mem_resetFailed hrow]
  have hrows : s.resetFailed.2.resetFailed.2 = s.resetFailed.2 := by
    simp only [resetFailed, List.filter_filter, Bool.and_self]
  exact Prod.ext hcount hrows

theorem marker?_of_resetFailed (s : Store) (id : Int) :
    s.resetFailed.2.marker? id = .ok none ∨
      ∃ m, s.resetFailed.2.marker? id = .ok (some m) ∧ m.outcome = .analyzed := by
  cases hrow : s.resetFailed.2.markerRow? id with
  | none => exact Or.inl (by simp only [marker?, hrow])
  | some row =>
    have hmem := List.mem_of_find?_eq_some hrow
    obtain ⟨m, hm, ho⟩ := MarkerRow.marker_of_saysAnalyzed (saysAnalyzed_of_mem_resetFailed hmem)
    exact Or.inr ⟨m, by simp only [marker?, hrow, hm, Except.map], ho⟩

theorem isMarked_resetFailed_iff {id : Int} :
    s.resetFailed.2.isMarked id = true ↔
      ∃ row ∈ s.markers, row.repository = id ∧ row.saysAnalyzed = true := by
  rw [isMarked_iff]
  constructor
  · rintro ⟨row, hrow, hid⟩
    obtain ⟨hrow, hsays⟩ := List.mem_filter.1 hrow
    exact ⟨row, hrow, hid, hsays⟩
  · rintro ⟨row, hrow, hid, hsays⟩
    exact ⟨row, List.mem_filter.2 ⟨hrow, hsays⟩, hid⟩

theorem unmined_sublist_resetFailed (s : Store) :
    s.unmined.Sublist s.resetFailed.2.unmined := by
  refine List.monotone_filter_right _ fun r hr => ?_
  rw [Bool.not_eq_true', ← Bool.not_eq_true] at hr ⊢
  rw [isMarked_resetFailed_iff]
  rintro ⟨row, hrow, hid, -⟩
  exact hr (isMarked_iff.2 ⟨row, hrow, hid⟩)

theorem mem_unmined_resetFailed_iff (hs : s.Consistent) {r : Repository} :
    r ∈ s.resetFailed.2.unmined ∧ r ∉ s.unmined ↔
      r ∈ s.repositories ∧ ∃ row ∈ s.markers, row.repository = r.id ∧ row.saysAnalyzed = false := by
  have hrepositories : s.resetFailed.2.repositories = s.repositories := rfl
  rw [mem_unmined, mem_unmined, hrepositories]
  constructor
  · rintro ⟨⟨hr, hfree⟩, hmarked⟩
    have hwas : s.isMarked r.id = true := by
      simpa [hr] using hmarked
    obtain ⟨row, hrow, hid⟩ := isMarked_iff.1 hwas
    refine ⟨hr, row, hrow, hid, ?_⟩
    by_contra hsays
    have hstill := isMarked_resetFailed_iff.2 ⟨row, hrow, hid, by simpa using hsays⟩
    simp [hfree] at hstill
  · rintro ⟨hr, row, hrow, hid, hsays⟩
    have hwas : s.isMarked r.id = true := isMarked_iff.2 ⟨row, hrow, hid⟩
    refine ⟨⟨hr, ?_⟩, by simp [hwas]⟩
    rw [← Bool.not_eq_true, isMarked_resetFailed_iff]
    rintro ⟨q, hq, hqid, hqsays⟩
    have hsame : q = row :=
      List.inj_on_of_nodup_map hs.markerIds hq hrow (hqid.trans hid.symm)
    rw [hsame, hsays] at hqsays
    cases hqsays

structure Resets (s : Store) : Prop where
  counted : s.statistics.failed =
    s.markers.countP (fun row => Outcome.ofText? row.outcome ≠ some .analyzed)
  told : s.resetFailed.1 = s.statistics.failed
  failed : s.resetFailed.2.statistics.failed = 0
  mined : s.statistics.mined = s.resetFailed.2.statistics.mined + s.resetFailed.1
  pending : s.resetFailed.2.statistics.pending = s.statistics.pending + s.resetFailed.1
  kept : s.resetFailed.2.markers =
    s.markers.filter (fun row => Outcome.ofText? row.outcome = some .analyzed)
  rest : s.resetFailed.2 = { s with markers := s.resetFailed.2.markers }
  readable : ∀ id, s.resetFailed.2.marker? id = .ok none ∨
    ∃ m, s.resetFailed.2.marker? id = .ok (some m) ∧ m.outcome = .analyzed
  again : s.resetFailed.2.resetFailed = (0, s.resetFailed.2)
  waiting : s.unmined.Sublist s.resetFailed.2.unmined
  requeued : ∀ r, r ∈ s.resetFailed.2.unmined ∧ r ∉ s.unmined ↔
    r ∈ s.repositories ∧ ∃ row ∈ s.markers, row.repository = r.id ∧
      Outcome.ofText? row.outcome ≠ some .analyzed

theorem Consistent.resets (hs : s.Consistent) : s.Resets where
  counted := List.countP_congr fun row _ => by simp [row.saysAnalyzed_eq]
  told := rfl
  failed := congrArg Prod.fst s.resetFailed_resetFailed
  mined := s.length_resetFailed
  pending := countUnmined_resetFailed hs
  kept := List.filter_congr fun row _ => row.saysAnalyzed_eq
  rest := rfl
  readable := s.marker?_of_resetFailed
  again := s.resetFailed_resetFailed
  waiting := s.unmined_sublist_resetFailed
  requeued := by
    intro r
    rw [mem_unmined_resetFailed_iff hs]
    simp only [MarkerRow.saysAnalyzed_eq, decide_eq_false_iff_not, ne_eq]

theorem sufferAll_resets (refusals : Refusals) (incidents : List Incident) :
    ((blank refusals).sufferAll incidents).Resets :=
  ((Consistent.blank refusals).sufferAll incidents).resets

example :
    let s := (blank .none).sufferAll
      [.event (.operation (.insert [⟨1, "a/one", "u1", 5⟩, ⟨2, "b/two", "u2", 4⟩])),
        .event (.operation (.mark ⟨1, 3, 0, .zero, .analyzed⟩)),
        .event (.operation (.mark ⟨2, 0, 0, .zero, .cloneFailed⟩)), .overwrite 2 "Analyzed "]
    s.marker? 2 = .error (.unreadableOutcome "Analyzed ") ∧ s.resetFailed.1 = 1 ∧
      s.resetFailed.2.marker? 2 = .ok none ∧
      s.resetFailed.2.marker? 1 = .ok (some ⟨1, 3, 0, .zero, .analyzed⟩) := by
  decide +kernel

end Store

end CodeSurvey
