import CodeSurvey.Proofs.Store.Tally
import CodeSurvey.Proofs.Store.Waiting

/-! What a store holds of one repository. -/

namespace CodeSurvey

@[ext]
structure Dossier where
  repository : Option Repository
  marker : Option MarkerRow
  findings : Set Finding

namespace Store

def dossier (s : Store) (id : Int) : Dossier :=
  ⟨s.repository? id, s.markerRow? id, {f | (id, f) ∈ s.recorded}⟩

variable {s t : Store} {id : Int}

theorem dossier_repository (hs : s.Consistent) {r : Repository} :
    (s.dossier r.id).repository = some r ↔ r ∈ s.repositories := by
  constructor
  · intro h
    exact List.mem_of_find?_eq_some h
  · intro hr
    cases hf : (s.dossier r.id).repository with
    | none => simpa using List.find?_eq_none.1 hf r hr
    | some q =>
      have hid : q.id = r.id := by simpa using List.find?_some hf
      rw [hs.repository_unique (List.mem_of_find?_eq_some hf) hr hid]

theorem dossier_marker_eq_none : (s.dossier id).marker = none ↔ s.isMarked id = false := by
  rw [isMarked_eq_isSome, Option.isSome_eq_false_iff, Option.isNone_iff_eq_none]
  exact Iff.rfl

theorem dossier_findings_eq_empty (h : ∀ f ∈ s.files, f.repository ≠ id) :
    (s.dossier id).findings = ∅ := by
  refine Set.eq_empty_of_forall_notMem fun f hf => ?_
  obtain ⟨file, hfile, hkey, -⟩ := mem_recorded.1 hf
  exact h file hfile (congrArg Prod.fst hkey)

theorem dossier_mark {m : Marker} (h : s.mark m = .ok t) :
    t.dossier m.repository = { s.dossier m.repository with marker := some m.row } := by
  have hmarker := markerRow?_mark h
  obtain ⟨-, -, -, -, rfl⟩ := mark_eq_ok_iff.1 h
  exact Dossier.ext rfl hmarker rfl

theorem dossier_mark_of_ne {m : Marker} (h : s.mark m = .ok t) (hid : id ≠ m.repository) :
    t.dossier id = s.dossier id := by
  have hmarker := markerRow?_mark_of_ne h hid
  obtain ⟨-, -, -, -, rfl⟩ := mark_eq_ok_iff.1 h
  exact Dossier.ext rfl hmarker rfl

theorem ResultsGrow.dossier {repository : Int} {fs : List Finding} (h : s.ResultsGrow t)
    (hrec : t.recorded = s.recorded ∪ attributed repository fs) (id : Int) :
    t.dossier id = { s.dossier id with
      findings := (s.dossier id).findings ∪ {f | (id, f) ∈ attributed repository fs} } := by
  have hrepository : t.repository? id = s.repository? id := by
    simp only [repository?, h.repositories]
  have hmarker : t.markerRow? id = s.markerRow? id := by
    simp only [markerRow?, h.markers]
  refine Dossier.ext hrepository hmarker ?_
  ext f
  simp only [Store.dossier, hrec, Set.mem_union, Set.mem_ofPred_eq]

theorem recorded_recordReport (hs : s.Consistent) {repository : Int} {report : Text.Utf8.Bytes}
    {r : Recording} (h : s.recordReport repository report = .ok (r, t)) :
    t.recorded = s.recorded ∪ attributed repository (Report.parse report) := by
  cases hk : s.knows repository with
  | true =>
    obtain ⟨r', t', ht, -, hrec⟩ := recordReport_spec hs hk report
    rw [ht] at h
    cases h
    exact hrec
  | false =>
    -- nothing can be recorded for an unknown repository, so the report has no findings
    have hnil : Report.parse report = [] := by
      by_contra hne
      obtain ⟨e, he⟩ := (recordFindings_unknown hs hk _).2 hne
      rw [recordReport, he] at h
      cases h
    rw [recordReport, hnil, recordFindings_nil] at h
    cases h
    simp [hnil, attributed]

theorem dossier_recordReport_of_ne (hs : s.Consistent) {repository : Int}
    {report : Text.Utf8.Bytes} {r : Recording}
    (h : s.recordReport repository report = .ok (r, t)) (hid : id ≠ repository) :
    t.dossier id = s.dossier id := by
  have hnone : {f | (id, f) ∈ attributed repository (Report.parse report)} = (∅ : Set Finding) := by
    ext f
    simp [hid]
  rw [(ResultsGrow.recordReport h).dossier (recorded_recordReport hs h), hnone, Set.union_empty]

end Store

end CodeSurvey
