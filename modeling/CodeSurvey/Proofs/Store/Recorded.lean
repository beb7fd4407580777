import CodeSurvey.Proofs.Store.Consistency
import Mathlib.Data.Set.Insert

/-! What a store has recorded, said without the ids of its rows. -/

namespace CodeSurvey.Store

def paths (s : Store) : Set (Int × String) :=
  {x | ∃ f ∈ s.files, f.key = x}

def recorded (s : Store) : Set (Int × Finding) :=
  {x | ∃ f ∈ s.files, f.key = (x.1, x.2.path) ∧ ∃ m ∈ s.matchRows, m.key = (f.id, x.2.site)}

def attributed (repository : Int) (fs : List Finding) : Set (Int × Finding) :=
  {x | x.1 = repository ∧ x.2 ∈ fs}

def attributedPaths (repository : Int) (fs : List Finding) : Set (Int × String) :=
  {x | x.1 = repository ∧ ∃ f ∈ fs, f.path = x.2}

@[simp] theorem mem_paths {s : Store} {x : Int × String} : x ∈ s.paths ↔ ∃ f ∈ s.files, f.key = x :=
  Iff.rfl

theorem mem_recorded {s : Store} {x : Int × Finding} :
    x ∈ s.recorded ↔
      ∃ f ∈ s.files, f.key = (x.1, x.2.path) ∧ ∃ m ∈ s.matchRows, m.key = (f.id, x.2.site) :=
  Iff.rfl

@[simp] theorem mem_attributed {repository : Int} {fs : List Finding} {x : Int × Finding} :
    x ∈ attributed repository fs ↔ x.1 = repository ∧ x.2 ∈ fs :=
  Iff.rfl

@[simp] theorem mem_attributedPaths {repository : Int} {fs : List Finding} {x : Int × String} :
    x ∈ attributedPaths repository fs ↔ x.1 = repository ∧ ∃ f ∈ fs, f.path = x.2 :=
  Iff.rfl

structure ResultsGrow (s t : Store) : Prop where
  repositories : t.repositories = s.repositories
  markers : t.markers = s.markers
  refusals : t.refusals = s.refusals
  files : s.files <+: t.files
  matchRows : s.matchRows <+: t.matchRows

namespace ResultsGrow

variable {s t u : Store}

theorem refl (s : Store) : ResultsGrow s s :=
  ⟨rfl, rfl, rfl, List.prefix_refl _, List.prefix_refl _⟩

theorem trans (h : ResultsGrow s t) (k : ResultsGrow t u) : ResultsGrow s u :=
  ⟨k.repositories.trans h.repositories, k.markers.trans h.markers, k.refusals.trans h.refusals,
    h.files.trans k.files, h.matchRows.trans k.matchRows⟩

theorem knows (h : ResultsGrow s t) (id : Int) : t.knows id = s.knows id := by
  simp only [Store.knows, h.repositories]

theorem isMarked (h : ResultsGrow s t) (id : Int) : t.isMarked id = s.isMarked id := by
  simp only [Store.isMarked, h.markers]

theorem ensureFile {repository id : Int} {path : String}
    (h : s.ensureFile repository path = .ok (id, t)) : ResultsGrow s t := by
  unfold Store.ensureFile at h
  split at h
  · cases h
    exact ⟨rfl, rfl, rfl, List.prefix_refl _, List.prefix_refl _⟩
  · split at h
    · cases h
      exact ⟨rfl, rfl, rfl, List.prefix_append _ _, List.prefix_refl _⟩
    · cases h

theorem recordMatch {file : Int} {site : Site} {id : Option Int}
    (h : s.recordMatch file site = .ok (id, t)) : ResultsGrow s t := by
  unfold Store.recordMatch at h
  split at h
  · cases h
    exact ⟨rfl, rfl, rfl, List.prefix_refl _, List.prefix_refl _⟩
  · split at h
    · cases h
      exact ⟨rfl, rfl, rfl, List.prefix_refl _, List.prefix_append _ _⟩
    · cases h

theorem record {p q : Progress} {repository : Int} {f : Finding}
    (h : p.record repository f = .ok q) : ResultsGrow p.writer.draft q.writer.draft := by
  unfold Progress.record at h
  split at h
  · cases h
  rename_i file w hw
  have hf := ResultsGrow.ensureFile (Writer.ensureFile_ok hw)
  split at h
  · cases h
  · rename_i id v hv
    cases h
    exact hf.trans (ResultsGrow.recordMatch (Writer.recordMatch_ok hv))
  · rename_i v hv
    cases h
    exact hf.trans (ResultsGrow.recordMatch (Writer.recordMatch_ok hv))

theorem recordAll {p q : Progress} {repository : Int} {fs : List Finding}
    (h : p.recordAll repository fs = .ok q) : ResultsGrow p.writer.draft q.writer.draft := by
  induction fs generalizing p with
  | nil =>
    cases h
    exact refl _
  | cons f fs ih =>
    simp only [Progress.recordAll] at h
    split at h
    · cases h
    rename_i r hr
    exact (record hr).trans (ih h)

theorem recordReport {repository : Int} {report : Text.Utf8.Bytes} {r : Recording}
    (h : s.recordReport repository report = .ok (r, t)) : ResultsGrow s t := by
  unfold Store.recordReport recordFindings at h
  split at h
  · cases h
  rename_i p hp
  cases h
  exact recordAll (p := ⟨s.writer, [], 0, 0⟩) hp

end ResultsGrow

theorem ResultsGrow.recorded {s t : Store} (h : ResultsGrow s t) : s.recorded ⊆ t.recorded := by
  rintro x ⟨f, hf, hkey, m, hm, hsite⟩
  exact ⟨f, h.files.subset hf, hkey, m, h.matchRows.subset hm, hsite⟩

theorem ensureFile_row {s t : Store} {repository id : Int} {path : String}
    (h : s.ensureFile repository path = .ok (id, t)) :
    ∃ f ∈ t.files, f.key = (repository, path) ∧ f.id = id := by
  unfold ensureFile at h
  split at h
  · rename_i f hf
    cases h
    obtain ⟨hmem, hkey⟩ := file?_eq_some hf
    exact ⟨f, hmem, hkey, rfl⟩
  · split at h
    · cases h
      exact ⟨_, List.mem_append_right _ (List.mem_singleton.2 rfl), rfl, rfl⟩
    · cases h

theorem recordMatch_row {s t : Store} {file : Int} {site : Site} {id : Option Int}
    (h : s.recordMatch file site = .ok (id, t)) : ∃ m ∈ t.matchRows, m.key = (file, site) := by
  unfold recordMatch at h
  split at h
  · rename_i hm
    cases h
    exact hasMatch_iff.1 hm
  · split at h
    · cases h
      exact ⟨_, List.mem_append_right _ (List.mem_singleton.2 rfl), rfl⟩
    · cases h

theorem Progress.record_recorded {p q : Progress} {repository : Int} {f : Finding}
    (h : p.record repository f = .ok q) : (repository, f) ∈ q.writer.draft.recorded := by
  have hsite : ∀ {file : Int} {w v : Writer} {id : Option Int},
      p.writer.ensureFile repository f.path = .ok (file, w) →
        w.recordMatch file f.site = .ok (id, v) → (repository, f) ∈ v.draft.recorded := by
    intro file w v id hw hv
    obtain ⟨g, hg, hkey, rfl⟩ := ensureFile_row (Writer.ensureFile_ok hw)
    have hgrow := ResultsGrow.recordMatch (Writer.recordMatch_ok hv)
    exact ⟨g, hgrow.files.subset hg, hkey, recordMatch_row (Writer.recordMatch_ok hv)⟩
  unfold record at h
  split at h
  · cases h
  rename_i file w hw
  split at h
  · cases h
  · rename_i id v hv
    cases h
    exact hsite hw hv
  · rename_i v hv
    cases h
    exact hsite hw hv

theorem Progress.recordAll_recorded {p q : Progress} {repository : Int} {fs : List Finding}
    (h : p.recordAll repository fs = .ok q) :
    ∀ f ∈ fs, (repository, f) ∈ q.writer.draft.recorded := by
  induction fs generalizing p with
  | nil => simp
  | cons f fs ih =>
    simp only [recordAll] at h
    split at h
    · cases h
    rename_i r hr
    exact List.forall_mem_cons.2 ⟨(ResultsGrow.recordAll h).recorded (record_recorded hr), ih h⟩

theorem recordReport_recorded {s t : Store} {repository : Int} {report : Text.Utf8.Bytes}
    {r : Recording} (h : s.recordReport repository report = .ok (r, t)) :
    ∀ f ∈ Report.parse report, (repository, f) ∈ t.recorded := by
  unfold recordReport recordFindings at h
  split at h
  · cases h
  rename_i p hp
  cases h
  exact Progress.recordAll_recorded hp

theorem Consistent.file_unique {s : Store} (hs : s.Consistent) {f g : FileRow} (hf : f ∈ s.files)
    (hg : g ∈ s.files) (h : f.id = g.id) : f = g :=
  List.inj_on_of_nodup_map hs.fileIds hf hg h

theorem ensureFile_spec {s : Store} (hs : s.Consistent) {repository : Int}
    (hk : s.knows repository = true) (path : String) :
    ∃ f t, s.ensureFile repository path = .ok (f.id, t) ∧ f ∈ t.files ∧
      f.key = (repository, path) ∧ t.paths = insert (repository, path) s.paths ∧
      t.recorded = s.recorded := by
  unfold ensureFile
  cases hf : s.file? repository path with
  | some f =>
    obtain ⟨hm, he⟩ := file?_eq_some hf
    have hin : (repository, path) ∈ s.paths := ⟨f, hm, he⟩
    exact ⟨f, _, rfl, hm, he, (Set.insert_eq_of_mem hin).symm, rfl⟩
  | none =>
    simp only [hk, if_true]
    refine ⟨⟨(s.lastFile + 1 : Nat), repository, path⟩, _, rfl, ?_, rfl, ?_, ?_⟩
    · exact List.mem_append_right _ (List.mem_singleton.2 rfl)
    · ext x
      simp only [mem_paths, Set.mem_insert_iff, List.mem_append, List.mem_singleton]
      constructor
      · rintro ⟨f, hf | rfl, he⟩
        · exact Or.inr ⟨f, hf, he⟩
        · exact Or.inl he.symm
      · rintro (rfl | ⟨f, hf, he⟩)
        · exact ⟨_, Or.inr rfl, rfl⟩
        · exact ⟨f, Or.inl hf, he⟩
    · ext x
      simp only [mem_recorded, List.mem_append, List.mem_singleton]
      constructor
      · rintro ⟨f, hf | rfl, he, m, hm, hk⟩
        · exact ⟨f, hf, he, m, hm, hk⟩
        · obtain ⟨g, hg, hid⟩ := hasFile_iff.1 (hs.matchesFiled m hm)
          have hlt := hs.filesGiven g hg
          have hmf : m.file = ((s.lastFile + 1 : Nat) : Int) := congrArg Prod.fst hk
          omega
      · rintro ⟨f, hf, he, m, hm, hk⟩
        exact ⟨f, Or.inl hf, he, m, hm, hk⟩

theorem recordMatch_spec {s : Store} (hs : s.Consistent) {f : FileRow} (hf : f ∈ s.files)
    (site : Site) :
    ∃ id t, s.recordMatch f.id site = .ok (id, t) ∧ t.paths = s.paths ∧
      t.recorded = insert (f.repository, ⟨f.path, site⟩) s.recorded := by
  unfold recordMatch
  cases hm : s.hasMatch f.id site with
  | true =>
    obtain ⟨m, hm, he⟩ := hasMatch_iff.1 hm
    have hin : (f.repository, ⟨f.path, site⟩) ∈ s.recorded := ⟨f, hf, rfl, m, hm, he⟩
    exact ⟨none, _, rfl, rfl, (Set.insert_eq_of_mem hin).symm⟩
  | false =>
    have hh : s.hasFile f.id = true := hasFile_iff.2 ⟨f, hf, rfl⟩
    simp only [hh, if_true, Bool.false_eq_true, if_false]
    refine ⟨_, _, rfl, rfl, ?_⟩
    ext x
    simp only [mem_recorded, Set.mem_insert_iff, List.mem_append, List.mem_singleton]
    constructor
    · rintro ⟨g, hg, he, m, hm | rfl, hk⟩
      · exact Or.inr ⟨g, hg, he, m, hm, hk⟩
      · have hgf : f = g := hs.file_unique hf hg (congrArg Prod.fst hk)
        have hsite : site = x.2.site := congrArg Prod.snd hk
        subst hgf hsite
        have hrow : f.repository = x.1 ∧ f.path = x.2.path := Prod.mk.inj he
        exact Or.inl (by rw [hrow.1, hrow.2])
    · rintro (rfl | ⟨g, hg, he, m, hm, hk⟩)
      · exact ⟨f, hf, rfl, _, Or.inr rfl, rfl⟩
      · exact ⟨g, hg, he, m, Or.inl hm, hk⟩

theorem Progress.record_eq {p : Progress} {repository file : Int} {f : Finding} {t u : Store}
    {id : Option Int} (ht : p.writer.draft.ensureFile repository f.path = .ok (file, t))
    (hu : t.recordMatch file f.site = .ok (id, u)) :
    p.record repository f = .ok ⟨{ p.writer with draft := u }, p.meet file,
      p.newMatches + (if id.isSome then 1 else 0), p.duplicates + (if id.isSome then 0 else 1)⟩ := by
  have hw : p.writer.ensureFile repository f.path = .ok (file, { p.writer with draft := t }) := by
    simp [Writer.ensureFile, ht, Except.map]
  have hv : Writer.recordMatch { p.writer with draft := t } file f.site =
      .ok (id, { p.writer with draft := u }) := by
    simp [Writer.recordMatch, hu, Except.map]
  unfold record
  simp only [hw, hv]
  cases id <;> rfl

theorem Progress.record_spec {p : Progress} (hp : p.writer.draft.Consistent) {repository : Int}
    (hk : p.writer.draft.knows repository = true) (f : Finding) :
    ∃ q, p.record repository f = .ok q ∧
      q.writer.draft.paths = insert (repository, f.path) p.writer.draft.paths ∧
      q.writer.draft.recorded = insert (repository, f) p.writer.draft.recorded := by
  obtain ⟨g, t, ht, hg, hkey, hpaths, hrec⟩ := ensureFile_spec hp hk f.path
  obtain ⟨id, u, hu, hpaths', hrec'⟩ := recordMatch_spec (hp.ensureFile ht) hg f.site
  have hrow : g.repository = repository ∧ g.path = f.path := Prod.mk.inj hkey
  rw [hrow.1, hrow.2, hrec] at hrec'
  rw [hpaths] at hpaths'
  exact ⟨_, record_eq ht hu, hpaths', hrec'⟩

theorem Progress.recordAll_spec {p : Progress} (hp : p.writer.draft.Consistent) {repository : Int}
    (hk : p.writer.draft.knows repository = true) (fs : List Finding) :
    ∃ q, p.recordAll repository fs = .ok q ∧
      q.writer.draft.paths =
        p.writer.draft.paths ∪ attributedPaths repository fs ∧
      q.writer.draft.recorded = p.writer.draft.recorded ∪ attributed repository fs := by
  induction fs generalizing p with
  | nil => exact ⟨p, rfl, by simp [attributedPaths], by simp [attributed]⟩
  | cons f fs ih =>
    obtain ⟨r, hr, hpaths, hrec⟩ := record_spec hp hk f
    have hk' : r.writer.draft.knows repository = true := by
      rw [(ResultsGrow.record hr).knows, hk]
    obtain ⟨q, hq, hpaths', hrec'⟩ := ih (hp.record hr) hk'
    refine ⟨q, ?_, ?_, ?_⟩
    · simp only [recordAll, hr, hq]
    · rw [hpaths', hpaths]
      ext x
      simp only [Set.mem_union, Set.mem_insert_iff, mem_attributedPaths,
        List.exists_mem_cons_iff, Prod.ext_iff, eq_comm (a := f.path)]
      tauto
    · rw [hrec', hrec]
      ext x
      simp only [Set.mem_union, Set.mem_insert_iff, mem_attributed, List.mem_cons, Prod.ext_iff]
      tauto

theorem recordReport_spec {s : Store} (hs : s.Consistent) {repository : Int}
    (hk : s.knows repository = true) (report : Text.Utf8.Bytes) :
    ∃ r t, s.recordReport repository report = .ok (r, t) ∧
      t.paths = s.paths ∪ attributedPaths repository (Report.parse report) ∧
      t.recorded = s.recorded ∪ attributed repository (Report.parse report) := by
  obtain ⟨q, hq, hpaths, hrec⟩ := Progress.recordAll_spec (p := ⟨s.writer, [], 0, 0⟩) hs hk
    (Report.parse report)
  have hr : s.recordReport repository report = .ok
      (⟨(Report.parse report).length, q.files.length, q.newMatches, q.duplicates⟩,
        q.writer.commit) := by
    simp only [recordReport, recordFindings, hq]
  exact ⟨_, _, hr, hpaths, hrec⟩

end CodeSurvey.Store
