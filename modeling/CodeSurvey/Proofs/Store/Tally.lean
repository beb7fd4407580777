import CodeSurvey.Proofs.Store.History
import CodeSurvey.Proofs.Store.Recorded
import Mathlib.Data.Set.Card

/-! The counts of a recording. -/

namespace CodeSurvey.Store

def pathsOf (fs : List Finding) : Set String :=
  {path | ∃ f ∈ fs, f.path = path}

def fresh (s : Store) (repository : Int) (fs : List Finding) : Set Finding :=
  {f | f ∈ fs ∧ (repository, f) ∉ s.recorded}

@[simp] theorem mem_pathsOf {fs : List Finding} {path : String} :
    path ∈ pathsOf fs ↔ ∃ f ∈ fs, f.path = path :=
  Iff.rfl

theorem finite_pathsOf (fs : List Finding) : (pathsOf fs).Finite :=
  (List.finite_toSet fs).image Finding.path

theorem finite_fresh (s : Store) (repository : Int) (fs : List Finding) :
    (s.fresh repository fs).Finite :=
  (List.finite_toSet fs).subset (fun _ h => h.1)

@[simp] theorem pathsOf_concat (fs : List Finding) (f : Finding) :
    pathsOf (fs ++ [f]) = insert f.path (pathsOf fs) := by
  ext path
  simp only [mem_pathsOf, Set.mem_insert_iff, List.mem_append, List.mem_singleton]
  constructor
  · rintro ⟨g, hg | rfl, rfl⟩
    · exact Or.inr ⟨g, hg, rfl⟩
    · exact Or.inl rfl
  · rintro (rfl | ⟨g, hg, rfl⟩)
    · exact ⟨f, Or.inr rfl, rfl⟩
    · exact ⟨g, Or.inl hg, rfl⟩

variable {s t : Store} {repository : Int} {fs : List Finding} {f : Finding}

theorem fresh_concat_of_mem (h : (repository, f) ∈ s.recorded ∪ attributed repository fs) :
    s.fresh repository (fs ++ [f]) = s.fresh repository fs := by
  ext g
  simp only [fresh, Set.mem_ofPred_eq, List.mem_append, List.mem_singleton]
  refine and_congr_left fun hg => or_iff_left_of_imp ?_
  rintro rfl
  exact (h.resolve_left hg).2

theorem fresh_concat_of_notMem (h : (repository, f) ∉ s.recorded ∪ attributed repository fs) :
    s.fresh repository (fs ++ [f]) = insert f (s.fresh repository fs) := by
  ext g
  simp only [fresh, Set.mem_ofPred_eq, Set.mem_insert_iff, List.mem_append, List.mem_singleton]
  constructor
  · rintro ⟨hg | rfl, hn⟩
    · exact Or.inr ⟨hg, hn⟩
    · exact Or.inl rfl
  · rintro (rfl | ⟨hg, hn⟩)
    · exact ⟨Or.inr rfl, fun hr => h (Or.inl hr)⟩
    · exact ⟨Or.inl hg, hn⟩

theorem ncard_fresh_concat {isNew : Bool}
    (h : isNew = true ↔ (repository, f) ∉ s.recorded ∪ attributed repository fs) :
    (s.fresh repository (fs ++ [f])).ncard =
      (s.fresh repository fs).ncard + if isNew then 1 else 0 := by
  cases isNew with
  | true =>
    have hn := h.1 rfl
    have hf : f ∉ s.fresh repository fs := fun hf => hn (Or.inr ⟨rfl, hf.1⟩)
    rw [fresh_concat_of_notMem hn, Set.ncard_insert_of_notMem hf (finite_fresh s repository fs)]
    rfl
  | false =>
    have hm : (repository, f) ∈ s.recorded ∪ attributed repository fs :=
      Classical.not_not.1 (fun hn => absurd (h.2 hn) Bool.false_ne_true)
    rw [fresh_concat_of_mem hm]
    rfl

@[simp] theorem attributed_concat (repository : Int) (fs : List Finding) (f : Finding) :
    attributed repository (fs ++ [f]) = insert (repository, f) (attributed repository fs) := by
  ext x
  simp only [Set.mem_insert_iff, mem_attributed, List.mem_append, List.mem_singleton, Prod.ext_iff]
  tauto

theorem Consistent.file_eq_of_key (hs : s.Consistent) {f g : FileRow} (hf : f ∈ s.files)
    (hg : g ∈ s.files) (h : f.key = g.key) : f = g :=
  List.inj_on_of_nodup_map hs.fileKeys hf hg h

theorem ensureFile_matchRows {id : Int} {path : String}
    (h : s.ensureFile repository path = .ok (id, t)) : t.matchRows = s.matchRows := by
  unfold ensureFile at h
  split at h
  · cases h
    rfl
  · split at h
    · cases h
      rfl
    · cases h

structure Recounts (s : Store) (x : Int × Finding) (id : Option Int) (t : Store) : Prop where
  files : t.files = s.files
  isSome_iff : id.isSome = true ↔ x ∉ s.recorded
  length : t.matchRows.length = s.matchRows.length + if id.isSome then 1 else 0

theorem recordMatch_recounts (hs : s.Consistent) {g : FileRow} (hg : g ∈ s.files) {site : Site}
    {id : Option Int} (h : s.recordMatch g.id site = .ok (id, t)) :
    s.Recounts (g.repository, ⟨g.path, site⟩) id t := by
  have hmatch : s.hasMatch g.id site = true ↔ (g.repository, ⟨g.path, site⟩) ∈ s.recorded := by
    rw [hasMatch_iff]
    constructor
    · intro hm
      exact ⟨g, hg, rfl, hm⟩
    · rintro ⟨g', hg', hkey, hm⟩
      rw [hs.file_eq_of_key hg' hg hkey] at hm
      exact hm
  unfold recordMatch at h
  split at h
  · rename_i hm
    cases h
    exact ⟨rfl, by simpa using hmatch.1 hm, by simp⟩
  · rename_i hm
    split at h
    · cases h
      exact ⟨rfl, by simpa using fun hr => hm (hmatch.2 hr), by simp⟩
    · cases h

namespace Progress

@[simp] theorem mem_meet {p : Progress} {file id : Int} :
    id ∈ p.meet file ↔ id = file ∨ id ∈ p.files := by
  unfold meet
  split
  · rename_i h
    have hm : file ∈ p.files := by simpa using h
    constructor
    · exact Or.inr
    · rintro (rfl | h)
      · exact hm
      · exact h
  · exact List.mem_cons

theorem length_meet {p : Progress} {file : Int} :
    (p.meet file).length = if file ∈ p.files then p.files.length else p.files.length + 1 := by
  simp only [meet, List.contains_iff_mem]
  split <;> rfl

structure Tallied (s : Store) (repository : Int) (met : List Finding) (p : Progress) : Prop where
  consistent : p.writer.draft.Consistent
  known : p.writer.draft.knows repository = true
  recorded : p.writer.draft.recorded = s.recorded ∪ attributed repository met
  paths : ∀ path ∈ pathsOf met, (repository, path) ∈ p.writer.draft.paths
  mem_files : ∀ id, id ∈ p.files ↔
    ∃ g ∈ p.writer.draft.files, g.id = id ∧ g.repository = repository ∧ g.path ∈ pathsOf met
  files : p.files.length = (pathsOf met).ncard
  newMatches : p.newMatches = (s.fresh repository met).ncard
  rows : p.writer.draft.matchRows.length = s.matchRows.length + p.newMatches
  sum : p.newMatches + p.duplicates = met.length

namespace Tallied

variable {met : List Finding} {p : Progress}

theorem start (hs : s.Consistent) (hk : s.knows repository = true) :
    Tallied s repository [] ⟨s.writer, [], 0, 0⟩ where
  consistent := hs
  known := hk
  recorded := by
    have hnone : attributed repository [] = ∅ := by simp [attributed]
    rw [hnone, Set.union_empty]
    rfl
  paths := by simp [pathsOf]
  mem_files := by simp [pathsOf]
  files := by simp [pathsOf]
  newMatches := by simp [fresh]
  rows := rfl
  sum := rfl

theorem mem_files_iff (h : Tallied s repository met p) {g : FileRow} (ht : t.Consistent)
    (hgrow : p.writer.draft.files <+: t.files) (hg : g ∈ t.files)
    (hrepository : g.repository = repository) : g.id ∈ p.files ↔ g.path ∈ pathsOf met := by
  rw [h.mem_files]
  constructor
  · rintro ⟨g', hg', hid, -, hpath⟩
    rw [← ht.file_unique (hgrow.subset hg') hg hid]
    exact hpath
  · intro hpath
    obtain ⟨g', hg', hkey⟩ := h.paths g.path hpath
    have hsame : g' = g := ht.file_eq_of_key (hgrow.subset hg') hg (by
      rw [hkey, ← hrepository]
      rfl)
    exact ⟨g, hsame ▸ hg', rfl, hrepository, hpath⟩

theorem meet (h : Tallied s repository met p) {g : FileRow} {path : String} (ht : t.Consistent)
    (hgrow : p.writer.draft.files <+: t.files) (hg : g ∈ t.files)
    (hkey : g.key = (repository, path)) :
    (p.meet g.id).length = (insert path (pathsOf met)).ncard ∧
      ∀ id, id ∈ p.meet g.id ↔ ∃ g' ∈ t.files,
        g'.id = id ∧ g'.repository = repository ∧ g'.path ∈ insert path (pathsOf met) := by
  obtain ⟨rfl, rfl⟩ := Prod.mk.inj hkey
  have hmet := h.mem_files_iff ht hgrow hg rfl
  constructor
  · rw [length_meet]
    by_cases hin : g.path ∈ pathsOf met
    · rw [if_pos (hmet.2 hin), Set.insert_eq_of_mem hin, h.files]
    · rw [if_neg (fun hm => hin (hmet.1 hm)), Set.ncard_insert_of_notMem hin (finite_pathsOf met),
        h.files]
  · intro id
    rw [mem_meet]
    constructor
    · rintro (rfl | hid)
      · exact ⟨g, hg, rfl, rfl, Set.mem_insert _ _⟩
      · obtain ⟨g', hg', rfl, hrepository, hpath⟩ := (h.mem_files id).1 hid
        exact ⟨g', hgrow.subset hg', rfl, hrepository, Set.mem_insert_of_mem _ hpath⟩
    · rintro ⟨g', hg', rfl, hrepository, hpath | hpath⟩
      · have hsame : g' = g := ht.file_eq_of_key hg' hg (Prod.ext hrepository hpath)
        exact Or.inl (congrArg FileRow.id hsame)
      · exact Or.inr ((h.mem_files_iff ht hgrow hg' hrepository).2 hpath)

theorem record (h : Tallied s repository met p) (f : Finding) :
    ∃ q, p.record repository f = .ok q ∧ Tallied s repository (met ++ [f]) q := by
  obtain ⟨g, t, ht, hg, hkey, hpaths, hrec⟩ := ensureFile_spec h.consistent h.known f.path
  have htc := h.consistent.ensureFile ht
  obtain ⟨id, u, hu, hpaths', hrec'⟩ := recordMatch_spec htc hg f.site
  have hgrow := ResultsGrow.ensureFile ht
  have hgrow' := hgrow.trans (.recordMatch hu)
  obtain ⟨hlength, hmem⟩ := h.meet htc hgrow.files hg hkey
  obtain ⟨hfiles, hnew, hrows⟩ := recordMatch_recounts htc hg hu
  have hrow : g.repository = repository ∧ g.path = f.path := Prod.mk.inj hkey
  rw [hrow.1, hrow.2, hrec, h.recorded] at hrec' hnew
  rw [ensureFile_matchRows ht, h.rows] at hrows
  exact ⟨_, Progress.record_eq ht hu, {
    consistent := htc.recordMatch hu
    known := by
      rw [hgrow'.knows]
      exact h.known
    recorded := by
      rw [attributed_concat, Set.union_insert]
      exact hrec'
    paths := by
      intro path hpath
      rw [hpaths', hpaths]
      rw [pathsOf_concat] at hpath
      rcases hpath with rfl | hpath
      · exact Set.mem_insert _ _
      · exact Set.mem_insert_of_mem _ (h.paths path hpath)
    mem_files := by
      rw [pathsOf_concat, hfiles]
      exact hmem
    files := by
      rw [pathsOf_concat]
      exact hlength
    newMatches := by
      rw [ncard_fresh_concat hnew, h.newMatches]
    rows := by
      rw [hrows, Nat.add_assoc]
    sum := by
      have hsum := h.sum
      simp only [List.length_append, List.length_singleton]
      split <;> omega }⟩

theorem recordAll (h : Tallied s repository met p) (fs : List Finding) :
    ∃ q, p.recordAll repository fs = .ok q ∧ Tallied s repository (met ++ fs) q := by
  induction fs generalizing met p with
  | nil => exact ⟨p, rfl, by simpa using h⟩
  | cons f fs ih =>
    obtain ⟨r, hr, hone⟩ := h.record f
    obtain ⟨q, hq, hall⟩ := ih hone
    refine ⟨q, ?_, by simpa using hall⟩
    simp only [Progress.recordAll, hr, hq]

end Tallied

end Progress

structure Records (s : Store) (repository : Int) (fs : List Finding) (r : Recording) (t : Store) :
    Prop where
  own : ∀ f, (repository, f) ∈ t.recorded ↔ (repository, f) ∈ s.recorded ∨ f ∈ fs
  others : ∀ other, other ≠ repository →
    ∀ f, (other, f) ∈ t.recorded ↔ (other, f) ∈ s.recorded
  grows : s.ResultsGrow t
  findings : r.findings = fs.length
  sum : r.newMatches + r.duplicates = fs.length
  files : r.files = (pathsOf fs).ncard
  newMatches : r.newMatches = (s.fresh repository fs).ncard
  rows : t.matchRows.length = s.matchRows.length + r.newMatches

theorem recordFindings_records (hs : s.Consistent) (hk : s.knows repository = true)
    (fs : List Finding) :
    ∃ r t, s.recordFindings repository fs = .ok (r, t) ∧ s.Records repository fs r t := by
  obtain ⟨q, hq, h⟩ := (Progress.Tallied.start hs hk).recordAll fs
  rw [List.nil_append] at h
  have hrec : ∀ x, x ∈ q.writer.commit.recorded ↔
      x ∈ s.recorded ∨ x.1 = repository ∧ x.2 ∈ fs := by
    intro x
    rw [Writer.commit, h.recorded, Set.mem_union, mem_attributed]
  refine ⟨⟨fs.length, q.files.length, q.newMatches, q.duplicates⟩, q.writer.commit, ?_, ?_⟩
  · simp only [recordFindings, hq]
  · exact {
      own := fun f => by simpa using hrec (repository, f)
      others := fun other hne f => by simpa [hne] using hrec (other, f)
      grows := ResultsGrow.recordAll hq
      findings := rfl
      sum := h.sum
      files := h.files
      newMatches := h.newMatches
      rows := h.rows }

theorem ensureFile_unknown (hs : s.Consistent) (hk : s.knows repository = false) (path : String) :
    s.ensureFile repository path = .error .unknownReference := by
  unfold ensureFile
  cases hf : s.file? repository path with
  | none => simp [hk]
  | some g =>
    obtain ⟨hg, hkey⟩ := file?_eq_some hf
    have hknown := hs.filesKnown g hg
    rw [(Prod.mk.inj hkey).1, hk] at hknown
    cases hknown

theorem recordFindings_unknown (hs : s.Consistent) (hk : s.knows repository = false)
    (fs : List Finding) : (∃ e, s.recordFindings repository fs = .error e) ↔ fs ≠ [] := by
  cases fs with
  | nil => simp
  | cons f fs =>
    have he := ensureFile_unknown hs hk f.path
    simp [recordFindings, Progress.recordAll, Progress.record, Writer.ensureFile, writer, he,
      Except.map]

theorem recordReport_records {s : Store} (hs : s.Consistent) (repository : Int)
    (report : Text.Utf8.Bytes) :
    (s.knows repository = true → ∃ r t, s.recordReport repository report = .ok (r, t) ∧
        s.Records repository (Report.parse report) r t) ∧
      (s.knows repository = false →
        ((∃ e, s.recordReport repository report = .error e) ↔ Report.parse report ≠ [])) ∧
      ∀ e, s.recordReport repository report = .error e →
        s.perform (.recordReport repository report) = s := by
  refine ⟨fun hk => recordFindings_records hs hk _, fun hk => recordFindings_unknown hs hk _, ?_⟩
  intro e he
  simp [perform, settled, he]

def twoRecorded : Store :=
  (blank .none).performAll
    [.insert [⟨1, "a/one", "u1", 5⟩, ⟨2, "b/two", "u2", 4⟩],
      .recordReport 1 (Text.Utf8.encode "x.c,1,1,0,4,0\n"),
      .recordReport 2 (Text.Utf8.encode "x.c,9,3,1,8,1\n")]

def fourListed : Text.Utf8.Bytes :=
  Text.Utf8.encode "x.c,9,3,1,8,1\nSuccessful: 2\ny.c,2,2,0,4,0\nx.c,1,1,0,4,0\nx.c,9,3,1,8,1\n"

theorem recordReport_records_fourListed :
    twoRecorded.knows 1 = true ∧ twoRecorded.knows 99 = false ∧
      (∃ t, twoRecorded.recordReport 1 fourListed = .ok (⟨4, 2, 2, 2⟩, t) ∧
        twoRecorded.Records 1 (Report.parse fourListed) ⟨4, 2, 2, 2⟩ t) ∧
      (∃ e, twoRecorded.recordReport 99 fourListed = .error e) ∧
      twoRecorded.perform (.recordReport 99 fourListed) = twoRecorded := by
  have hs : twoRecorded.Consistent := (Consistent.blank _).performAll _
  have hknown : twoRecorded.knows 1 = true := by decide +kernel
  have hunknown : twoRecorded.knows 99 = false := by decide +kernel
  have hcounts : (twoRecorded.recordReport 1 fourListed).map Prod.fst = .ok ⟨4, 2, 2, 2⟩ := by
    decide +kernel
  obtain ⟨r, t, hr, hrecords⟩ := (recordReport_records hs 1 fourListed).1 hknown
  rw [hr] at hcounts
  obtain rfl : r = ⟨4, 2, 2, 2⟩ := Except.ok.inj hcounts
  have hlisted : Report.parse fourListed ≠ [] := by decide +kernel
  obtain ⟨e, he⟩ := ((recordReport_records hs 99 fourListed).2.1 hunknown).2 hlisted
  exact ⟨hknown, hunknown, ⟨t, hr, hrecords⟩, ⟨e, he⟩,
    (recordReport_records hs 99 fourListed).2.2 e he⟩

end CodeSurvey.Store
