import CodeSurvey.Store.Completion
import CodeSurvey.Store.Queue
import CodeSurvey.Store.Results
import Mathlib.Data.List.Nodup

/-! What the keys, references and id counters of the four tables promise together. -/

namespace CodeSurvey

def FileRow.key (f : FileRow) : Int × String := (f.repository, f.path)

def MatchRow.key (m : MatchRow) : Int × Site := (m.file, m.site)

theorem nodup_map_concat {α β : Type} {key : α → β} {rows : List α} {row : α}
    (h : (rows.map key).Nodup) (hn : ∀ r ∈ rows, key r ≠ key row) :
    ((rows ++ [row]).map key).Nodup := by
  simp only [List.map_append, List.map_cons, List.map_nil, List.nodup_append, List.mem_map,
    List.mem_singleton]
  refine ⟨h, by simp, ?_⟩
  rintro _ ⟨r, hr, rfl⟩ _ rfl
  exact hn r hr

theorem lt_of_given {α : Type} {id : α → Int} {rows : List α} {last : Nat}
    (h : ∀ r ∈ rows, id r ≤ last) : ∀ r ∈ rows, id r < ((last + 1 : Nat) : Int) := by
  intro r hr
  have := h r hr
  omega

namespace Store

structure Consistent (s : Store) : Prop where
  repositoryIds : (s.repositories.map Repository.id).Nodup
  markerIds : (s.markers.map MarkerRow.repository).Nodup
  markersKnown : ∀ m ∈ s.markers, s.knows m.repository = true
  fileIds : (s.files.map FileRow.id).Nodup
  fileKeys : (s.files.map FileRow.key).Nodup
  filesKnown : ∀ f ∈ s.files, s.knows f.repository = true
  filesGiven : ∀ f ∈ s.files, f.id ≤ s.lastFile
  matchIds : (s.matchRows.map MatchRow.id).Nodup
  matchKeys : (s.matchRows.map MatchRow.key).Nodup
  matchesFiled : ∀ m ∈ s.matchRows, s.hasFile m.file = true
  matchesGiven : ∀ m ∈ s.matchRows, m.id ≤ s.lastMatch

@[grind =] theorem hasFile_iff {s : Store} {id : Int} :
    s.hasFile id = true ↔ ∃ f ∈ s.files, f.id = id := by
  simp [hasFile]

@[grind =] theorem hasMatch_iff {s : Store} {file : Int} {site : Site} :
    s.hasMatch file site = true ↔ ∃ m ∈ s.matchRows, m.key = (file, site) := by
  simp [hasMatch, MatchRow.key]

theorem file?_eq_some {s : Store} {repository : Int} {path : String} {f : FileRow}
    (h : s.file? repository path = some f) : f ∈ s.files ∧ f.key = (repository, path) := by
  have hk := List.find?_some h
  simp only [Bool.and_eq_true, beq_iff_eq] at hk
  exact ⟨List.mem_of_find?_eq_some h, Prod.ext hk.1 hk.2⟩

theorem file?_eq_none {s : Store} {repository : Int} {path : String}
    (h : s.file? repository path = none) : ∀ f ∈ s.files, f.key ≠ (repository, path) := by
  intro f hf he
  have hn := List.find?_eq_none.1 h f hf
  simp only [FileRow.key, Prod.mk.injEq] at he
  simp [he.1, he.2] at hn

def blank (refusals : Refusals) : Store := { empty with refusals := refusals }

namespace Consistent

theorem blank (refusals : Refusals) : (Store.blank refusals).Consistent := by
  constructor <;> simp [Store.blank, Store.empty]

variable {s t : Store}

theorem insertRepository {r : Repository} {isNew : Bool} (hs : s.Consistent)
    (h : s.insertRepository r = .ok (isNew, t)) : t.Consistent := by
  obtain ⟨-, ⟨-, -, rfl⟩ | ⟨hk, -, rfl⟩⟩ := insertRepository_eq_ok h
  · exact hs
  have hnew : ∀ q ∈ s.repositories, q.id ≠ r.id := by grind
  have hgrow : ∀ id, s.knows id = true →
      ({ s with repositories := s.repositories ++ [r] } : Store).knows id = true := by grind
  exact { hs with
    repositoryIds := nodup_map_concat hs.repositoryIds hnew
    markersKnown := fun m hm => hgrow _ (hs.markersKnown m hm)
    filesKnown := fun f hf => hgrow _ (hs.filesKnown f hf) }

theorem insertRepositories {rs : List Repository} {n : Nat} (hs : s.Consistent)
    (h : s.insertRepositories rs = .ok (n, t)) : t.Consistent := by
  induction rs generalizing s n with
  | nil =>
    cases h
    exact hs
  | cons r rs ih =>
    obtain ⟨isNew, u, k, hr, hrs, -⟩ := insertRepositories_cons_eq_ok h
    exact ih (hs.insertRepository hr) hrs

theorem mark {m : Marker} (hs : s.Consistent) (h : s.mark m = .ok t) : t.Consistent := by
  obtain ⟨-, -, hm, hk, rfl⟩ := mark_eq_ok_iff.1 h
  have hnew : ∀ q ∈ s.markers, q.repository ≠ m.row.repository := by grind [Marker.row]
  exact { hs with
    markerIds := nodup_map_concat hs.markerIds hnew
    markersKnown := List.forall_mem_append.2 ⟨hs.markersKnown, List.forall_mem_singleton.2 hk⟩ }

theorem resetFailed (hs : s.Consistent) : s.resetFailed.2.Consistent :=
  { hs with
    markerIds := hs.markerIds.sublist (List.filter_sublist.map _)
    markersKnown := fun m hm => hs.markersKnown m (List.mem_of_mem_filter hm) }

theorem ensureFile {repository id : Int} {path : String} (hs : s.Consistent)
    (h : s.ensureFile repository path = .ok (id, t)) : t.Consistent := by
  have hgiven := lt_of_given hs.filesGiven
  unfold Store.ensureFile at h
  split at h
  · cases h
    exact { hs with filesGiven := fun f hf => Int.le_of_lt (hgiven f hf) }
  rename_i hn
  split at h
  · rename_i hk
    cases h
    exact { hs with
      fileIds := nodup_map_concat hs.fileIds (fun f hf => Int.ne_of_lt (hgiven f hf))
      fileKeys := nodup_map_concat hs.fileKeys (file?_eq_none hn)
      filesKnown := List.forall_mem_append.2 ⟨hs.filesKnown, List.forall_mem_singleton.2 hk⟩
      filesGiven := List.forall_mem_append.2
        ⟨fun f hf => Int.le_of_lt (hgiven f hf), List.forall_mem_singleton.2 (Int.le_refl _)⟩
      matchesFiled := fun m hm => by grind [hs.matchesFiled m hm] }
  · cases h

theorem recordMatch {file : Int} {site : Site} {id : Option Int} (hs : s.Consistent)
    (h : s.recordMatch file site = .ok (id, t)) : t.Consistent := by
  have hgiven := lt_of_given hs.matchesGiven
  unfold Store.recordMatch at h
  split at h
  · cases h
    exact { hs with matchesGiven := fun m hm => Int.le_of_lt (hgiven m hm) }
  rename_i hn
  split at h
  · rename_i hf
    cases h
    have hnew : ∀ m ∈ s.matchRows, m.key ≠ (file, site) := by grind
    exact { hs with
      matchIds := nodup_map_concat hs.matchIds (fun m hm => Int.ne_of_lt (hgiven m hm))
      matchKeys := nodup_map_concat hs.matchKeys hnew
      matchesFiled := List.forall_mem_append.2 ⟨hs.matchesFiled, List.forall_mem_singleton.2 hf⟩
      matchesGiven := List.forall_mem_append.2
        ⟨fun m hm => Int.le_of_lt (hgiven m hm), List.forall_mem_singleton.2 (Int.le_refl _)⟩ }
  · cases h

theorem record {p q : Progress} {repository : Int} {f : Finding}
    (hp : p.writer.draft.Consistent) (h : p.record repository f = .ok q) :
    q.writer.draft.Consistent := by
  unfold Progress.record at h
  split at h
  · cases h
  rename_i file w hw
  have hf := hp.ensureFile (Writer.ensureFile_ok hw)
  split at h
  · cases h
  · rename_i id v hv
    cases h
    exact hf.recordMatch (Writer.recordMatch_ok hv)
  · rename_i v hv
    cases h
    exact hf.recordMatch (Writer.recordMatch_ok hv)

theorem recordAll {p q : Progress} {repository : Int} {fs : List Finding}
    (hp : p.writer.draft.Consistent) (h : p.recordAll repository fs = .ok q) :
    q.writer.draft.Consistent := by
  induction fs generalizing p with
  | nil =>
    cases h
    exact hp
  | cons f fs ih =>
    simp only [Progress.recordAll] at h
    split at h
    · cases h
    rename_i r hr
    exact ih (hp.record hr) h

theorem recordReport {repository : Int} {report : Text.Utf8.Bytes} {r : Recording}
    (hs : s.Consistent) (h : s.recordReport repository report = .ok (r, t)) : t.Consistent := by
  unfold Store.recordReport recordFindings at h
  split at h
  · cases h
  rename_i p hp
  cases h
  exact recordAll (p := ⟨s.writer, [], 0, 0⟩) hs hp

end Consistent

end Store

end CodeSurvey
