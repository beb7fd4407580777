import CodeSurvey.Proofs.Store.Consistency
import CodeSurvey.Store.Statistics
import Mathlib.Data.List.Perm.Basic

/-! Histories of a store. -/

namespace CodeSurvey.Store

def settled {α : Type} (s : Store) : Except StoreError (α × Store) → Store
  | .ok (_, t) => t
  | .error _ => s

inductive Entry where
  | file (repository : Int) (path : String)
  | site (file : Int) (site : Site)
deriving DecidableEq, Repr

def Writer.enter (w : Writer) : Entry → Writer
  | .file repository path =>
    match w.ensureFile repository path with
    | .ok (_, v) => v
    | .error _ => w
  | .site file site =>
    match w.recordMatch file site with
    | .ok (_, v) => v
    | .error _ => w

inductive Operation where
  | insert (rs : List Repository)
  | mark (m : Marker)
  | resetFailed
  | ensureFile (repository : Int) (path : String)
  | recordMatch (file : Int) (site : Site)
  | write (entries : List Entry) (keep : Bool)
  | recordReport (repository : Int) (report : Text.Utf8.Bytes)
deriving DecidableEq, Repr

def perform (s : Store) : Operation → Store
  | .insert rs => s.settled (s.insertRepositories rs)
  | .mark m => s.settled ((s.mark m).map (fun t => ((), t)))
  | .resetFailed => s.resetFailed.2
  | .ensureFile repository path => s.settled (s.ensureFile repository path)
  | .recordMatch file site => s.settled (s.recordMatch file site)
  | .write entries keep =>
    let w := entries.foldl Writer.enter s.writer
    if keep then w.commit else w.drop
  | .recordReport repository report => s.settled (s.recordReport repository report)

def performAll (s : Store) (history : List Operation) : Store :=
  history.foldl perform s

theorem settled_of {α : Type} {P : Store → Prop} {s : Store}
    {result : Except StoreError (α × Store)} (hs : P s) (h : ∀ a t, result = .ok (a, t) → P t) :
    P (s.settled result) := by
  cases result with
  | error e => exact hs
  | ok r => exact h r.1 r.2 rfl

namespace Consistent

variable {s : Store}

theorem settled {α : Type} {result : Except StoreError (α × Store)} (hs : s.Consistent)
    (h : ∀ a t, result = .ok (a, t) → t.Consistent) : (s.settled result).Consistent :=
  settled_of hs h

theorem enter {w : Writer} (hw : w.draft.Consistent) (e : Entry) :
    (w.enter e).draft.Consistent := by
  cases e with
  | file repository path =>
    simp only [Writer.enter]
    split
    · rename_i id v h
      exact hw.ensureFile (Writer.ensureFile_ok h)
    · exact hw
  | site file site =>
    simp only [Writer.enter]
    split
    · rename_i id v h
      exact hw.recordMatch (Writer.recordMatch_ok h)
    · exact hw

theorem enterAll {w : Writer} (hw : w.draft.Consistent) (entries : List Entry) :
    (entries.foldl Writer.enter w).draft.Consistent := by
  induction entries generalizing w with
  | nil => exact hw
  | cons e entries ih => exact ih (hw.enter e)

end Consistent

@[simp] theorem Writer.enterAll_base (w : Writer) (entries : List Entry) :
    (entries.foldl Writer.enter w).base = w.base := by
  induction entries generalizing w with
  | nil => rfl
  | cons e entries ih =>
    have he : (w.enter e).base = w.base := by
      cases e with
      | file repository path =>
        simp only [Writer.enter, Writer.ensureFile]
        cases w.draft.ensureFile repository path <;> rfl
      | site file site =>
        simp only [Writer.enter, Writer.recordMatch]
        cases w.draft.recordMatch file site <;> rfl
    exact (ih (w.enter e)).trans he

theorem Consistent.perform {s : Store} (hs : s.Consistent) (o : Operation) :
    (s.perform o).Consistent := by
  cases o with
  | insert rs => exact hs.settled (fun _ _ h => hs.insertRepositories h)
  | mark m =>
    apply hs.settled
    intro a t h
    cases hm : s.mark m with
    | error e => simp [hm, Except.map] at h
    | ok u =>
      simp only [hm, Except.map, Except.ok.injEq, Prod.mk.injEq] at h
      exact h.2 ▸ hs.mark hm
  | resetFailed => exact hs.resetFailed
  | ensureFile repository path => exact hs.settled (fun _ _ h => hs.ensureFile h)
  | recordMatch file site => exact hs.settled (fun _ _ h => hs.recordMatch h)
  | write entries keep =>
    cases keep with
    | true => exact Consistent.enterAll (w := s.writer) hs entries
    | false =>
      have hb : (entries.foldl Writer.enter s.writer).drop = s := s.writer.enterAll_base entries
      have hd : s.perform (.write entries false) = s := hb
      rw [hd]
      exact hs
  | recordReport repository report => exact hs.settled (fun _ _ h => hs.recordReport h)

theorem Consistent.performAll {s : Store} (hs : s.Consistent) (history : List Operation) :
    (s.performAll history).Consistent := by
  induction history generalizing s with
  | nil => exact hs
  | cons o history ih => exact ih (hs.perform o)

theorem Consistent.marked_perm {s : Store} (hs : s.Consistent) :
    ((s.repositories.filter (fun r => s.isMarked r.id)).map Repository.id).Perm
      (s.markers.map MarkerRow.repository) := by
  have hn : ((s.repositories.filter (fun r => s.isMarked r.id)).map Repository.id).Nodup :=
    hs.repositoryIds.sublist (List.filter_sublist.map _)
  rw [List.perm_ext_iff_of_nodup hn hs.markerIds]
  intro id
  simp only [List.mem_map, List.mem_filter]
  constructor
  · rintro ⟨r, ⟨-, hm⟩, rfl⟩
    exact isMarked_iff.1 hm
  · rintro ⟨m, hm, rfl⟩
    obtain ⟨r, hr, he⟩ := knows_iff.1 (hs.markersKnown m hm)
    exact ⟨r, ⟨hr, isMarked_iff.2 ⟨m, hm, he.symm⟩⟩, he⟩

theorem Consistent.length_repositories {s : Store} (hs : s.Consistent) :
    s.repositories.length = s.markers.length + s.countUnmined := by
  have hl := hs.marked_perm.length_eq
  simp only [List.length_map, ← List.countP_eq_length_filter] at hl
  rw [← hl, countUnmined, unmined, ← List.countP_eq_length_filter]
  simpa using List.length_eq_countP_add_countP (fun r : Repository => s.isMarked r.id)

theorem performAll_consistent (refusals : Refusals) (history : List Operation) :
    let s := (blank refusals).performAll history
    s.Consistent ∧
      s.statistics.repositories = s.statistics.mined + s.statistics.pending ∧
      s.statistics.failed ≤ s.statistics.mined := by
  intro s
  have hs : s.Consistent := (Consistent.blank refusals).performAll history
  exact ⟨hs, hs.length_repositories, List.countP_le_length⟩

end CodeSurvey.Store
