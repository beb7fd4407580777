import CodeSurvey.Proofs.Mining.Endings
import CodeSurvey.Proofs.Store.History

/-! The summary of a run and the statistics of its store. -/

namespace CodeSurvey

theorem Marker.row_saysAnalyzed (m : Marker) : m.row.saysAnalyzed = !m.outcome.isFailure := by
  simp only [MarkerRow.saysAnalyzed, Marker.row]
  generalize m.outcome = outcome
  cases outcome <;> decide

namespace Store

variable {s t : Store}

theorem ResultsGrow.countUnmined (h : s.ResultsGrow t) : t.countUnmined = s.countUnmined := by
  simp only [Store.countUnmined, unmined, h.repositories, h.isMarked]

theorem statistics_mark (hs : s.Consistent) {m : Marker} (h : s.mark m = .ok t) :
    s.statistics.pending = t.statistics.pending + 1 ∧
      t.statistics = { s.statistics with
        mined := s.statistics.mined + 1
        failed := s.statistics.failed + if m.outcome.isFailure then 1 else 0
        pending := t.statistics.pending } := by
  have hbefore := hs.length_repositories
  have hafter := (hs.mark h).length_repositories
  rw [mark_repositories h] at hafter
  obtain ⟨-, -, -, -, rfl⟩ := mark_eq_ok_iff.1 h
  rw [List.length_append, List.length_singleton] at hafter
  constructor
  · simp only [statistics]
    omega
  · simp only [statistics, List.length_append, List.length_singleton, List.countP_append,
      List.countP_singleton, m.row_saysAnalyzed, Bool.not_not]

end Store

namespace Mining

structure Accounts (before after : Statistics) (summary : Summary) : Prop where
  processed : summary.processed =
    summary.analyzed + summary.cloneFailures + summary.analyzerFailures + summary.unmarked
  mined : after.mined =
    before.mined + (summary.analyzed + summary.cloneFailures + summary.analyzerFailures)
  failed : after.failed = before.failed + (summary.cloneFailures + summary.analyzerFailures)
  pending : before.pending = after.pending + (summary.processed - summary.unmarked)
  repositories : after.repositories = before.repositories
  files : before.files ≤ after.files
  recorded : before.recorded ≤ after.recorded

namespace Accounts

variable {before : Statistics} {summary : Summary} {s t : Store}

theorem zero (before : Statistics) : Accounts before before .zero :=
  ⟨rfl, rfl, rfl, rfl, rfl, Nat.le_refl _, Nat.le_refl _⟩

theorem grows (h : Accounts before s.statistics summary) (hgrow : s.ResultsGrow t) :
    Accounts before t.statistics summary where
  processed := h.processed
  mined := by
    have hmined : t.statistics.mined = s.statistics.mined :=
      congrArg List.length hgrow.markers
    rw [hmined, h.mined]
  failed := by
    have hfailed : t.statistics.failed = s.statistics.failed := by
      simp only [Store.statistics, hgrow.markers]
    rw [hfailed, h.failed]
  pending := by
    have hpending : t.statistics.pending = s.statistics.pending := hgrow.countUnmined
    rw [hpending, h.pending]
  repositories := by
    have hrepositories : t.statistics.repositories = s.statistics.repositories :=
      congrArg List.length hgrow.repositories
    rw [hrepositories, h.repositories]
  files := h.files.trans hgrow.files.length_le
  recorded := h.recorded.trans hgrow.matchRows.length_le

theorem unmarked (h : Accounts before s.statistics summary) (stage : Stage) (reason : Fault) :
    Accounts before s.statistics (summary.record (.unmarked stage reason)) := by
  have hprocessed := h.processed
  have hpending := h.pending
  refine ⟨?_, h.mined, h.failed, ?_, h.repositories, h.files, h.recorded⟩
  · simp only [Summary.record]
    omega
  · simp only [Summary.record]
    omega

theorem marked (h : Accounts before s.statistics summary) (hs : s.Consistent) {m : Marker}
    (hm : s.mark m = .ok t) (newMatches : Nat) :
    Accounts before t.statistics (summary.record (.marked m newMatches)) := by
  obtain ⟨hmoved, hstatistics⟩ := Store.statistics_mark hs hm
  obtain ⟨hprocessed, hmined, hfailed, hpending, hrepositories, hfiles, hrecorded⟩ := h
  rw [hstatistics]
  cases ho : m.outcome <;> constructor <;>
    simp only [Summary.record, ho, Outcome.isFailure, if_true, Bool.false_eq_true, if_false] <;>
    omega

end Accounts

variable {σ : Type} {shop : Workshop σ} {removing : Bool} {r : Repository} {s : Shift σ}
  {before : Statistics} {summary : Summary}

theorem Reaches.consistent {stage : Stage} {n : Nat} {t : Store} (h : Reaches shop r s stage n t)
    (hs : s.store.Consistent) : t.Consistent := by
  cases h with
  | pending hv => exact hs
  | cloned hv => exact hs
  | interned hv hr => exact hs.recordReport hr

theorem Ends.accounts {ending : Ending} {t : Store} (h : Ends shop r s ending t)
    (hs : s.store.Consistent) (ha : Accounts before s.store.statistics summary) :
    Accounts before t.statistics (summary.record ending) := by
  cases h with
  | unrecorded hv hr => exact ha.unmarked _ _
  | unwritten hreach hm => exact (ha.grows hreach.grows).unmarked _ _
  | written hreach hm => exact (ha.grows hreach.grows).marked (hreach.consistent hs) hm _

theorem mineAll_accounts {rs : List Repository} (hs : s.store.Consistent)
    (ha : Accounts before s.store.statistics summary) :
    Accounts before (mineAll shop removing rs summary s).2.store.statistics
      (mineAll shop removing rs summary s).1 := by
  induction rs generalizing summary s with
  | nil => exact ha
  | cons r rs ih =>
    have hends := mineOne_ends shop removing r s
    exact ih (mineOne_consistent shop removing r hs) (hends.accounts hs ha)

theorem run_accounts (shop : Workshop σ) (removing : Bool) (s : Shift σ)
    (hs : s.store.Consistent) :
    Accounts s.store.statistics (run shop removing s).2.store.statistics
      (run shop removing s).1 := by
  rw [run_eq_mineAll hs]
  exact mineAll_accounts hs (.zero _)

def sevenListed : Store :=
  (Store.blank ⟨fun _ => false, fun m => decide (4 ≤ m.repository ∧ m.repository < 7),
    .refused⟩).performAll
    [.insert [⟨7, "a/seven", "u7", 90⟩, ⟨6, "c/three", "u6", 80⟩, ⟨5, "b/two", "u5", 70⟩,
      ⟨4, "a/one", "u4", 60⟩, ⟨3, "c/three", "u3", 50⟩, ⟨2, "b/two", "u2", 40⟩,
      ⟨1, "a/one", "u1", 30⟩], .mark ⟨7, 0, 0, .zero, .cloneFailed⟩]

theorem run_accounts_sevenListed :
    let ran := run growingTired true ⟨sevenListed, 0, []⟩
    sevenListed.statistics = ⟨7, 1, 1, 6, 0, 0⟩ ∧ ran.1 = ⟨6, 1, 1, 1, 3, 2⟩ ∧
      ran.2.store.statistics.mined = 4 ∧ ran.2.store.statistics.failed = 3 ∧
      6 = ran.2.store.statistics.pending + 3 ∧ ran.2.store.statistics.repositories = 7 := by
  intro ran
  have hs : sevenListed.Consistent := (Store.Consistent.blank _).performAll _
  have hbefore : sevenListed.statistics = ⟨7, 1, 1, 6, 0, 0⟩ := by decide +kernel
  have hran : ran.1 = ⟨6, 1, 1, 1, 3, 2⟩ := by decide +kernel
  have h : Accounts sevenListed.statistics ran.2.store.statistics ran.1 :=
    run_accounts growingTired true ⟨sevenListed, 0, []⟩ hs
  rw [hbefore, hran] at h
  exact ⟨hbefore, hran, h.mined, h.failed, h.pending, h.repositories⟩

end Mining

end CodeSurvey
