import CodeSurvey.Proofs.Mining.Pass
import CodeSurvey.Proofs.Number.Elapsed

/-! Workshops whose answer for a repository is always the same, and what mining then makes of it. -/

namespace CodeSurvey

def MarkerRow.lasting (row : MarkerRow) : MarkerRow :=
  if row.outcome = Outcome.analyzerFailed.text then { row with elapsed := .zero } else row

namespace Mining

inductive Verdict where
  | unobtainable
  | unanalyzable
  | analyzed (report : Text.Utf8.Bytes) (counters : Report.Counters) (elapsed : Duration)

namespace Verdict

def findings : Verdict → List Finding
  | .analyzed report _ _ => Report.parse report
  | _ => []

/-- The markers that a repository may get. How long a failing analyzer takes is left open. -/
def Writes (v : Verdict) (r : Repository) (marker : Marker) : Prop :=
  match v with
  | .unobtainable => marker = .failed r.id .cloneFailed .zero
  | .unanalyzable => ∃ d : Duration, d.nanos < Duration.limit ∧
      marker = .failed r.id .analyzerFailed d.elapsed
  | .analyzed _ counters elapsed => elapsed.nanos < Duration.limit ∧
      marker = ⟨r.id, counters.successful, counters.errors, elapsed.elapsed, .analyzed⟩

def row (v : Verdict) (r : Repository) : MarkerRow :=
  match v with
  | .unobtainable => (Marker.failed r.id .cloneFailed .zero).row
  | .unanalyzable => (Marker.failed r.id .analyzerFailed .zero).row
  | .analyzed _ counters elapsed =>
    (Marker.mk r.id counters.successful counters.errors elapsed.elapsed .analyzed).row

variable {v : Verdict} {r : Repository} {marker : Marker}

theorem Writes.repository (h : v.Writes r marker) : marker.repository = r.id := by
  cases v with
  | unobtainable => cases h; rfl
  | unanalyzable => obtain ⟨d, -, rfl⟩ := h; rfl
  | analyzed report counters elapsed => obtain ⟨-, rfl⟩ := h; rfl

theorem Writes.elapsed_lt (h : v.Writes r marker) :
    marker.elapsed.bits.toNat < 2047 * 2 ^ 52 := by
  cases v with
  | unobtainable =>
    cases h
    exact (by decide : Elapsed.zero.bits.toNat < 2047 * 2 ^ 52)
  | unanalyzable =>
    obtain ⟨d, hd, rfl⟩ := h
    exact Duration.elapsed_bits_lt hd
  | analyzed report counters elapsed =>
    obtain ⟨hd, rfl⟩ := h
    exact Duration.elapsed_bits_lt hd

theorem Writes.isNaN (h : v.Writes r marker) : marker.elapsed.isNaN = false :=
  Elapsed.isNaN_of_lt h.elapsed_lt

theorem Writes.stored (h : v.Writes r marker) : marker.elapsed.stored = marker.elapsed :=
  Elapsed.stored_of_lt h.elapsed_lt

theorem Writes.lasting (h : v.Writes r marker) : marker.row.lasting = v.row r := by
  cases v with
  | unobtainable => cases h; rfl
  | unanalyzable => obtain ⟨d, -, rfl⟩ := h; rfl
  | analyzed report counters elapsed => obtain ⟨-, rfl⟩ := h; rfl

end Verdict

variable {σ : Type}

def Workshop.Gives (shop : Workshop σ) (r : Repository) : Verdict → Prop
  | .unobtainable => ∀ m, ∃ e, (shop.obtain r.cloneUrl r.name m).1 = .error e
  | .unanalyzable => ∀ m, ∃ copy, (shop.obtain r.cloneUrl r.name m).1 = .ok copy ∧
      ∀ m', ∃ failure, (shop.analyze copy.path (toString r.id) m').1 = .error failure ∧
        failure.elapsed.nanos < Duration.limit
  | .analyzed report counters elapsed => elapsed.nanos < Duration.limit ∧
      ∀ m, ∃ copy, (shop.obtain r.cloneUrl r.name m).1 = .ok copy ∧
        ∀ m', ∃ run, (shop.analyze copy.path (toString r.id) m').1 = .ok run ∧
          run.report = report ∧ run.counters = counters ∧ run.elapsed = elapsed

def Workshop.verdict (shop : Workshop σ) (r : Repository) (m : σ) : Verdict :=
  match shop.obtain r.cloneUrl r.name m with
  | (.error _, _) => .unobtainable
  | (.ok copy, m) =>
    match shop.analyze copy.path (toString r.id) m with
    | (.error _, _) => .unanalyzable
    | (.ok run, _) => .analyzed run.report run.counters run.elapsed

def Workshop.marker (shop : Workshop σ) (r : Repository) (m : σ) : Marker :=
  match shop.obtain r.cloneUrl r.name m with
  | (.error _, _) => .failed r.id .cloneFailed .zero
  | (.ok copy, m) =>
    match shop.analyze copy.path (toString r.id) m with
    | (.error failure, _) => .failed r.id .analyzerFailed failure.elapsed.elapsed
    | (.ok run, _) => markerOf r run

variable {shop : Workshop σ} {r : Repository} {v : Verdict} {m m' : σ}

theorem Workshop.answers_uncloned {e : Fault}
    (ho : shop.obtain r.cloneUrl r.name m = (.error e, m')) :
    shop.verdict r m = .unobtainable ∧ shop.marker r m = .failed r.id .cloneFailed .zero := by
  simp only [verdict, marker, ho, and_self]

theorem Workshop.answers_unanalyzed {copy : WorkingCopy} {failure : AnalyzerFailure} {m'' : σ}
    (ho : shop.obtain r.cloneUrl r.name m = (.ok copy, m'))
    (ha : shop.analyze copy.path (toString r.id) m' = (.error failure, m'')) :
    shop.verdict r m = .unanalyzable ∧
      shop.marker r m = .failed r.id .analyzerFailed failure.elapsed.elapsed := by
  simp only [verdict, marker, ho, ha, and_self]

theorem Workshop.answers_ran {copy : WorkingCopy} {run : AnalyzerRun} {m'' : σ}
    (ho : shop.obtain r.cloneUrl r.name m = (.ok copy, m'))
    (ha : shop.analyze copy.path (toString r.id) m' = (.ok run, m'')) :
    shop.verdict r m = .analyzed run.report run.counters run.elapsed ∧
      shop.marker r m = markerOf r run := by
  simp only [verdict, marker, ho, ha, and_self]

theorem Workshop.Gives.answers (h : shop.Gives r v) (m : σ) :
    shop.verdict r m = v ∧ v.Writes r (shop.marker r m) := by
  cases v with
  | unobtainable =>
    obtain ⟨e, he⟩ := h m
    exact answers_uncloned (Prod.ext he rfl)
  | unanalyzable =>
    obtain ⟨copy, hc, hfails⟩ := h m
    obtain ⟨failure, hf, hlt⟩ := hfails (shop.obtain r.cloneUrl r.name m).2
    obtain ⟨hv, hm⟩ := answers_unanalyzed (Prod.ext hc rfl) (Prod.ext hf rfl)
    exact ⟨hv, _, hlt, hm⟩
  | analyzed report counters elapsed =>
    obtain ⟨hlt, hgives⟩ := h
    obtain ⟨copy, hc, hruns⟩ := hgives m
    obtain ⟨run, hr, rfl, rfl, rfl⟩ := hruns (shop.obtain r.cloneUrl r.name m).2
    obtain ⟨hv, hm⟩ := answers_ran (Prod.ext hc rfl) (Prod.ext hr rfl)
    exact ⟨hv, hlt, hm⟩

theorem Prepares.answers {s : Shift σ} {p : Prepared × Shift σ} (h : Prepares shop r s p)
    (hs : s.store.Consistent) (hk : s.store.knows r.id = true) :
    (∃ newMatches stage copy, p.1 = .ready (shop.marker r s.memory) newMatches stage copy) ∧
      p.2.store.paths =
        s.store.paths ∪ Store.attributedPaths r.id (shop.verdict r s.memory).findings ∧
      p.2.store.recorded =
        s.store.recorded ∪ Store.attributed r.id (shop.verdict r s.memory).findings := by
  have hpaths : ∀ x : Set (Int × String), x = x ∪ Store.attributedPaths r.id [] := by
    intro x
    simp [Store.attributedPaths]
  have hrec : ∀ x : Set (Int × Finding), x = x ∪ Store.attributed r.id [] := by
    intro x
    simp [Store.attributed]
  cases h with
  | uncloned ho =>
    obtain ⟨hv, hm⟩ := Workshop.answers_uncloned ho
    rw [hv, hm]
    exact ⟨⟨_, _, _, rfl⟩, hpaths _, hrec _⟩
  | unanalyzed ho ha =>
    obtain ⟨hv, hm⟩ := Workshop.answers_unanalyzed ho ha
    rw [hv, hm]
    exact ⟨⟨_, _, _, rfl⟩, hpaths _, hrec _⟩
  | @stuck copy run _ _ e ho ha hr =>
    obtain ⟨recording, t, ht, -⟩ := Store.recordReport_spec hs hk run.report
    simp [ht] at hr
  | @interned copy run _ _ recording store ho ha hr =>
    obtain ⟨hv, hm⟩ := Workshop.answers_ran ho ha
    obtain ⟨recording', t, ht, hp, hf⟩ := Store.recordReport_spec hs hk run.report
    rw [ht] at hr
    cases hr
    rw [hv, hm]
    exact ⟨⟨_, _, _, rfl⟩, hp, hf⟩

theorem Prepares.mark {s : Shift σ} {p : Prepared × Shift σ} (h : Prepares shop r s p)
    (hk : s.store.knows r.id = true) (hu : s.store.isMarked r.id = false) {marker : Marker}
    (hw : v.Writes r marker) (ha : s.store.refusals.marker marker = false) :
    p.2.store.mark marker =
      .ok { p.2.store with markers := p.2.store.markers ++ [marker.row] } := by
  refine Store.mark_eq_ok_iff.2 ⟨?_, hw.isNaN, ?_, ?_, rfl⟩
  · rw [h.grows.refusals]
    exact ha
  · rw [h.grows.isMarked, hw.repository]
    exact hu
  · rw [h.grows.knows, hw.repository]
    exact hk

theorem Prepares.verdict {s : Shift σ} {p : Prepared × Shift σ} (h : Prepares shop r s p)
    (hv : shop.Gives r v) (hs : s.store.Consistent) (hk : s.store.knows r.id = true) :
    (∃ marker newMatches stage copy, p.1 = .ready marker newMatches stage copy ∧
      v.Writes r marker) ∧
      p.2.store.paths = s.store.paths ∪ Store.attributedPaths r.id v.findings ∧
      p.2.store.recorded = s.store.recorded ∪ Store.attributed r.id v.findings := by
  obtain ⟨⟨newMatches, stage, copy, hready⟩, hpaths, hrec⟩ := h.answers hs hk
  obtain ⟨hverdict, hw⟩ := hv.answers s.memory
  rw [hverdict] at hpaths hrec
  exact ⟨⟨_, _, _, _, hready, hw⟩, hpaths, hrec⟩

end Mining

end CodeSurvey
