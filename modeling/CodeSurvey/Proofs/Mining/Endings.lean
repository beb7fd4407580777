import CodeSurvey.Proofs.Mining.Isolation

/-! How mining a repository ends. -/

namespace CodeSurvey

theorem Store.markers_filter_mark {s t : Store} {m : Marker} (h : s.mark m = .ok t) :
    t.markers.filter (fun row => row.repository == m.repository) = [m.row] := by
  obtain ⟨-, -, hu, -, rfl⟩ := mark_eq_ok_iff.1 h
  have hnone : s.markers.filter (fun row => row.repository == m.repository) = [] := by
    simpa [isMarked] using hu
  simp [List.filter_append, hnone, Marker.row]

namespace Mining

variable {σ : Type} {shop : Workshop σ} {removing : Bool} {r : Repository} {s : Shift σ}

inductive Reaches (shop : Workshop σ) (r : Repository) (s : Shift σ) :
    Stage → Nat → Store → Prop where
  | pending (hv : shop.verdict r s.memory = .unobtainable) : Reaches shop r s .pending 0 s.store
  | cloned (hv : shop.verdict r s.memory = .unanalyzable) : Reaches shop r s .cloned 0 s.store
  | interned {report : Text.Utf8.Bytes} {counters : Report.Counters} {elapsed : Duration}
    {recording : Store.Recording} {t : Store}
    (hv : shop.verdict r s.memory = .analyzed report counters elapsed)
    (hr : s.store.recordReport r.id report = .ok (recording, t)) :
    Reaches shop r s .interned recording.newMatches t

inductive Ends (shop : Workshop σ) (r : Repository) (s : Shift σ) : Ending → Store → Prop where
  | unrecorded {report : Text.Utf8.Bytes} {counters : Report.Counters} {elapsed : Duration}
    {e : StoreError} (hv : shop.verdict r s.memory = .analyzed report counters elapsed)
    (hr : s.store.recordReport r.id report = .error e) :
    Ends shop r s (.unmarked .analyzed (.storage e)) s.store
  | unwritten {stage : Stage} {newMatches : Nat} {t : Store} {e : StoreError}
    (h : Reaches shop r s stage newMatches t)
    (hm : t.mark (shop.marker r s.memory) = .error e) :
    Ends shop r s (.unmarked stage (.storage e)) t
  | written {stage : Stage} {newMatches : Nat} {t u : Store}
    (h : Reaches shop r s stage newMatches t) (hm : t.mark (shop.marker r s.memory) = .ok u) :
    Ends shop r s (.marked (shop.marker r s.memory) newMatches) u

section

variable {p : Prepared × Shift σ}

theorem Prepares.reaches (h : Prepares shop r s p) {marker : Marker} {newMatches : Nat}
    {stage : Stage} {copy : Option WorkingCopy} (hp : p.1 = .ready marker newMatches stage copy) :
    shop.marker r s.memory = marker ∧ Reaches shop r s stage newMatches p.2.store := by
  cases h with
  | uncloned ho =>
    obtain ⟨hv, hm⟩ := Workshop.answers_uncloned ho
    cases hp
    exact ⟨hm, .pending hv⟩
  | unanalyzed ho ha =>
    obtain ⟨hv, hm⟩ := Workshop.answers_unanalyzed ho ha
    cases hp
    exact ⟨hm, .cloned hv⟩
  | stuck ho ha hr => cases hp
  | interned ho ha hr =>
    obtain ⟨hv, hm⟩ := Workshop.answers_ran ho ha
    cases hp
    exact ⟨hm, .interned hv hr⟩

theorem Prepares.unrecorded (h : Prepares shop r s p) {e : StoreError} (hp : p.1 = .stuck e) :
    Ends shop r s (.unmarked .analyzed (.storage e)) p.2.store := by
  cases h with
  | uncloned ho => cases hp
  | unanalyzed ho ha => cases hp
  | stuck ho ha hr =>
    cases hp
    exact .unrecorded (Workshop.answers_ran ho ha).1 hr
  | interned ho ha hr => cases hp

end

theorem mineOne_ends (shop : Workshop σ) (removing : Bool) (r : Repository) (s : Shift σ) :
    Ends shop r s (mineOne shop removing r s).1 (mineOne shop removing r s).2.store := by
  rw [mineOne_eq]
  have hp := prepares shop r s
  have hc := concludes shop removing (prepare shop r s)
  generalize prepare shop r s = p at hp hc
  generalize conclude shop removing p = d at hc
  cases hc with
  | stuck hstuck => exact hp.unrecorded hstuck
  | refused hready hm =>
    obtain ⟨rfl, hreach⟩ := hp.reaches hready
    exact .unwritten hreach hm
  | kept hready hm hc =>
    obtain ⟨rfl, hreach⟩ := hp.reaches hready
    exact .written hreach hm
  | removed hready hm hr =>
    obtain ⟨rfl, hreach⟩ := hp.reaches hready
    exact .written hreach hm

variable {stage stage' : Stage} {n n' : Nat} {t t' : Store}

theorem Reaches.unique (h : Reaches shop r s stage n t) (h' : Reaches shop r s stage' n' t') :
    stage = stage' ∧ n = n' ∧ t = t' := by
  cases h with
  | pending hv =>
    cases h' with
    | pending hv' => exact ⟨rfl, rfl, rfl⟩
    | cloned hv' => simp [hv] at hv'
    | interned hv' hr' => simp [hv] at hv'
  | cloned hv =>
    cases h' with
    | pending hv' => simp [hv] at hv'
    | cloned hv' => exact ⟨rfl, rfl, rfl⟩
    | interned hv' hr' => simp [hv] at hv'
  | interned hv hr =>
    cases h' with
    | pending hv' => simp [hv] at hv'
    | cloned hv' => simp [hv] at hv'
    | interned hv' hr' =>
      cases hv.symm.trans hv'
      cases hr.symm.trans hr'
      exact ⟨rfl, rfl, rfl⟩

theorem Reaches.recordReport_ne_error {report : Text.Utf8.Bytes} {counters : Report.Counters}
    {elapsed : Duration} (h : Reaches shop r s stage n t)
    (hv : shop.verdict r s.memory = .analyzed report counters elapsed) (e : StoreError) :
    s.store.recordReport r.id report ≠ .error e := by
  intro he
  cases h with
  | pending hv' => simp [hv] at hv'
  | cloned hv' => simp [hv] at hv'
  | interned hv' hr =>
    cases hv.symm.trans hv'
    cases he.symm.trans hr

theorem Ends.unique {a b : Ending} (h : Ends shop r s a t) (h' : Ends shop r s b t') : a = b := by
  cases h with
  | unrecorded hv hr =>
    cases h' with
    | unrecorded hv' hr' =>
      cases hv.symm.trans hv'
      cases hr.symm.trans hr'
      rfl
    | unwritten hreach _ => exact absurd hr (hreach.recordReport_ne_error hv _)
    | written hreach _ => exact absurd hr (hreach.recordReport_ne_error hv _)
  | unwritten hreach hm =>
    cases h' with
    | unrecorded hv' hr' => exact absurd hr' (hreach.recordReport_ne_error hv' _)
    | unwritten hreach' hm' =>
      obtain ⟨rfl, -, rfl⟩ := hreach.unique hreach'
      cases hm.symm.trans hm'
      rfl
    | written hreach' hm' =>
      obtain ⟨-, -, rfl⟩ := hreach.unique hreach'
      cases hm.symm.trans hm'
  | written hreach hm =>
    cases h' with
    | unrecorded hv' hr' => exact absurd hr' (hreach.recordReport_ne_error hv' _)
    | unwritten hreach' hm' =>
      obtain ⟨-, -, rfl⟩ := hreach.unique hreach'
      cases hm.symm.trans hm'
    | written hreach' hm' =>
      obtain ⟨-, rfl, -⟩ := hreach.unique hreach'
      rfl

theorem Reaches.grows (h : Reaches shop r s stage n t) : s.store.ResultsGrow t := by
  cases h with
  | pending hv => exact .refl _
  | cloned hv => exact .refl _
  | interned hv hr => exact .recordReport hr

theorem Reaches.recorded (h : Reaches shop r s stage n t) :
    ∀ f ∈ (shop.verdict r s.memory).findings, (r.id, f) ∈ t.recorded := by
  cases h with
  | pending hv => simp [hv, Verdict.findings]
  | cloned hv => simp [hv, Verdict.findings]
  | interned hv hr =>
    rw [hv]
    exact Store.recordReport_recorded hr

theorem Reaches.store_of_ne (h : Reaches shop r s stage n t) (hne : stage ≠ .interned) :
    n = 0 ∧ t = s.store := by
  cases h with
  | pending hv => exact ⟨rfl, rfl⟩
  | cloned hv => exact ⟨rfl, rfl⟩
  | interned hv hr => exact absurd rfl hne

theorem Reaches.outcome (h : Reaches shop r s .interned n t)
    (hw : (shop.verdict r s.memory).Writes r (shop.marker r s.memory)) :
    (shop.marker r s.memory).outcome = .analyzed := by
  cases h with
  | interned hv hr =>
    rw [hv] at hw
    obtain ⟨-, hm⟩ := hw
    rw [hm]

structure Faithful (shop : Workshop σ) (r : Repository) (s : Shift σ) (ending : Ending)
    (t : Store) : Prop where
  marked : ∀ m n, ending = .marked m n → s.store.isMarked r.id = false ∧
    t.markers.filter (fun row => row.repository == r.id) = [m.row] ∧
      t.marker? r.id = .ok (some m)
  failed : ∀ m n, ending = .marked m n → m.outcome ≠ .analyzed →
    n = 0 ∧ t = { s.store with markers := s.store.markers ++ [m.row] }
  pending : ∀ reason, ending = .unmarked .pending reason ↔
    shop.verdict r s.memory = .unobtainable ∧
      ∃ e, s.store.mark (shop.marker r s.memory) = .error e ∧ reason = .storage e
  cloned : ∀ reason, ending = .unmarked .cloned reason ↔
    shop.verdict r s.memory = .unanalyzable ∧
      ∃ e, s.store.mark (shop.marker r s.memory) = .error e ∧ reason = .storage e
  analyzed : ∀ reason, ending = .unmarked .analyzed reason ↔
    ∃ report counters elapsed, shop.verdict r s.memory = .analyzed report counters elapsed ∧
      ∃ e, s.store.recordReport r.id report = .error e ∧ reason = .storage e
  interned : ∀ reason, ending = .unmarked .interned reason ↔
    ∃ report counters elapsed, shop.verdict r s.memory = .analyzed report counters elapsed ∧
      ∃ recording u, s.store.recordReport r.id report = .ok (recording, u) ∧
        ∃ e, u.mark (shop.marker r s.memory) = .error e ∧ reason = .storage e
  neverMarked : ∀ reason, ending ≠ .unmarked .marked reason
  untouched : ∀ stage reason, ending = .unmarked stage reason → stage ≠ .interned → t = s.store
  recorded : ∀ reason, ending = .unmarked .interned reason →
    s.store.ResultsGrow t ∧ ∀ f ∈ (shop.verdict r s.memory).findings, (r.id, f) ∈ t.recorded

theorem Ends.faithful {ending : Ending} (h : Ends shop r s ending t)
    (hw : (shop.verdict r s.memory).Writes r (shop.marker r s.memory)) :
    Faithful shop r s ending t where
  marked := by
    rintro m n rfl
    cases h with
    | written hreach hm =>
      have hu := (Store.mark_eq_ok_iff.1 hm).2.2.1
      have hrows := Store.markers_filter_mark hm
      have hread : t.marker? (shop.marker r s.memory).repository =
          .ok (some (shop.marker r s.memory)) := by
        rw [Store.marker?_mark hm, hw.stored]
      rw [hw.repository] at hu hrows hread
      exact ⟨hreach.grows.isMarked r.id ▸ hu, hrows, hread⟩
  failed := by
    rintro m n rfl hfailed
    cases h with
    | @written stage _ u _ hreach hm =>
      have hne : stage ≠ .interned := by
        rintro rfl
        exact hfailed (hreach.outcome hw)
      obtain ⟨rfl, rfl⟩ := hreach.store_of_ne hne
      exact ⟨rfl, (Store.mark_eq_ok_iff.1 hm).2.2.2.2⟩
  pending := by
    intro reason
    constructor
    · rintro rfl
      cases h with
      | unwritten hreach hm =>
        cases hreach with
        | pending hv => exact ⟨hv, _, hm, rfl⟩
    · rintro ⟨hv, e, hm, rfl⟩
      exact h.unique (.unwritten (.pending hv) hm)
  cloned := by
    intro reason
    constructor
    · rintro rfl
      cases h with
      | unwritten hreach hm =>
        cases hreach with
        | cloned hv => exact ⟨hv, _, hm, rfl⟩
    · rintro ⟨hv, e, hm, rfl⟩
      exact h.unique (.unwritten (.cloned hv) hm)
  analyzed := by
    intro reason
    constructor
    · rintro rfl
      cases h with
      | unrecorded hv hr => exact ⟨_, _, _, hv, _, hr, rfl⟩
      | unwritten hreach hm => cases hreach
    · rintro ⟨report, counters, elapsed, hv, e, hr, rfl⟩
      exact h.unique (.unrecorded hv hr)
  interned := by
    intro reason
    constructor
    · rintro rfl
      cases h with
      | unwritten hreach hm =>
        cases hreach with
        | interned hv hr => exact ⟨_, _, _, hv, _, _, hr, _, hm, rfl⟩
    · rintro ⟨report, counters, elapsed, hv, recording, u, hr, e, hm, rfl⟩
      exact h.unique (.unwritten (.interned hv hr) hm)
  neverMarked := by
    rintro reason rfl
    cases h with
    | unwritten hreach hm => cases hreach
  untouched := by
    rintro stage reason rfl hne
    cases h with
    | unrecorded hv hr => rfl
    | unwritten hreach hm => exact (hreach.store_of_ne hne).2
  recorded := by
    rintro reason rfl
    cases h with
    | unwritten hreach hm => exact ⟨hreach.grows, hreach.recorded⟩

theorem mineOne_faithful (shop : Workshop σ) (hshop : shop.KeepsTime) (removing : Bool)
    (r : Repository) (s : Shift σ) :
    Faithful shop r s (mineOne shop removing r s).1 (mineOne shop removing r s).2.store :=
  (mineOne_ends shop removing r s).faithful (hshop.writes r s.memory)

def threeRefused : Shift Nat where
  store := (Store.blank ⟨fun _ => false, fun m => m.repository == 3, .refused⟩).performAll
    [.insert [⟨3, "c/three", "u3", 40⟩, ⟨1, "a/one", "u1", 30⟩]]
  memory := 0
  calls := []

theorem mineOne_faithful_threeRefused :
    let stuck := mineOne growingTired true ⟨3, "c/three", "u3", 40⟩ threeRefused
    let failed := mineOne growingTired true ⟨1, "a/one", "u1", 30⟩ threeRefused
    stuck.1 = .unmarked .interned (.storage .refused) ∧
      stuck.2.store.markers = threeRefused.store.markers ∧
      (∀ f ∈ Report.parse threeReport, (3, f) ∈ stuck.2.store.recorded) ∧
      failed.1 = .marked (.failed 1 .cloneFailed .zero) 0 ∧
      failed.2.store = { threeRefused.store with
        markers := [(Marker.failed 1 .cloneFailed .zero).row] } := by
  intro stuck failed
  have hstuck : stuck.1 = .unmarked .interned (.storage .refused) := by decide +kernel
  have hfailed : failed.1 = .marked (.failed 1 .cloneFailed .zero) 0 := by decide +kernel
  obtain ⟨hgrows, hrecorded⟩ :=
    (mineOne_faithful growingTired growingTired_keepsTime true ⟨3, "c/three", "u3", 40⟩
      threeRefused).recorded _ hstuck
  have hstore := ((mineOne_faithful growingTired growingTired_keepsTime true
    ⟨1, "a/one", "u1", 30⟩ threeRefused).failed _ _ hfailed (by decide)).2
  exact ⟨hstuck, hgrows.markers, hrecorded, hfailed, hstore⟩

end Mining

end CodeSurvey
