import CodeSurvey.Proofs.Mining.Verdict
import CodeSurvey.Proofs.Store.History

/-! A mining run that is cut between transactions and started again comes to the same. -/

namespace CodeSurvey

/-- All that a store holds, the ids of file and match rows and lost times apart. -/
@[ext]
structure Account where
  repositories : List Repository
  markers : Set MarkerRow
  paths : Set (Int × String)
  findings : Set (Int × Finding)

namespace Store

def account (s : Store) : Account where
  repositories := s.repositories
  markers := {m | ∃ row ∈ s.markers, row.lasting = m}
  paths := s.paths
  findings := s.recorded

end Store

namespace Mining

def pending {β : Type} (queue : List Repository) (gives : Repository → Set β) : Set β :=
  {x | ∃ r ∈ queue, x ∈ gives r}

def outlook (verdict : Repository → Verdict) (s : Store) : Account where
  repositories := s.repositories
  markers := s.account.markers ∪ pending (s.queueAfter none) (fun r => {(verdict r).row r})
  paths := s.paths ∪ pending (s.queueAfter none)
    (fun r => Store.attributedPaths r.id (verdict r).findings)
  findings := s.recorded ∪ pending (s.queueAfter none)
    (fun r => Store.attributed r.id (verdict r).findings)

theorem union_pending {β : Type} {queue rest : List Repository} {r : Repository}
    (h : ∀ q, q ∈ queue ↔ q = r ∨ q ∈ rest) (held : Set β) (gives : Repository → Set β) :
    held ∪ gives r ∪ pending rest gives = held ∪ pending queue gives := by
  ext x
  simp only [Set.mem_union, pending, Set.mem_ofPred_eq]
  constructor
  · rintro ((hx | hx) | ⟨q, hq, hx⟩)
    · exact Or.inl hx
    · exact Or.inr ⟨r, (h r).2 (Or.inl rfl), hx⟩
    · exact Or.inr ⟨q, (h q).2 (Or.inr hq), hx⟩
  · rintro (hx | ⟨q, hq, hx⟩)
    · exact Or.inl (Or.inl hx)
    · rcases (h q).1 hq with rfl | hq
      · exact Or.inl (Or.inr hx)
      · exact Or.inr ⟨q, hq, hx⟩

variable {σ : Type} (shop : Workshop σ)

/-- The stores that a run leaves behind when it is cut between two transactions. -/
inductive Cut (removing : Bool) : Option Int → Shift σ → Store → Prop where
  | before {after : Option Int} {s : Shift σ} : Cut removing after s s.store
  | beforeMarker {after : Option Int} {s : Shift σ} {r : Repository}
    (hr : s.store.nextUnminedAfter after = some r) :
    Cut removing after s (prepare shop r s).2.store
  | later {after : Option Int} {s : Shift σ} {r : Repository} {t : Store}
    (hr : s.store.nextUnminedAfter after = some r)
    (ht : Cut removing (some r.id) (mineOne shop removing r s).2 t) : Cut removing after s t

/-- Any number of runs one after the other, each of them cut. What the workshop remembers, and
whether copies are removed, may change from one to the next. -/
inductive Interrupted (s : Store) : Store → Prop where
  | never : Interrupted s s
  | again {t u : Store} {removing : Bool} {memory : σ} (h : Interrupted s t)
    (hu : Cut shop removing none ⟨t, memory, []⟩ u) : Interrupted s u

structure Unhindered (verdict : Repository → Verdict) (s : Store) : Prop where
  consistent : s.Consistent
  gives : ∀ r ∈ s.repositories, shop.Gives r (verdict r)
  accepts : ∀ r ∈ s.repositories, ∀ marker, (verdict r).Writes r marker →
    s.refusals.marker marker = false

variable {shop} {verdict : Repository → Verdict} {s : Shift σ} {r : Repository}

theorem Unhindered.prepare (hs : Unhindered shop verdict s.store) :
    Unhindered shop verdict (prepare shop r s).2.store := by
  have hp := prepares shop r s
  refine ⟨hp.consistent hs.consistent, ?_, ?_⟩
  · rw [hp.grows.repositories]
    exact hs.gives
  · rw [hp.grows.repositories, hp.grows.refusals]
    exact hs.accepts

theorem Unhindered.mineOne (removing : Bool) (hs : Unhindered shop verdict s.store) :
    Unhindered shop verdict (mineOne shop removing r s).2.store := by
  refine ⟨mineOne_consistent shop removing r hs.consistent, ?_, ?_⟩
  · simpa using hs.gives
  · simpa using hs.accepts

theorem outlook_eq_account {s : Store} (h : s.queueAfter none = []) :
    outlook verdict s = s.account := by
  ext1 <;> simp [outlook, h, pending, Store.account]

/-- What a repository of the queue has to give may be held in advance, and it may leave the queue
once it is held. -/
theorem outlook_eq_of_held {s t : Store} (hrep : t.repositories = s.repositories)
    (hq : ∀ q, q ∈ s.queueAfter none ↔ q = r ∨ q ∈ t.queueAfter none)
    (hmarkers : (outlook verdict t).markers = (outlook verdict s).markers)
    (hpaths : t.paths = s.paths ∪ Store.attributedPaths r.id (verdict r).findings)
    (hrec : t.recorded = s.recorded ∪ Store.attributed r.id (verdict r).findings) :
    outlook verdict t = outlook verdict s := by
  ext1
  · exact hrep
  · exact hmarkers
  · simp only [outlook, hpaths]
    exact union_pending hq s.paths (fun q => Store.attributedPaths q.id (verdict q).findings)
  · simp only [outlook, hrec]
    exact union_pending hq s.recorded (fun q => Store.attributed q.id (verdict q).findings)

theorem outlook_prepare (hs : Unhindered shop verdict s.store)
    (hr : r ∈ s.store.queueAfter none) :
    outlook verdict (prepare shop r s).2.store = outlook verdict s.store := by
  have hp := prepares shop r s
  have hv := hs.gives r (Store.mem_queueAfter.1 hr).1.1
  obtain ⟨-, hpaths, hrec⟩ := hp.verdict hv hs.consistent (Store.knows_of_mem_queueAfter hr)
  have hq : (prepare shop r s).2.store.queueAfter none = s.store.queueAfter none := by
    simp only [Store.queueAfter, Store.unmined, hp.grows.repositories, hp.grows.isMarked]
  refine outlook_eq_of_held hp.grows.repositories ?_ ?_ hpaths hrec
  · intro q
    rw [hq]
    constructor
    · exact Or.inr
    · rintro (rfl | hmem)
      · exact hr
      · exact hmem
  · simp only [outlook, Store.account, hp.grows.markers, hq]

theorem mineOne_marks (removing : Bool) (hs : Unhindered shop verdict s.store)
    (hr : r ∈ s.store.queueAfter none) :
    ∃ marker, (verdict r).Writes r marker ∧
      (prepare shop r s).2.store.mark marker = .ok (mineOne shop removing r s).2.store := by
  have hp := prepares shop r s
  obtain ⟨⟨hrep, hu⟩, -⟩ := Store.mem_queueAfter.1 hr
  obtain ⟨⟨marker, _, _, _, hready, hw⟩, -⟩ :=
    hp.verdict (hs.gives r hrep) hs.consistent (Store.knows_of_mem_queueAfter hr)
  have hm := hp.mark (Store.knows_of_mem_queueAfter hr) hu hw (hs.accepts r hrep marker hw)
  refine ⟨marker, hw, ?_⟩
  rw [mineOne_eq, (concludes shop removing (prepare shop r s)).store_of_mark hready hm]
  exact hm

theorem mineOne_isMarked_self (removing : Bool) (hs : Unhindered shop verdict s.store)
    (hr : r ∈ s.store.queueAfter none) :
    (mineOne shop removing r s).2.store.isMarked r.id = true := by
  obtain ⟨marker, hw, hm⟩ := mineOne_marks removing hs hr
  rw [← hw.repository]
  exact Store.isMarked_of_mark hm

theorem mem_queueAfter_mineOne (removing : Bool) (hs : Unhindered shop verdict s.store)
    (hr : r ∈ s.store.queueAfter none) (q : Repository) :
    q ∈ s.store.queueAfter none ↔
      q = r ∨ q ∈ (mineOne shop removing r s).2.store.queueAfter none := by
  constructor
  · intro hq
    by_cases he : q = r
    · exact Or.inl he
    obtain ⟨⟨hrep, hu⟩, hid⟩ := Store.mem_queueAfter.1 hq
    have hne : q.id ≠ r.id := fun h =>
      he (hs.consistent.repository_unique hrep (Store.mem_queueAfter.1 hr).1.1 h)
    refine Or.inr (Store.mem_queueAfter.2 ⟨⟨?_, ?_⟩, hid⟩)
    · simpa using hrep
    · rw [mineOne_isMarked shop removing s hne]
      exact hu
  · rintro (rfl | hq)
    · exact hr
    obtain ⟨⟨hrep, hu⟩, hid⟩ := Store.mem_queueAfter.1 hq
    have hne : q.id ≠ r.id := by
      intro he
      rw [he, mineOne_isMarked_self removing hs hr] at hu
      cases hu
    rw [mineOne_repositories] at hrep
    rw [mineOne_isMarked shop removing s hne] at hu
    exact Store.mem_queueAfter.2 ⟨⟨hrep, hu⟩, hid⟩

theorem outlook_mineOne (removing : Bool) (hs : Unhindered shop verdict s.store)
    (hr : r ∈ s.store.queueAfter none) :
    outlook verdict (mineOne shop removing r s).2.store = outlook verdict s.store := by
  have hp := prepares shop r s
  have hv := hs.gives r (Store.mem_queueAfter.1 hr).1.1
  obtain ⟨-, hpaths, hrec⟩ := hp.verdict hv hs.consistent (Store.knows_of_mem_queueAfter hr)
  obtain ⟨marker, hw, hm⟩ := mineOne_marks removing hs hr
  have hq := mem_queueAfter_mineOne removing hs hr
  have hstore := (Store.mark_eq_ok_iff.1 hm).2.2.2.2
  have hmarkers : (mineOne shop removing r s).2.store.account.markers =
      s.store.account.markers ∪ {(verdict r).row r} := by
    rw [hstore]
    ext x
    simp only [Store.account, hp.grows.markers, Set.mem_union, Set.mem_ofPred_eq,
      List.mem_append, List.mem_singleton, Set.mem_singleton_iff, ← hw.lasting]
    constructor
    · rintro ⟨row, hrow | rfl, rfl⟩
      · exact Or.inl ⟨row, hrow, rfl⟩
      · exact Or.inr rfl
    · rintro (⟨row, hrow, rfl⟩ | rfl)
      · exact ⟨row, Or.inl hrow, rfl⟩
      · exact ⟨marker.row, Or.inr rfl, rfl⟩
  have hpaths' : (mineOne shop removing r s).2.store.paths =
      s.store.paths ∪ Store.attributedPaths r.id (verdict r).findings := by
    rw [← hpaths, hstore]
    rfl
  have hrec' : (mineOne shop removing r s).2.store.recorded =
      s.store.recorded ∪ Store.attributed r.id (verdict r).findings := by
    rw [← hrec, hstore]
    rfl
  refine outlook_eq_of_held (mineOne_repositories shop removing r s) hq ?_ hpaths' hrec'
  simp only [outlook, hmarkers]
  exact union_pending hq s.store.account.markers (fun q => {(verdict q).row q})

theorem mem_queueAfter_of_next {s : Store} {after : Option Int}
    (ha : Text.Numeral.minInt64 ≤ after.getD Text.Numeral.minInt64)
    (hr : s.nextUnminedAfter after = some r) : r ∈ s.queueAfter none := by
  obtain ⟨hrep, hu, hid⟩ := Store.nextUnminedAfter_mem hr
  refine Store.mem_queueAfter.2 ⟨⟨hrep, hu⟩, ?_⟩
  rw [Option.getD_none]
  omega

theorem Cut.outlook_eq {removing : Bool} {after : Option Int} {t : Store}
    (h : Cut shop removing after s t)
    (ha : Text.Numeral.minInt64 ≤ after.getD Text.Numeral.minInt64)
    (hs : Unhindered shop verdict s.store) :
    Unhindered shop verdict t ∧ outlook verdict t = outlook verdict s.store := by
  induction h with
  | before => exact ⟨hs, rfl⟩
  | beforeMarker hr => exact ⟨hs.prepare, outlook_prepare hs (mem_queueAfter_of_next ha hr)⟩
  | later hr ht ih =>
    have hq := mem_queueAfter_of_next ha hr
    have hid := (Store.mem_queueAfter.1 hq).2
    rw [Option.getD_none] at hid
    obtain ⟨hu, ho⟩ := ih hid.le (hs.mineOne removing)
    exact ⟨hu, ho.trans (outlook_mineOne removing hs hq)⟩

theorem Interrupted.outlook_eq {s t : Store} (h : Interrupted shop s t)
    (hs : Unhindered shop verdict s) :
    Unhindered shop verdict t ∧ outlook verdict t = outlook verdict s := by
  induction h with
  | never => exact ⟨hs, rfl⟩
  | again ht hu ih =>
    obtain ⟨ht', ho⟩ := ih
    obtain ⟨hu', ho'⟩ := hu.outlook_eq (Int.le_refl _) ht'
    exact ⟨hu', ho'.trans ho⟩

theorem mineAll_account {removing : Bool} {rs : List Repository} {summary : Summary}
    (ha : rs.Pairwise (fun a b => a.id < b.id)) (hs : Unhindered shop verdict s.store)
    (hq : ∀ q, q ∈ s.store.queueAfter none ↔ q ∈ rs) :
    (mineAll shop removing rs summary s).2.store.account = outlook verdict s.store := by
  induction rs generalizing summary s with
  | nil =>
    have hnil : s.store.queueAfter none = [] :=
      List.eq_nil_iff_forall_not_mem.2 (fun q hmem => by simpa using (hq q).1 hmem)
    exact (outlook_eq_account hnil).symm
  | cons r rs ih =>
    obtain ⟨hlt, hrs⟩ := List.pairwise_cons.1 ha
    have hr : r ∈ s.store.queueAfter none := (hq r).2 List.mem_cons_self
    have hrest : ∀ q, q ∈ (mineOne shop removing r s).2.store.queueAfter none ↔ q ∈ rs := by
      intro q
      constructor
      · intro hmem
        rcases List.mem_cons.1 ((hq q).1 ((mem_queueAfter_mineOne removing hs hr q).2
          (Or.inr hmem))) with rfl | hrest
        · have hu := (Store.mem_queueAfter.1 hmem).1.2
          rw [mineOne_isMarked_self removing hs hr] at hu
          cases hu
        · exact hrest
      · intro hmem
        have hqueue := (hq q).2 (List.mem_cons_of_mem _ hmem)
        rcases (mem_queueAfter_mineOne removing hs hr q).1 hqueue with rfl | hrest
        · exact absurd (hlt q hmem) (Int.lt_irrefl _)
        · exact hrest
    rw [← outlook_mineOne removing hs hr]
    exact ih hrs (hs.mineOne removing) hrest

theorem run_interrupted (shop : Workshop σ) (verdict : Repository → Verdict) {s t : Store}
    (hs : Unhindered shop verdict s) (h : Interrupted shop s t) (removing removing' : Bool)
    (memory memory' : σ) :
    (run shop removing ⟨t, memory, []⟩).2.store.account =
      (run shop removing' ⟨s, memory', []⟩).2.store.account := by
  have hfinished : ∀ {u : Store} (removing : Bool) (memory : σ), Unhindered shop verdict u →
      (run shop removing ⟨u, memory, []⟩).2.store.account = outlook verdict u := by
    intro u removing memory hu
    rw [run_eq_mineAll hu.consistent]
    exact mineAll_account (Store.queueAfter_ascending hu.consistent none) hu (fun _ => Iff.rfl)
  obtain ⟨ht, ho⟩ := h.outlook_eq hs
  rw [hfinished removing memory ht, hfinished removing' memory' hs, ho]

def threeQueued : Store :=
  (Store.blank .none).performAll
    [.insert [⟨2, "b/two", "u2", 50⟩, ⟨3, "c/three", "u3", 40⟩, ⟨1, "a/one", "u1", 30⟩]]

def threeReport : Text.Utf8.Bytes :=
  "f.c,1,2,0,4,1\nf.c,1,2,0,4,1\ng.c,7,1,0,8,1\n".toList.map (fun c => UInt8.ofNat c.toNat)

def ofThree (r : Repository) : Verdict :=
  if r.name = "a/one" then .unobtainable
  else if r.name = "b/two" then .unanalyzable
  else .analyzed threeReport ⟨3, 0⟩ (.ofMillis 1500)

def growingTired : Workshop Nat where
  obtain := fun _ name n =>
    if name = "a/one" then (.error (.clone name "not found"), n) else (.ok ⟨name, false⟩, n + 1)
  analyze := fun path _ n =>
    if path = "b/two" then
      (.error ⟨.analyzer "killed", ⟨min n Duration.nanosPerSecond⟩⟩, n + 1)
    else (.ok ⟨threeReport, ⟨3, 0⟩, .ofMillis 1500, some 0⟩, n + 1)
  remove := fun _ n => (.ok (), n)

theorem unhindered_threeQueued : Unhindered growingTired ofThree threeQueued := by
  refine ⟨(Store.Consistent.blank _).performAll _, ?_, fun _ _ _ _ => rfl⟩
  intro r _
  by_cases h1 : r.name = "a/one"
  · rw [show ofThree r = .unobtainable by simp [ofThree, h1]]
    intro m
    exact ⟨_, by simp [growingTired, h1]; rfl⟩
  by_cases h2 : r.name = "b/two"
  · rw [show ofThree r = .unanalyzable by simp [ofThree, h2]]
    intro m
    refine ⟨⟨r.name, false⟩, by simp [growingTired, h1], fun m' => ?_⟩
    refine ⟨⟨.analyzer "killed", ⟨min m' Duration.nanosPerSecond⟩⟩, by simp [growingTired, h2], ?_⟩
    exact lt_of_le_of_lt (Nat.min_le_right _ _) (by decide)
  · rw [show ofThree r = .analyzed threeReport ⟨3, 0⟩ (.ofMillis 1500) by
      simp [ofThree, h1, h2]]
    refine ⟨by decide, fun m => ⟨⟨r.name, false⟩, by simp [growingTired, h1], fun m' => ?_⟩⟩
    exact ⟨_, by simp [growingTired, h2]; rfl, rfl, rfl, rfl⟩

def threeRecorded : Store :=
  let mined := (mineOne growingTired false ⟨1, "a/one", "u1", 30⟩ ⟨threeQueued, 0, []⟩).2
  let mined := (mineOne growingTired false ⟨2, "b/two", "u2", 50⟩ mined).2
  (prepare growingTired ⟨3, "c/three", "u3", 40⟩ mined).2.store

theorem interrupted_threeQueued : Interrupted growingTired threeQueued threeRecorded := by
  have hfirst : threeQueued.nextUnminedAfter none = some ⟨1, "a/one", "u1", 30⟩ := by decide
  have hcut : Cut growingTired false none ⟨threeQueued, 0, []⟩ threeRecorded := by
    refine .later hfirst (.later (r := ⟨2, "b/two", "u2", 50⟩) ?_
      (.beforeMarker (r := ⟨3, "c/three", "u3", 40⟩) ?_))
    · decide +kernel
    · decide +kernel
  exact .again .never hcut

theorem run_interrupted_threeQueued :
    Unhindered growingTired ofThree threeQueued ∧
      Interrupted growingTired threeQueued threeRecorded ∧
      threeRecorded.matchRows.length = 2 ∧ threeRecorded.isMarked 3 = false ∧
      (run growingTired true ⟨threeRecorded, 7, []⟩).2.store.account =
        (run growingTired false ⟨threeQueued, 0, []⟩).2.store.account := by
  refine ⟨unhindered_threeQueued, interrupted_threeQueued, ?_, ?_, ?_⟩
  · decide +kernel
  · decide +kernel
  · exact run_interrupted growingTired ofThree unhindered_threeQueued interrupted_threeQueued
      true false 7 0

end Mining

end CodeSurvey
