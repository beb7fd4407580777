import CodeSurvey.Mining.Cloner
import CodeSurvey.Proofs.Path

/-! Which names have a working copy, and where. -/

namespace CodeSurvey.Mining.Cloner

open CodeSurvey.Path (segments components component? join Component)

structure Admits (name : String) : Prop where
  backslash : '\\' ∉ name.toList
  segment : ∀ s ∈ segments name, s ≠ "" ∧ s ≠ ".."
  first : (segments name).head? ≠ some "."

def steps (name : String) : List String := (segments name).filter (· ≠ ".")

variable {name other : String}

theorem Admits.first_ne_empty (h : Admits name) : (segments name).head? ≠ some "" := by
  intro hempty
  exact (h.segment "" (List.mem_of_mem_head? hempty)).1 rfl

theorem Admits.filterMap_segments (h : Admits name) :
    (segments name).filterMap component? = (steps name).map .normal := by
  have hsegment := h.segment
  rw [steps]
  generalize segments name = ss at hsegment ⊢
  induction ss with
  | nil => rfl
  | cons s rest ih =>
    obtain ⟨⟨hempty, hup⟩, hrest⟩ := List.forall_mem_cons.1 hsegment
    by_cases hdot : s = "."
    · subst hdot
      rw [List.filterMap_cons_none rfl, ih hrest, List.filter_cons_of_neg (by decide)]
    · have hs : component? s = some (.normal s) := by
        rw [component?, if_neg (not_or.2 ⟨hempty, hdot⟩), if_neg hup]
      rw [List.filterMap_cons_some hs, ih hrest, List.filter_cons_of_pos (by simpa using hdot),
        List.map_cons]

theorem Admits.components_eq (h : Admits name) : components name = (steps name).map .normal := by
  rw [Path.components_eq, Path.leading_of_relative h.first_ne_empty h.first, List.nil_append,
    h.filterMap_segments]

theorem isName_iff : isName name = true ↔ Admits name := by
  simp only [isName, Bool.and_eq_true, bne_iff_ne, ne_eq, Bool.not_eq_true',
    List.contains_eq_mem, decide_eq_false_iff_not, List.all_eq_true]
  constructor
  · rintro ⟨⟨⟨-, hbackslash⟩, hnormal⟩, hsegment⟩
    rw [Path.components_eq] at hnormal
    refine ⟨hbackslash, fun s hs => ⟨hsegment s hs, ?_⟩, fun hdot => ?_⟩
    · rintro rfl
      have hup : Component.up ∈ (segments name).filterMap component? :=
        List.mem_filterMap.2 ⟨"..", hs, rfl⟩
      exact absurd (hnormal _ (List.mem_append_right _ hup)) (by decide)
    · have hrelative : ¬ Path.isAbsolute name = true := by
        intro h
        exact hsegment "" (List.mem_of_mem_head? (Path.head?_segments_of_isAbsolute h)) rfl
      have hhere : Component.here ∈ Path.leading name := by
        rw [Path.leading, if_neg hrelative, if_pos hdot]
        exact List.mem_singleton_self _
      exact absurd (hnormal _ (List.mem_append_left _ hhere)) (by decide)
  · intro h
    refine ⟨⟨⟨?_, h.backslash⟩, ?_⟩, fun s hs => (h.segment s hs).1⟩
    · rintro rfl
      exact (h.segment "" (by decide)).1 rfl
    · rw [h.components_eq]
      intro c hc
      obtain ⟨s, -, rfl⟩ := List.mem_map.1 hc
      rfl

variable {c : Cloner}

theorem path?_of_admits (c : Cloner) (h : Admits name) : c.path? name = .ok (join c.root name) := by
  rw [path?, if_pos (isName_iff.2 h)]

theorem path?_of_not_admits (c : Cloner) (h : ¬ Admits name) :
    c.path? name = .error (.clone name "invalid repository name") := by
  rw [path?, if_neg (mt isName_iff.1 h)]

theorem path?_eq_ok_iff {p : String} :
    c.path? name = .ok p ↔ Admits name ∧ p = join c.root name := by
  by_cases h : Admits name
  · rw [path?_of_admits c h, Except.ok.injEq, and_iff_right h, eq_comm]
  · rw [path?_of_not_admits c h]
    constructor
    · intro he
      cases he
    · rintro ⟨ha, -⟩
      exact absurd ha h

theorem Admits.components_join (h : Admits name) (root : String) :
    components (join root name) = components root ++ (steps name).map .normal := by
  rw [Path.components_join root h.first_ne_empty h.first, h.filterMap_segments]

theorem steps_of_notMem (h : "." ∉ segments name) : steps name = segments name := by
  refine List.filter_eq_self.2 fun s hs => ?_
  have hne : s ≠ "." := fun he => h (he ▸ hs)
  simpa using hne

theorem components_eq_iff {p q : String} (hp : c.path? name = .ok p) (hq : c.path? other = .ok q) :
    components p = components q ↔ steps name = steps other := by
  obtain ⟨hname, rfl⟩ := path?_eq_ok_iff.1 hp
  obtain ⟨hother, rfl⟩ := path?_eq_ok_iff.1 hq
  rw [hname.components_join, hother.components_join, List.append_cancel_left_eq,
    List.map_inj_right fun _ _ => Component.normal.inj]

/-- A name leads to the path that its segments, dots apart, make below the root; two names share a
path only if they differ in dots. Any other name is refused. -/
theorem path?_places (c : Cloner) (name : String) :
    (∀ p, c.path? name = .ok p ↔ Admits name ∧ p = join c.root name) ∧
      (¬ Admits name → c.path? name = .error (.clone name "invalid repository name")) ∧
      (∀ p, c.path? name = .ok p →
        components p = components c.root ++ (steps name).map .normal) ∧
      ∀ other p q, c.path? name = .ok p → c.path? other = .ok q →
        (components p = components q ↔ steps name = steps other) ∧
          ("." ∉ segments name → "." ∉ segments other → components p = components q →
            name = other) := by
  refine ⟨fun p => path?_eq_ok_iff, path?_of_not_admits c, fun p hp => ?_,
    fun other p q hp hq => ⟨components_eq_iff hp hq, fun hname hother hpq => ?_⟩⟩
  · obtain ⟨hname, rfl⟩ := path?_eq_ok_iff.1 hp
    exact hname.components_join c.root
  · have hsteps := (components_eq_iff hp hq).1 hpq
    rw [steps_of_notMem hname, steps_of_notMem hother] at hsteps
    exact Path.segments_inj hsteps

def shallow : Cloner := ⟨"/tmp/repos", 1, "git"⟩

theorem path?_places_dotted :
    (shallow.path? "wg/./wrk" = .ok "/tmp/repos/wg/./wrk" ∧
        shallow.path? "wg/wrk" = .ok "/tmp/repos/wg/wrk") ∧
      ¬ Admits "wg/../../x" ∧
      shallow.path? "wg/../../x" = .error (.clone "wg/../../x" "invalid repository name") ∧
      components "/tmp/repos/wg/./wrk" = components "/tmp/repos/wg/wrk" := by
  have hdotted : shallow.path? "wg/./wrk" = .ok "/tmp/repos/wg/./wrk" :=
    ((path?_places shallow "wg/./wrk").1 _).2 ⟨isName_iff.1 (by decide), by decide⟩
  have hplain : shallow.path? "wg/wrk" = .ok "/tmp/repos/wg/wrk" :=
    ((path?_places shallow "wg/wrk").1 _).2 ⟨isName_iff.1 (by decide), by decide⟩
  have hupward : ¬ Admits "wg/../../x" := mt isName_iff.2 (by decide)
  have hsame := ((path?_places shallow "wg/./wrk").2.2.2 "wg/wrk" _ _ hdotted hplain).1
  exact ⟨⟨hdotted, hplain⟩, hupward, (path?_places shallow _).2.1 hupward, hsame.2 (by decide)⟩

theorem path?_admits_dotted :
    (¬ ∀ (c : Cloner) (name : String), (∃ p, c.path? name = .ok p) ↔
      name ≠ "" ∧ '\\' ∉ name.toList ∧
        ∀ s ∈ segments name, s ≠ "" ∧ s ≠ "." ∧ s ≠ "..") ∧
    (∃ p q, shallow.path? "wg/./wrk" = .ok p ∧ shallow.path? "wg/wrk" = .ok q ∧
      components p = components q) := by
  have hdotted : shallow.path? "wg/./wrk" = .ok _ :=
    path?_of_admits shallow (isName_iff.1 (by decide))
  have hplain : shallow.path? "wg/wrk" = .ok _ :=
    path?_of_admits shallow (isName_iff.1 (by decide))
  refine ⟨fun h => ?_, _, _, hdotted, hplain, (components_eq_iff hdotted hplain).2 (by decide)⟩
  obtain ⟨-, -, hsegments⟩ := (h shallow "wg/./wrk").1 ⟨_, hdotted⟩
  exact (hsegments "." (by decide)).2.1 rfl

end CodeSurvey.Mining.Cloner
