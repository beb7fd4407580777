import CodeSurvey.Proofs.Mining.Obtaining

/-! Working copies stay below the root. -/

namespace CodeSurvey.Mining.Cloner

open CodeSurvey.FileTree (Makes destination destination_append destination_straight origin place
  strides)
open CodeSurvey.Path (Component components join segments)

variable {c : Cloner} {name p s url : String} {m m₁ m₂ : Machine} {home l k : Location}
  {ds : List Component} {r : Except SystemError Unit}

def Below (c : Cloner) (home l : Location) : Prop :=
  place home c.root <+: l ∧ l ≠ place home c.root

theorem Below.mono (h : c.Below home l) (hl : l <+: k) : c.Below home k := by
  refine ⟨h.1.trans hl, ?_⟩
  rintro rfl
  exact h.2 (hl.eq_of_length_le h.1.length_le)

theorem Admits.strides_segments (h : Admits name) : strides (segments name) = steps name := by
  refine List.filter_congr fun s hs => ?_
  have hne := (h.segment s hs).1
  simp [hne]

theorem Admits.place_join (h : Admits name) (home : Location) (root : String) :
    place home (join root name) = place home root ++ steps name := by
  obtain ⟨front, hsegments, hfront⟩ := Path.segments_join root h.first_ne_empty
  have hplace : place home root = destination (origin home root) front := by
    rw [place]
    rcases hfront with hfront | hfront
    · rw [hfront]
    · rw [hfront, destination_append]
      exact FileTree.step_of_stay (Or.inl rfl) _
  have horigin : origin home (join root name) = origin home root := by
    rw [origin, origin, Path.isAbsolute_join root h.first_ne_empty]
  have hup : ".." ∉ segments name := fun hm => (h.segment _ hm).2 rfl
  rw [place, horigin, hsegments, destination_append, ← hplace, destination_straight hup,
    h.strides_segments]

theorem below_place (hp : c.path? name = .ok p) (home : Location) :
    c.Below home (place home p) := by
  obtain ⟨hname, rfl⟩ := path?_eq_ok_iff.1 hp
  rw [Below, hname.place_join]
  exact ⟨List.prefix_append _ _, by simpa using hname.steps_ne_nil⟩

theorem exists_names (hp : c.path? name = .ok p) :
    ∃ names, names ≠ [] ∧ (∀ s ∈ names, s ≠ "" ∧ s ≠ "." ∧ s ≠ ".." ∧ '/' ∉ s.toList) ∧
      components p = components c.root ++ names.map .normal := by
  obtain ⟨hname, rfl⟩ := path?_eq_ok_iff.1 hp
  refine ⟨steps name, hname.steps_ne_nil, fun s hs => ?_, hname.components_join c.root⟩
  obtain ⟨hmem, hdot⟩ := List.mem_filter.1 hs
  obtain ⟨hempty, hup⟩ := hname.segment s hmem
  exact ⟨hempty, by simpa using hdot, hup, Path.notMem_of_mem_segments hmem⟩

theorem remove_eq (copy : WorkingCopy) (m : Machine) :
    (remove copy m).2 = clearAway copy.path m := by
  rw [remove, clearAway]
  split
  · split
    · rename_i h
      rw [h]
    · rename_i h
      rw [h]
  · rfl

theorem clearAway_of_not_below (hp : c.path? name = .ok p) (hk : ¬ c.Below m.home k) :
    (clearAway p m).tree.entry? k = m.tree.entry? k :=
  entry?_clearAway fun hlk => hk ((below_place hp m.home).mono hlk)

theorem makeParent_adds (hp : c.path? name = .ok p) (h : makeParent p m = (r, m₁)) (k : Location) :
    m₁.tree.entry? k = m.tree.entry? k ∨
      m.tree.entry? k = none ∧ m₁.tree.entry? k = some .directory := by
  obtain ⟨ds, s, hcomponents⟩ := components_concat hp
  have hds := (hcomponents ▸ Path.listed_components p).front
  exact Makes.adds (makes_of_makeParent hcomponents h) hds k

theorem obtain_adds (hp : c.path? name = .ok p)
    (hkeeps : ∀ m₁, makeParent p m = (.ok (), m₁) →
      m₁.KeepsTo c.program (c.arguments url p) (place m.home p))
    (hk : ¬ c.Below m.home k) :
    (c.obtain url name m).2.tree.entry? k = m.tree.entry? k ∨
      m.tree.entry? k = none ∧ (c.obtain url name m).2.tree.entry? k = some .directory := by
  have hran : ∀ {m₁ m₂ answer}, makeParent p m = (.ok (), m₁) →
      m₁.run c.program (c.arguments url p) = (answer, m₂) →
      m₂.tree.entry? k = m.tree.entry? k ∨
        m.tree.entry? k = none ∧ m₂.tree.entry? k = some .directory := by
    intro m₁ m₂ answer hparent hrun
    have hsame := hkeeps m₁ hparent k fun hlk => hk ((below_place hp m.home).mono hlk)
    rw [hrun] at hsame
    rw [hsame]
    exact makeParent_adds hp hparent k
  have hobtains := obtain_obtains hp url m
  generalize c.obtain url name m = made at hobtains
  cases hobtains with
  | reused _ => exact Or.inl rfl
  | unplaced _ hparent => exact makeParent_adds hp hparent k
  | unstarted _ hparent hrun => exact hran hparent hrun
  | cloned _ hparent hrun _ => exact hran hparent hrun
  | @failed output m₁ m₂ _ hparent hrun _ =>
    have hhome : m₂.home = m.home := by
      obtain ⟨ds, s, hcomponents⟩ := components_concat hp
      exact ((tree_makeParent hcomponents hparent).2.1.trans (.run hrun)).home
    rw [clearAway_of_not_below hp (hhome ▸ hk)]
    exact hran hparent hrun

theorem obtain_record (hp : c.path? name = .ok p) (url : String) (m : Machine) :
    (c.obtain url name m).2.record = m.record ∨
      ∃ l, (c.obtain url name m).2.record = m.record ++ [(l, c.arguments url p)] := by
  obtain ⟨ds, s, hcomponents⟩ := components_concat hp
  have hran : ∀ {m₁ m₂ answer}, makeParent p m = (.ok (), m₁) →
      m₁.run c.program (c.arguments url p) = (answer, m₂) →
      m₂.record = m.record ∨ ∃ l, m₂.record = m.record ++ [(l, c.arguments url p)] := by
    intro m₁ m₂ answer hparent hrun
    have hrecord := Machine.record_run hrun
    rwa [(tree_makeParent hcomponents hparent).2.2] at hrecord
  have hobtains := obtain_obtains hp url m
  generalize c.obtain url name m = made at hobtains
  cases hobtains with
  | reused _ => exact Or.inl rfl
  | unplaced _ hparent => exact Or.inl (tree_makeParent hcomponents hparent).2.2
  | unstarted _ hparent hrun => exact hran hparent hrun
  | cloned _ hparent hrun _ => exact hran hparent hrun
  | @failed output m₁ m₂ _ hparent hrun _ =>
    rw [clearAway_record]
    exact hran hparent hrun

theorem path_of_obtain (hp : c.path? name = .ok p) {copy : WorkingCopy}
    (h : (c.obtain url name m).1 = .ok copy) : copy.path = p := by
  have hobtains := obtain_obtains hp url m
  generalize c.obtain url name m = made at h hobtains
  cases hobtains <;> cases h <;> rfl

/-- A working copy lies below the root, by names alone. Removing it changes nothing that is not
below the root; neither does cloning, where the clone program keeps to the path it is told, but for
directories that were missing. -/
theorem path?_confined (hp : c.path? name = .ok p) :
    (∃ names, names ≠ [] ∧ (∀ s ∈ names, s ≠ "" ∧ s ≠ "." ∧ s ≠ ".." ∧ '/' ∉ s.toList) ∧
      components p = components c.root ++ names.map .normal) ∧
    (∀ home, c.Below home (place home p) ∧
      ∀ (t : FileTree) l, t.locate home p = .ok l → l = place home p) ∧
    (∀ m k, ¬ c.Below m.home k →
      (∀ reused, (remove ⟨p, reused⟩ m).2.tree.entry? k = m.tree.entry? k) ∧
      (clearAway p m).tree.entry? k = m.tree.entry? k) ∧
    ∀ url m,
      (∀ copy, (c.obtain url name m).1 = .ok copy → copy.path = p) ∧
      ((c.obtain url name m).2.record = m.record ∨
        ∃ l, (c.obtain url name m).2.record = m.record ++ [(l, c.arguments url p)]) ∧
      ((∀ m₁, makeParent p m = (.ok (), m₁) →
          m₁.KeepsTo c.program (c.arguments url p) (place m.home p)) →
        ∀ k, ¬ c.Below m.home k →
          (c.obtain url name m).2.tree.entry? k = m.tree.entry? k ∨
            m.tree.entry? k = none ∧
              (c.obtain url name m).2.tree.entry? k = some .directory) := by
  refine ⟨exists_names hp, fun home => ⟨below_place hp home, fun t l hl => ?_⟩,
    fun m k hk => ⟨fun reused => ?_, clearAway_of_not_below hp hk⟩, fun url m =>
      ⟨fun copy hcopy => path_of_obtain hp hcopy, obtain_record hp url m,
        fun hkeeps k hk => obtain_adds hp hkeeps hk⟩⟩
  · exact FileTree.locate_place hl
  · rw [remove_eq]
    exact clearAway_of_not_below hp hk

def mirror : Cloner := ⟨"../mirror/", 1, "git"⟩

def bare : Machine where
  tree := ⟨[(["work"], .directory), (["work", "here"], .directory)]⟩
  home := ["work", "here"]
  searchPath := none
  programs := []
  record := []

theorem path?_confined_mirror :
    mirror.path? "wg/./wrk" = .ok "../mirror/wg/./wrk" ∧
      components "../mirror/wg/./wrk" =
        components "../mirror/" ++ [.normal "wg", .normal "wrk"] ∧
      mirror.Below bare.home ["work", "mirror", "wg", "wrk"] ∧
      ¬ mirror.Below bare.home ["work", "mirror"] ∧
      ∀ k, ¬ mirror.Below bare.home k →
        (mirror.obtain "url" "wg/./wrk" bare).2.tree.entry? k = bare.tree.entry? k ∨
          bare.tree.entry? k = none ∧
            (mirror.obtain "url" "wg/./wrk" bare).2.tree.entry? k = some .directory := by
  have hp : mirror.path? "wg/./wrk" = .ok "../mirror/wg/./wrk" := by
    rw [path?_of_admits mirror (isName_iff.1 (by decide))]
    decide
  obtain ⟨-, hbelow, -, hobtain⟩ := path?_confined hp
  have hcomponents : components "../mirror/wg/./wrk" =
      components "../mirror/" ++ [.normal "wg", .normal "wrk"] := by decide
  have hplace : place bare.home "../mirror/wg/./wrk" = ["work", "mirror", "wg", "wrk"] := by
    decide
  have hroot : place bare.home "../mirror/" = ["work", "mirror"] := by decide
  have hidle : ((makeParent "../mirror/wg/./wrk" bare).2.run mirror.program
      (mirror.arguments "url" "../mirror/wg/./wrk")).2.tree =
        (makeParent "../mirror/wg/./wrk" bare).2.tree := by decide +kernel
  refine ⟨hp, hcomponents, hplace ▸ (hbelow bare.home).1, fun h => h.2 hroot.symm,
    (hobtain "url" bare).2.2 fun m₁ hm₁ k _ => ?_⟩
  rw [hm₁] at hidle
  rw [hidle]

end CodeSurvey.Mining.Cloner
