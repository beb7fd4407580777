import CodeSurvey.Proofs.Mining.Naming
import CodeSurvey.Proofs.System.Making
import CodeSurvey.Proofs.System.Removing
import CodeSurvey.Proofs.System.Running

/-! How working copies come about. -/

namespace CodeSurvey.Mining.Cloner

open CodeSurvey.Path (Component Listed components ofComponents segments)

variable {c : Cloner} {name p s url : String} {m m₁ m₂ : Machine} {ds : List Component}
  {r : Except SystemError Unit}

theorem Admits.steps_ne_nil (h : Admits name) : steps name ≠ [] := by
  obtain ⟨s, hs⟩ : ∃ s, (segments name).head? = some s :=
    Option.isSome_iff_exists.1 (List.isSome_head?.2 (Path.segments_ne_nil name))
  have hdot : s ≠ "." := by
    rintro rfl
    exact h.first hs
  have hmem : s ∈ steps name := List.mem_filter.2 ⟨List.mem_of_mem_head? hs, by simpa using hdot⟩
  exact List.ne_nil_of_mem hmem

theorem components_concat (hp : c.path? name = .ok p) :
    ∃ ds s, components p = ds ++ [.normal s] := by
  obtain ⟨hname, rfl⟩ := path?_eq_ok_iff.1 hp
  obtain ⟨front, s, hs⟩ := (List.eq_nil_or_concat' (steps name)).resolve_left hname.steps_ne_nil
  refine ⟨components c.root ++ front.map .normal, s, ?_⟩
  rw [hname.components_join, hs, List.map_append, List.append_assoc, List.map_singleton]

theorem makeParent_eq (hp : components p = ds ++ [.normal s]) (m : Machine) :
    makeParent p m = ((FileTree.makeUpward m.home ds.reverse m.tree).1,
      { m with tree := (FileTree.makeUpward m.home ds.reverse m.tree).2 }) := by
  have hparent : Path.parent? p = some (ofComponents ds) := by
    rw [Path.parent?, hp, List.getLast?_concat, List.dropLast_concat]
  have hds : Listed ds := (hp ▸ Path.listed_components p).front
  rw [makeParent, hparent]
  simp only [Machine.makeDirectories, FileTree.makeDirectories_ofComponents hds]

theorem tree_makeParent (hp : components p = ds ++ [.normal s]) (h : makeParent p m = (r, m₁)) :
    FileTree.makeUpward m.home ds.reverse m.tree = (r, m₁.tree) ∧ m.Alike m₁ ∧
      m₁.record = m.record := by
  rw [makeParent_eq hp] at h
  cases h
  exact ⟨rfl, ⟨rfl, rfl, rfl⟩, rfl⟩

theorem makes_of_makeParent (hp : components p = ds ++ [.normal s])
    (h : makeParent p m = (r, m₁)) :
    Relation.ReflTransGen (FileTree.Makes m.home ds) m.tree m₁.tree := by
  have hmakes := FileTree.makeUpward_makes m.home ds m.tree
  rwa [(tree_makeParent hp h).1] at hmakes

theorem clearAway_alike (p : String) (m : Machine) : m.Alike (clearAway p m) := by
  rw [clearAway]
  split <;> exact ⟨rfl, rfl, rfl⟩

@[simp] theorem clearAway_record (p : String) (m : Machine) :
    (clearAway p m).record = m.record := by
  rw [clearAway]
  split <;> rfl

theorem entry?_clearAway {k : Location} (hk : ¬ FileTree.place m.home p <+: k) :
    (clearAway p m).tree.entry? k = m.tree.entry? k := by
  rw [clearAway]
  split
  · exact FileTree.entry?_removeDirectory hk
  · rfl

inductive Obtains (c : Cloner) (url name p : String) (m : Machine) :
    Except Fault WorkingCopy × Machine → Prop where
  | reused (h : m.doesExist p = true) : Obtains c url name p m (.ok ⟨p, true⟩, m)
  | unplaced {x : SystemError} {m₁ : Machine} (h : m.doesExist p = false)
      (hparent : makeParent p m = (.error x, m₁)) :
      Obtains c url name p m (.error (.system x), m₁)
  | unstarted {x : SystemError} {m₁ m₂ : Machine} (h : m.doesExist p = false)
      (hparent : makeParent p m = (.ok (), m₁))
      (hrun : m₁.run c.program (c.arguments url p) = (.error x, m₂)) :
      Obtains c url name p m (.error (.system x), m₂)
  | cloned {output : Output} {m₁ m₂ : Machine} (h : m.doesExist p = false)
      (hparent : makeParent p m = (.ok (), m₁))
      (hrun : m₁.run c.program (c.arguments url p) = (.ok output, m₂))
      (houtput : output.succeeded = true) : Obtains c url name p m (.ok ⟨p, false⟩, m₂)
  | failed {output : Output} {m₁ m₂ : Machine} (h : m.doesExist p = false)
      (hparent : makeParent p m = (.ok (), m₁))
      (hrun : m₁.run c.program (c.arguments url p) = (.ok output, m₂))
      (houtput : output.succeeded = false) :
      Obtains c url name p m (.error (.clone name (reason output)), clearAway p m₂)

theorem obtain_obtains (hp : c.path? name = .ok p) (url : String) (m : Machine) :
    Obtains c url name p m (c.obtain url name m) := by
  rw [Cloner.obtain, hp]
  simp only
  split
  · rename_i h
    exact .reused h
  · rename_i h
    rw [Bool.not_eq_true] at h
    split
    · rename_i hparent
      exact .unplaced h hparent
    · rename_i m₁ hparent
      rw [clone]
      split
      · rename_i hrun
        exact .unstarted h hparent hrun
      · rename_i hrun
        split
        · rename_i houtput
          exact .cloned h hparent hrun houtput
        · rename_i houtput
          rw [Bool.not_eq_true] at houtput
          exact .failed h hparent hrun houtput

end CodeSurvey.Mining.Cloner
