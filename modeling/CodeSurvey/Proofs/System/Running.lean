import CodeSurvey.Proofs.System.Following
import CodeSurvey.System.Machine

/-! Programs that are run. -/

namespace CodeSurvey.Machine

variable {m m' m'' : Machine} {name : String} {arguments : List String}
  {answer : Except SystemError Output}

inductive Runs (m : Machine) (name : String) (arguments : List String) :
    Except SystemError Output × Machine → Prop where
  | unable (x : SystemError) : Runs m name arguments (.error x, m)
  | done {l : Location} {program : Program}
      (hnul : (name :: arguments).any hasNul = false)
      (h : m.findProgram name = .ok (l, program)) :
      Runs m name arguments
        (.ok (program.run arguments m.home m.tree).1,
          { m with
            tree := (program.run arguments m.home m.tree).2
            record := m.record ++ [(l, arguments)] })

theorem run_runs (m : Machine) (name : String) (arguments : List String) :
    m.Runs name arguments (m.run name arguments) := by
  rw [run]
  split
  · exact .unable _
  · rename_i hnul
    split
    · exact .unable _
    · rename_i h
      exact .done (by simpa using hnul) h

theorem runs_of_run (h : m.run name arguments = (answer, m')) :
    m.Runs name arguments (answer, m') := h ▸ m.run_runs name arguments

theorem run_of_findProgram {l : Location} {program : Program}
    (hnul : (name :: arguments).any hasNul = false)
    (h : m.findProgram name = .ok (l, program)) :
    m.run name arguments = (.ok (program.run arguments m.home m.tree).1,
      { m with
        tree := (program.run arguments m.home m.tree).2
        record := m.record ++ [(l, arguments)] }) := by
  have hnul' : ¬ (name :: arguments).any hasNul = true := by simp [hnul]
  rw [run, if_neg hnul', h]

theorem record_run (h : m.run name arguments = (answer, m')) :
    m'.record = m.record ∨ ∃ l, m'.record = m.record ++ [(l, arguments)] := by
  cases runs_of_run h with
  | unable _ => exact Or.inl rfl
  | @done l _ _ _ => exact Or.inr ⟨l, rfl⟩

structure Alike (m m' : Machine) : Prop where
  home : m'.home = m.home
  searchPath : m'.searchPath = m.searchPath
  programs : m'.programs = m.programs

namespace Alike

theorem refl (m : Machine) : m.Alike m := ⟨rfl, rfl, rfl⟩

theorem trans (h : m.Alike m') (h' : m'.Alike m'') : m.Alike m'' :=
  ⟨h'.home.trans h.home, h'.searchPath.trans h.searchPath, h'.programs.trans h.programs⟩

theorem run (h : m.run name arguments = (answer, m')) : m.Alike m' := by
  cases runs_of_run h <;> exact ⟨rfl, rfl, rfl⟩

theorem executable_eq (h : m.Alike m') (htree : ∀ k, m'.tree.entry? k = m.tree.entry? k)
    (p : String) : m'.executable p = m.executable p := by
  have hprogram : m'.program? = m.program? := by
    funext l
    rw [program?, program?, h.programs]
  rw [executable, executable, h.home, FileTree.status_congr htree, hprogram]

theorem firstExecutable_eq (h : m.Alike m') (htree : ∀ k, m'.tree.entry? k = m.tree.entry? k)
    (missing : SystemError) (ps : List String) :
    m'.firstExecutable missing ps = m.firstExecutable missing ps := by
  induction ps generalizing missing with
  | nil => rfl
  | cons p ps ih => simp only [firstExecutable, h.executable_eq htree, ih]

theorem findProgram_eq (h : m.Alike m') (htree : ∀ k, m'.tree.entry? k = m.tree.entry? k)
    (name : String) : m'.findProgram name = m.findProgram name := by
  rw [findProgram, findProgram, h.executable_eq htree, h.firstExecutable_eq htree, h.searchPath]

end Alike

def KeepsTo (m : Machine) (name : String) (arguments : List String) (l : Location) : Prop :=
  ∀ k, ¬ l <+: k → (m.run name arguments).2.tree.entry? k = m.tree.entry? k

end CodeSurvey.Machine
