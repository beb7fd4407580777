import CodeSurvey.Proofs.Store.History

/-! Writing results in one transaction or one by one. -/

namespace CodeSurvey.Store

inductive Given where
  | file (id : Int)
  | site (id : Option Int)
deriving DecidableEq, Repr

def given {σ α : Type} (held : σ) (give : α → Given) :
    Except StoreError (α × σ) → Except StoreError Given × σ
  | .ok (a, t) => (.ok (give a), t)
  | .error e => (.error e, held)

def respond (s : Store) : Entry → Except StoreError Given × Store
  | .file repository path => given s .file (s.ensureFile repository path)
  | .site file site => given s .site (s.recordMatch file site)

def Writer.respond (w : Writer) : Entry → Except StoreError Given × Writer
  | .file repository path => given w .file (w.ensureFile repository path)
  | .site file site => given w .site (w.recordMatch file site)

theorem given_map {σ τ α : Type} (view : σ → τ) (held : σ) (give : α → Given)
    (result : Except StoreError (α × σ)) :
    given (view held) give (result.map fun r => (r.1, view r.2)) =
      ((given held give result).1, view (given held give result).2) := by
  cases result <;> rfl

theorem Writer.respond_eq (w : Writer) (e : Entry) :
    w.respond e = ((w.draft.respond e).1, { w with draft := (w.draft.respond e).2 }) := by
  cases e with
  | file repository path =>
    exact given_map (fun t => { w with draft := t }) w.draft .file
      (w.draft.ensureFile repository path)
  | site file site =>
    exact given_map (fun t => { w with draft := t }) w.draft .site (w.draft.recordMatch file site)

@[simp] theorem Writer.respond_enter (w : Writer) (e : Entry) : (w.respond e).2 = w.enter e := by
  cases e with
  | file repository path =>
    simp only [Writer.respond, Writer.enter]
    cases w.ensureFile repository path <;> rfl
  | site file site =>
    simp only [Writer.respond, Writer.enter]
    cases w.recordMatch file site <;> rfl

def Entry.operation : Entry → Operation
  | .file repository path => .ensureFile repository path
  | .site id place => .recordMatch id place

@[simp] theorem respond_perform (s : Store) (e : Entry) :
    (s.respond e).2 = s.perform e.operation := by
  cases e with
  | file repository path =>
    simp only [respond, perform, Entry.operation]
    cases s.ensureFile repository path <;> rfl
  | site file site =>
    simp only [respond, perform, Entry.operation]
    cases s.recordMatch file site <;> rfl

/-- Entries to make, each chosen by the answers to those before it. -/
inductive Dialogue where
  | ended
  | enter (e : Entry) (next : Except StoreError Given → Dialogue)

namespace Dialogue

def hold {σ : Type} (respond : σ → Entry → Except StoreError Given × σ) :
    Dialogue → σ → List (Except StoreError Given) × σ
  | .ended, s => ([], s)
  | .enter e next, s =>
    let answer := respond s e
    let rest := (next answer.1).hold respond answer.2
    (answer.1 :: rest.1, rest.2)

def recite : List Entry → Dialogue
  | [] => .ended
  | e :: entries => .enter e fun _ => recite entries

theorem hold_writer (d : Dialogue) (w : Writer) :
    d.hold Writer.respond w =
      ((d.hold Store.respond w.draft).1, { w with draft := (d.hold Store.respond w.draft).2 }) := by
  induction d generalizing w with
  | ended => rfl
  | enter e next ih =>
    -- One answer on either side, and so the same rest of the dialogue.
    have hanswer := w.respond_eq e
    simp only [hold, hanswer, ih]

theorem hold_recite {σ : Type} (respond : σ → Entry → Except StoreError Given × σ)
    (entries : List Entry) (s : σ) :
    ((recite entries).hold respond s).2 = entries.foldl (fun s e => (respond s e).2) s := by
  induction entries generalizing s with
  | nil => rfl
  | cons e entries ih => exact ih (respond s e).2

end Dialogue

theorem recite_writer (s : Store) (entries : List Entry) :
    ((Dialogue.recite entries).hold Writer.respond s.writer).2 =
      entries.foldl Writer.enter s.writer := by
  rw [Dialogue.hold_recite]
  simp

theorem recite_store (s : Store) (entries : List Entry) :
    ((Dialogue.recite entries).hold respond s).2 = s.performAll (entries.map Entry.operation) := by
  rw [Dialogue.hold_recite, performAll, List.foldl_map]
  simp

theorem write_answers (s : Store) :
    (∀ d : Dialogue,
      (d.hold Writer.respond s.writer).1 = (d.hold respond s).1 ∧
        (d.hold Writer.respond s.writer).2.commit = (d.hold respond s).2 ∧
        (d.hold Writer.respond s.writer).2.drop = s) ∧
      ∀ entries : List Entry,
        s.perform (.write entries true) = s.performAll (entries.map Entry.operation) ∧
          s.perform (.write entries false) = s := by
  have hdialogue : ∀ d : Dialogue,
      (d.hold Writer.respond s.writer).1 = (d.hold respond s).1 ∧
        (d.hold Writer.respond s.writer).2.commit = (d.hold respond s).2 ∧
        (d.hold Writer.respond s.writer).2.drop = s := by
    intro d
    rw [d.hold_writer]
    exact ⟨rfl, rfl, rfl⟩
  refine ⟨hdialogue, fun entries => ?_⟩
  obtain ⟨-, hkept, hdropped⟩ := hdialogue (.recite entries)
  rw [recite_writer] at hkept hdropped
  rw [recite_store] at hkept
  exact ⟨hkept, hdropped⟩

end CodeSurvey.Store
