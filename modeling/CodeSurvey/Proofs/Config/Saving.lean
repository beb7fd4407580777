import CodeSurvey.Config.File
import CodeSurvey.Proofs.Config.Document
import CodeSurvey.Proofs.System.Writing
import CodeSurvey.Proofs.Text.Utf8

/-! A configuration that was saved is loaded again as it was. -/

namespace CodeSurvey.Config

open Text.Numeral (minInt64)

abbrev Action (α : Type) := ExceptT ConfigError (StateM Machine) α

def Action.after {α : Type} (x : Action α) (m : Machine) : Except ConfigError α × Machine :=
  StateT.run (ExceptT.run x) m

theorem after_bind {α β : Type} (x : Action α) (f : α → Action β) (m : Machine) :
    (x >>= f).after m =
      match x.after m with
      | (.ok a, m') => (f a).after m'
      | (.error e, m') => (.error e, m') := by
  rcases h : x.after m with ⟨_ | _, m'⟩
  all_goals
    rw [Action.after, ExceptT.run_bind, StateT.run_bind]
    simp only [Action.after] at h
    rw [h]
    rfl

def IsTaken (m : Machine) (path : String) (force : Bool) : Prop :=
  m.doesExist path = true ∧ force = false

instance (m : Machine) (path : String) (force : Bool) : Decidable (IsTaken m path force) :=
  inferInstanceAs (Decidable (_ ∧ _))

def refuseOld (path : String) (force : Bool) : Action Unit := do
  let m ← get
  if IsTaken m path force then throw (.alreadyThere path)

theorem refuseOld_after (path : String) (force : Bool) (m : Machine) :
    (refuseOld path force).after m =
      if IsTaken m path force then (.error (.alreadyThere path), m) else (.ok (), m) := by
  rw [refuseOld, after_bind]
  show Action.after (if IsTaken m path force then _ else _) m = _
  split <;> rfl

def text (c : Config) : Action String :=
  match c.write? with
  | none => throw .outOfRange
  | some s => return s

theorem text_after (c : Config) (m : Machine) :
    c.text.after m =
      match c.write? with
      | none => (.error .outOfRange, m)
      | some s => (.ok s, m) := by
  rw [text]
  split <;> rfl

def openFile (path : String) : Action Location := do
  let m ← get
  match m.tree.target m.home path with
  | .error e => throw (.system e)
  | .ok l =>
    set { m with tree := m.tree.put l (.file []) }
    return l

theorem openFile_after (path : String) (m : Machine) :
    (openFile path).after m =
      match m.tree.target m.home path with
      | .error e => (.error (.system e), m)
      | .ok l => (.ok l, { m with tree := m.tree.put l (.file []) }) := by
  rw [openFile, after_bind]
  show Action.after (match m.tree.target m.home path with | .error e => _ | .ok l => _) m = _
  split <;> rfl

def fillFile (l : Location) (bytes : Text.Utf8.Bytes) : Action Unit :=
  modify fun m => { m with tree := m.tree.put l (.file bytes) }

@[simp] theorem fillFile_after (l : Location) (bytes : Text.Utf8.Bytes) (m : Machine) :
    (fillFile l bytes).after m = (.ok (), { m with tree := m.tree.put l (.file bytes) }) := rfl

def saving (path : String) (c : Config) (force : Bool) : Action Unit := do
  refuseOld path force
  let s ← c.text
  let l ← openFile path
  fillFile l (Text.Utf8.encode s)

theorem save_eq (m : Machine) (path : String) (c : Config) (force : Bool) :
    save m path c force =
      if IsTaken m path force then .error (.alreadyThere path)
      else
        match c.write? with
        | none => .error .outOfRange
        | some s =>
          match m.tree.target m.home path with
          | .error e => .error (.system e)
          | .ok l => .ok { m with tree := m.tree.put l (.file (Text.Utf8.encode s)) } := by
  simp only [save, FileTree.write_eq]
  cases m.tree.target m.home path <;> rfl

theorem saving_after (path : String) (c : Config) (force : Bool) (m : Machine) :
    (saving path c force).after m =
      match save m path c force with
      | .error e => (.error e, m)
      | .ok m' => (.ok (), m') := by
  rw [save_eq, saving, after_bind, refuseOld_after]
  by_cases htaken : IsTaken m path force
  · rw [if_pos htaken, if_pos htaken]
  · rw [if_neg htaken, if_neg htaken]
    simp only [after_bind, text_after]
    cases c.write? with
    | none => rfl
    | some s =>
      simp only [openFile_after]
      cases m.tree.target m.home path with
      | error e => rfl
      | ok l => simp

variable {m m' : Machine} {path : String} {c : Config} {force : Bool}

inductive Saves (m : Machine) (path : String) (c : Config) (force : Bool) :
    Except ConfigError Machine → Prop where
  | taken (h : IsTaken m path force) : Saves m path c force (.error (.alreadyThere path))
  | oversized (h : ¬ IsTaken m path force) (hs : c.write? = none) :
    Saves m path c force (.error .outOfRange)
  | unopened (h : ¬ IsTaken m path force) {s : String} (hs : c.write? = some s) {e : SystemError}
    (hl : m.tree.target m.home path = .error e) : Saves m path c force (.error (.system e))
  | written (h : ¬ IsTaken m path force) {s : String} (hs : c.write? = some s) {l : Location}
    (hl : m.tree.target m.home path = .ok l) :
    Saves m path c force (.ok { m with tree := m.tree.put l (.file (Text.Utf8.encode s)) })

theorem save_saves (m : Machine) (path : String) (c : Config) (force : Bool) :
    Saves m path c force (save m path c force) := by
  rw [save_eq]
  by_cases htaken : IsTaken m path force
  · rw [if_pos htaken]
    exact .taken htaken
  · rw [if_neg htaken]
    cases hs : c.write? with
    | none => exact .oversized htaken hs
    | some s =>
      cases hl : m.tree.target m.home path with
      | error e => exact .unopened htaken hs hl
      | ok l => exact .written htaken hs hl

theorem save_eq_taken_iff :
    save m path c force = .error (.alreadyThere path) ↔ IsTaken m path force := by
  constructor
  · intro h
    cases h ▸ save_saves m path c force with
    | taken htaken => exact htaken
  · intro htaken
    rw [save_eq, if_pos htaken]

theorem Sized.save_eq_outOfRange_iff (hc : c.Sized) :
    save m path c force = .error .outOfRange ↔ ¬ IsTaken m path force ∧ c.Oversized := by
  rw [← hc.write?_eq_none_iff]
  constructor
  · intro h
    cases h ▸ save_saves m path c force with
    | oversized htaken hs => exact ⟨htaken, hs⟩
  · rintro ⟨htaken, hs⟩
    rw [save_eq, if_neg htaken, hs]

theorem Sized.save_eq_ok_iff (hc : c.Sized) :
    (∃ m', save m path c force = .ok m') ↔
      ¬ IsTaken m path force ∧ ¬ c.Oversized ∧ ∃ l, m.tree.target m.home path = .ok l := by
  rw [← hc.write?_eq_none_iff]
  constructor
  · rintro ⟨m', h⟩
    cases h ▸ save_saves m path c force with
    | written htaken hs hl => exact ⟨htaken, by rw [hs]; exact nofun, _, hl⟩
  · rintro ⟨htaken, hs, l, hl⟩
    obtain ⟨s, hs⟩ := Option.ne_none_iff_exists'.1 hs
    rw [save_eq, if_neg htaken, hs, hl]
    exact ⟨_, rfl⟩

theorem load_of_read {s : String} (h : m.tree.read m.home path = .ok (Text.Utf8.encode s))
    (hparse : parse? s = some c) : load m (some path) = .ok (some c) := by
  have hthere : m.doesExist path = true := by
    rw [Machine.doesExist, FileTree.doesExist]
    rw [FileTree.read] at h
    cases hstatus : m.tree.status m.home path with
    | error e =>
      rw [hstatus] at h
      cases h
    | ok found => rfl
  have hdecode : Text.Utf8.decode? (Text.Utf8.encode s) = some s :=
    Text.Utf8.decode?_eq_some_iff.2 rfl
  simp only [load, Option.getD_some, if_pos hthere, h, hdecode, hparse]

theorem Sized.load_save (hc : c.Sized) (h : save m path c force = .ok m') :
    load m' (some path) = .ok (some c) := by
  cases h ▸ save_saves m path c force with
  | @written _ s hs l hl =>
    exact load_of_read (FileTree.read_put hl (Text.Utf8.encode s)) (hc.parse?_write? hs)

/-- What saving answers says what it did. After success the configuration is loaded from its path as
it was, whatever its texts hold. After an error the machine, and with it the file, is as before. -/
theorem save_reloads_or_keeps (hc : c.Sized) (m : Machine) (path : String) (force : Bool) :
    ((∃ m', save m path c force = .ok m') ↔
      ¬ IsTaken m path force ∧ ¬ c.Oversized ∧ ∃ l, m.tree.target m.home path = .ok l) ∧
    (save m path c force = .error (.alreadyThere path) ↔ IsTaken m path force) ∧
    (save m path c force = .error .outOfRange ↔ ¬ IsTaken m path force ∧ c.Oversized) ∧
    (∀ m', save m path c force = .ok m' →
      (saving path c force).after m = (.ok (), m') ∧ load m' (some path) = .ok (some c)) ∧
    ∀ e, save m path c force = .error e → (saving path c force).after m = (.error e, m) := by
  have hafter := saving_after path c force m
  refine ⟨hc.save_eq_ok_iff, save_eq_taken_iff, hc.save_eq_outOfRange_iff, fun m' h => ?_,
    fun e h => ?_⟩
  · rw [h] at hafter
    exact ⟨hafter, hc.load_save h⟩
  · rw [h] at hafter
    exact hafter

def crowded : Config where
  database := "a\"b\\c\n.db"
  search := { SearchSettings.standard with
    token := "'\x00'\x1b\x7f", language := "\"\"\"'''\r\n", minStars := minInt64 }
  mining := { MiningSettings.standard with
    tool := "\n", toolchain := some "", threads := some 0, workDirectory := "\t\\\"" }

def settled : Machine where
  tree := ⟨[(["work"], .directory), (["work", "repomine.toml"], .file [0x23])]⟩
  home := ["work"]
  searchPath := none
  programs := []
  record := []

theorem save_reloads_or_keeps_crowded :
    crowded.Sized ∧
    (∃ m', save settled "repomine.toml" crowded true = .ok m' ∧
      load m' (some "repomine.toml") = .ok (some crowded)) ∧
    (saving "repomine.toml" crowded false).after settled =
      (.error (.alreadyThere "repomine.toml"), settled) := by
  have hsized : crowded.Sized := by
    refine ⟨by decide, by decide, by decide, by decide, by decide, ?_, by decide⟩
    rintro n ⟨⟩
    decide
  obtain ⟨hok, -, -, hreload, -⟩ :=
    save_reloads_or_keeps hsized settled "repomine.toml" true
  obtain ⟨-, htaken, -, -, hkeep⟩ :=
    save_reloads_or_keeps hsized settled "repomine.toml" false
  have hfits : ¬ crowded.Oversized := by
    rintro (h | h | h | ⟨n, ⟨⟩, h⟩) <;> revert h <;> decide
  have hopen : settled.tree.target settled.home "repomine.toml" =
    .ok ["work", "repomine.toml"] := by decide +kernel
  have hthere : settled.doesExist "repomine.toml" = true := by decide +kernel
  obtain ⟨m', hm'⟩ := hok.2 ⟨fun h => Bool.noConfusion h.2, hfits, _, hopen⟩
  exact ⟨hsized, ⟨m', hm', (hreload m' hm').2⟩, hkeep _ (htaken.2 ⟨hthere, rfl⟩)⟩

end CodeSurvey.Config
