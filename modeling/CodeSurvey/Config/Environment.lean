import CodeSurvey.Config.Basic
import CodeSurvey.Text.Numeral

/-! Settings from the environment; a blank variable counts as unset. -/

namespace CodeSurvey

abbrev Environment := List (String × String)

def Environment.value? (env : Environment) (name : String) : Option String :=
  match env.find? (fun v => v.1 == name) with
  | some v => if Text.isBlankText v.2 then none else some v.2
  | none => none

namespace Config

def applyToken (env : Environment) (c : Config) : Config :=
  match env.value? "GITHUB_API_KEY" with
  | some v => { c with search := { c.search with token := v } }
  | none => c

def applyToolchain (env : Environment) (c : Config) : Config :=
  match env.value? "CLANG" with
  | some v => { c with mining := { c.mining with toolchain := some v } }
  | none => c

def applyLogDirectory (env : Environment) (c : Config) : Config :=
  match env.value? "LOG_DIR" with
  | some v => { c with mining := { c.mining with logDirectory := some v } }
  | none => c

def applyDatabase (env : Environment) (c : Config) : Config :=
  match env.value? "DB_PATH" with
  | some v => { c with database := v }
  | none => c

def applyThreads (env : Environment) (c : Config) : Except ConfigError Config :=
  match env.value? "N_THREADS" with
  | none => .ok c
  | some v =>
    match Text.Numeral.ofText? Text.Numeral.maxWord64 (Text.trim v) with
    | some n => .ok { c with mining := { c.mining with threads := some n } }
    | none => .error (.threadsText v)

def applyTexts (env : Environment) (c : Config) : Config :=
  applyDatabase env (applyLogDirectory env (applyToolchain env (applyToken env c)))

/-- The configuration under an environment. A number of threads that cannot be read is an error; the
other settings count all the same. -/
def applyEnvironment (c : Config) (env : Environment) : Config × Option ConfigError :=
  let texts := applyTexts env c
  match applyThreads env texts with
  | .ok c => (c, none)
  | .error e => (texts, some e)

end Config

end CodeSurvey
