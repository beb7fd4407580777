import CodeSurvey.Command.Survey
import CodeSurvey.CommandLine.Arguments

/-! One run of the program, and the report of its error. -/

namespace CodeSurvey.CommandLine

/-- What a run leaves: 0 for success, 1 for a failed task, 2 for arguments without a task. -/
structure Report where
  code : Nat
  printed : Console.Printed
deriving DecidableEq, Repr

def perform (i : Invocation) (env : Environment) : Command Unit :=
  let configured (f : Config → Command Unit) : Command Unit := do
    f (← Command.configure i.config env i.database true)
  match i.task with
  | .init force => Command.writeConfig (i.config.getD Config.defaultPath) force
  | .discover => configured Command.discover
  | .mine => configured Command.mine
  | .crawl => configured Command.crawl
  | .stats => configured Command.showStatistics
  | .resetFailed => configured Command.resetFailed
  | .analyze path => configured (Command.analyze · path)

def cause (mark indent text : String) : String :=
  "\n" ++ mark ++ String.intercalate ("\n" ++ indent) (Text.splitText '\n' text)

def numbered (causes : List String) : String :=
  String.join (causes.zipIdx.map
    (fun c => cause (Text.padStart 5 (toString c.2) ++ ": ") "       " c.1))

def errorText : List String → String
  | [] => ""
  | [text] => "Error: " ++ text ++ "\n"
  | [text, c] => "Error: " ++ text ++ "\n\nCaused by:" ++ cause "    " "    " c ++ "\n"
  | text :: causes => "Error: " ++ text ++ "\n\nCaused by:" ++ numbered causes ++ "\n"

def versionText : String := "repomine 0.0.1\n"

def usageText : String :=
  "Usage: repomine [OPTIONS] <" ++ String.intercalate "|" (Verb.all.map Verb.name) ++ ">\n"

def Stop.report : Stop → Report
  | .usage => ⟨2, "", usageText⟩
  | .help => ⟨0, usageText, ""⟩
  | .version => ⟨0, versionText, ""⟩

def run (arguments : List String) (env : Environment) (w : Command.Workplace) :
    Report × Command.Workplace :=
  match parse arguments with
  | .error stop => (stop.report, w)
  | .ok i =>
    let done := (perform i env).run.run { w with printed := .nothing }
    match done.1 with
    | .ok () => (⟨0, done.2.printed⟩, done.2)
    | .error e => (⟨1, done.2.printed ++ ⟨"", errorText e.chain⟩⟩, done.2)

end CodeSurvey.CommandLine
