import CodeSurvey.Discovery.Walk
import CodeSurvey.Mining.Run
import CodeSurvey.Text.Basic

/-! Warnings go to the error stream, all other lines to the output. -/

namespace CodeSurvey.Console

inductive Style where
  | header
  | success
  | warn
  | info
  | dim
  | count
deriving DecidableEq, Repr

namespace Style

def all : List Style := [.header, .success, .warn, .info, .dim, .count]

def name : Style → String
  | .header => "header"
  | .success => "success"
  | .warn => "warn"
  | .info => "info"
  | .dim => "dim"
  | .count => "count"

def codes : Style → String
  | .header => "36;1"
  | .success => "32;1"
  | .warn => "33;1"
  | .info => "35"
  | .dim => "37;2"
  | .count => "97;1"

end Style

structure Theme where
  terminal : Bool
deriving DecidableEq, Repr

def Theme.plain : Theme := ⟨false⟩

def Theme.paint (t : Theme) (s : Style) (text : String) : String :=
  if t.terminal then "\x1b[" ++ s.codes ++ "m" ++ text ++ "\x1b[0m" else text

structure Printed where
  out : String
  err : String
deriving DecidableEq, Repr

namespace Printed

def nothing : Printed := ⟨"", ""⟩

def append (a b : Printed) : Printed := ⟨a.out ++ b.out, a.err ++ b.err⟩

instance : Append Printed := ⟨append⟩

def line (s : String) : Printed := ⟨s ++ "\n", ""⟩

def errorLine (s : String) : Printed := ⟨"", s ++ "\n"⟩

end Printed

namespace Icon

def rocket : String := "🚀"
def search : String := "🔍"
def pick : String := "⛏️"
def check : String := "✅"
def warn : String := "⚠️"
def info : String := "ℹ️"
def statistics : String := "📊"
def found : String := "🎯"
def clock : String := "⏱️"

end Icon

namespace Theme

def header (t : Theme) (text : String) : Printed :=
  .line (Icon.rocket ++ " " ++ t.paint .header text)

def success (t : Theme) (text : String) : Printed :=
  .line (Icon.check ++ " " ++ t.paint .success text)

def warn (t : Theme) (text : String) : Printed :=
  .errorLine (Icon.warn ++ " " ++ t.paint .warn text)

def info (t : Theme) (label value : String) : Printed :=
  .line (t.paint .info Icon.info ++ " " ++ t.paint .dim label ++ ": " ++ value)

def title (t : Theme) (icon text : String) : Printed :=
  .line ("\n" ++ icon ++ " " ++ t.paint .header text)

def summaryRow (t : Theme) (label value : String) : Printed :=
  .line ("  " ++ t.paint .dim (Text.padEnd 18 label) ++ " " ++ t.paint .count value)

def summaryRows (t : Theme) (rows : List (String × Nat)) : Printed :=
  rows.foldl (fun p row => p ++ t.summaryRow row.1 (toString row.2)) .nothing

def timing (t : Theme) (elapsed : Duration) : Printed :=
  .line (t.paint .dim Icon.clock ++ " " ++ elapsed.inWords)

def discoverySummary (t : Theme) (s : Discovery.Tally) (elapsed : Duration) : Printed :=
  t.title Icon.search "Discovery finished" ++
    t.summaryRows [("New repositories", s.found), ("Pages fetched", s.pages),
      ("Star windows", s.windows), ("Rate limited", s.rateLimited)] ++
    t.timing elapsed

def miningSummary (t : Theme) (s : Mining.Summary) (elapsed : Duration) : Printed :=
  t.title Icon.pick "Mining finished" ++
    t.summaryRows [("Processed", s.processed), ("Analyzed", s.analyzed),
      ("Clone failures", s.cloneFailures), ("Analyzer failures", s.analyzerFailures),
      ("Left pending", s.unmarked), ("New matches", s.newMatches)] ++
    t.timing elapsed ++
    if s.unmarked = 0 then .nothing
    else
      t.warn (toString s.unmarked ++
        " repositories could not be marked and will be retried on the next run")

end Theme

end CodeSurvey.Console
