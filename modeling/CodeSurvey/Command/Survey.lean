import CodeSurvey.Command.Basic
import CodeSurvey.Console.Table
import CodeSurvey.Mining.Analyzer
import CodeSurvey.Mining.Run
import CodeSurvey.Store.Statistics

/-! What the program can be told to do. -/

namespace CodeSurvey.Command

open Console

def writeConfig (path : String) (force : Bool) : Command Unit := do
  let m ← settle .config (Config.save (← machine) path .standard force)
  modify (fun w => { w with machine := m })
  line (·.success ("Wrote " ++ path))
  line (·.info "Next" "set GITHUB_API_KEY and run \x60repomine discover\x60")

def discover (c : Config) : Command Unit := do
  settle .config c.validateForDiscovery
  let (database, store) ← openStore c
  let options := c.discoveryOptions
  line (·.header ("Discovering " ++ options.language ++ " repositories with at least " ++
    toString options.minStars ++ " stars"))
  line (·.info "Database" c.database)
  let w ← get
  let (ending, walk) := Discovery.discover options store (w.service c store) w.now
  keepStore database walk.store
  modify (fun w => { w with now := walk.now })
  let _ ← settle .fault ending
  line (·.discoverySummary walk.tally walk.slept)

def mine (c : Config) : Command Unit := do
  let tool ← settle .fault (c.analyzer.locate (← machine))
  settle .fault (← act c.cloner.verify)
  let (database, store) ← openStore c
  line (·.header "Mining queued repositories")
  line (·.info "Analyzer" tool)
  line (·.info "Working copies" c.mining.workDirectory)
  let shop := Mining.workshop c.cloner c.analyzer
  let (summary, shift) ← act (fun m =>
    let done := Mining.run shop c.mining.removeAfterMining ⟨store, m, []⟩
    (done, done.2.memory))
  keepStore database shift.store
  line (·.miningSummary summary .zero)

def crawl (c : Config) : Command Unit := do
  discover c
  mine c

def showStatistics (c : Config) : Command Unit := do
  let (_, store) ← openStore c
  line (·.title Icon.statistics ("Database: " ++ c.database))
  print (.line (statisticsTable store.statistics.rows).render)

def resetFailed (c : Config) : Command Unit := do
  let (database, store) ← openStore c
  if ¬ database.canWrite then settleDatabase (.error .readOnly)
  let (n, store) := store.resetFailed
  keepStore database store
  if n = 0 then line (·.info "Reset" "no failed repositories")
  else line (·.success ("Re-queued " ++ toString n ++ " failed repositories"))

def localName : String := "local"

def exitText : Option Int → String
  | some n => "Some(" ++ toString n ++ ")"
  | none => "None"

def report (run : Mining.AnalyzerRun) : Command Unit := do
  let findings := Report.parse run.report
  if findings = [] then line (·.info "Findings" "none")
  else print (.line (findingsTable findings).render)
  line (·.title Icon.found "Summary")
  line (·.summaryRow "Findings" (toString findings.length))
  line (·.summaryRow "Successful" (toString run.counters.successful))
  line (·.summaryRow "Errors" (toString run.counters.errors))
  line (·.timing run.elapsed)
  if run.exitCode ≠ some 0 then
    line (·.warn ("Analyzer exited with " ++ exitText run.exitCode))

def analyze (c : Config) (path : String) : Command Unit := do
  if (← machine).isDirectory path = false then throw (.notADirectory path)
  let _ ← settle .fault (c.analyzer.locate (← machine))
  line (·.header ("Analyzing " ++ path))
  let run ← settle .fault (← act (c.analyzer.run path localName))
  report run

end CodeSurvey.Command
