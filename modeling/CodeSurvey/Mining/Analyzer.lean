import CodeSurvey.Mining.Cloner

/-! The analyzer as a program, whose standard output is the report. -/

namespace CodeSurvey.Mining

structure Analyzer where
  tool : String
  toolchain : Option String
  logDirectory : Option String
  threads : Option Nat
deriving DecidableEq, Repr

namespace Analyzer

def isBare (tool : String) : Bool :=
  decide ((Path.components tool).length ≤ 1) && !Path.isAbsolute tool

def candidates (a : Analyzer) (searchPath : Option String) : List String :=
  if isBare a.tool then
    match searchPath with
    | none => []
    | some path =>
      (Machine.searchDirectories path).map (fun directory => Path.join directory a.tool)
  else [a.tool]

def locate (a : Analyzer) (m : Machine) : Except Fault String :=
  match (a.candidates m.searchPath).find? m.isFile with
  | some path => .ok path
  | none => .error (.analyzerMissing a.tool)

def option (name : String) : Option String → List String
  | some value => [name, value]
  | none => []

def arguments (a : Analyzer) (directory : String) (log : Option String) : List String :=
  a.toolchain.toList ++ [directory] ++ option "--log" log ++
    option "--threads" (a.threads.map toString)

def logFile (a : Analyzer) (name : String) (m : Machine) :
    Except SystemError (Option String) × Machine :=
  match a.logDirectory with
  | none => (.ok none, m)
  | some directory =>
    match m.makeDirectories directory with
    | (.error e, m) => (.error e, m)
    | (.ok (), m) => (.ok (some (Path.join directory (name ++ ".log"))), m)

def runOf (output : Output) : AnalyzerRun :=
  ⟨output.stdout, .parse output.stdout, .zero, output.exitCode⟩

def run (a : Analyzer) (directory log : String) (m : Machine) :
    Except Fault AnalyzerRun × Machine :=
  match a.logFile log m with
  | (.error e, m) => (.error (.system e), m)
  | (.ok file, m) =>
    match m.run a.tool (a.arguments directory file) with
    | (.error e, m) =>
      (.error (.analyzer ("failed to run " ++ a.tool ++ ": " ++ e.message)), m)
    | (.ok output, m) => (.ok (runOf output), m)

end Analyzer

def workshop (cloner : Cloner) (analyzer : Analyzer) : Workshop Machine where
  obtain := cloner.obtain
  analyze := fun path log m =>
    let done := analyzer.run path log m
    (done.1.mapError (fun fault => ⟨fault, .zero⟩), done.2)
  remove := Cloner.remove

end CodeSurvey.Mining
