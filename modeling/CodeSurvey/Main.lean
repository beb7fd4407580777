import CodeSurvey.CommandLine.Run

/-! The program at a real terminal, with no program and no search service within its reach. -/

namespace CodeSurvey.Terminal

def settingNames : List String := ["GITHUB_API_KEY", "CLANG", "LOG_DIR", "DB_PATH", "N_THREADS"]

def environment : IO Environment := do
  let found ← settingNames.mapM (fun name => do return (← IO.getEnv name).map (fun v => (name, v)))
  return found.filterMap id

def configPath (arguments : List String) : String :=
  match CommandLine.parse arguments with
  | .ok i => i.config.getD Config.defaultPath
  | .error _ => Config.defaultPath

def contents? (path : String) : IO (Option Text.Utf8.Bytes) := do
  try return some (← IO.FS.readBinFile path).toList
  catch _ => return none

def workplace (home : Location) (searchPath : Option String) (path : String)
    (contents : Option Text.Utf8.Bytes) : Command.Workplace :=
  let places := (List.range home.length).map (fun n => (home.take (n + 1), Entry.directory))
  let tree : FileTree := ⟨places⟩
  let tree :=
    match contents with
    | some bytes =>
      (tree.write home path bytes).toOption.getD tree
    | none => tree
  ⟨⟨tree, home, searchPath, [], []⟩, [],
    fun c => Discovery.disconnected c.discoveryOptions c.search.apiUrl c.search.token, ⟨0⟩,
    .nothing⟩

def fileAt (w : Command.Workplace) (path : String) : Option Text.Utf8.Bytes :=
  (w.machine.tree.read w.machine.home path).toOption

end CodeSurvey.Terminal

open CodeSurvey Terminal in
def main (arguments : List String) : IO UInt32 := do
  let path := configPath arguments
  let home := ((Path.segments (← IO.currentDir).toString).filter (· != ""))
  let before := workplace home (← IO.getEnv "PATH") path (← contents? path)
  let (report, after) := CommandLine.run arguments (← environment) before
  (← IO.getStdout).putStr report.printed.out
  (← IO.getStderr).putStr report.printed.err
  match fileAt after path with
  | some bytes =>
    if fileAt before path ≠ some bytes then
      IO.FS.writeBinFile path ⟨bytes.toArray⟩
  | none => return report.code.toUInt32
  return report.code.toUInt32
