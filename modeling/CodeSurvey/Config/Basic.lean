import CodeSurvey.Discovery.Walk
import CodeSurvey.Mining.Analyzer
import CodeSurvey.Text.Basic

/-! The configuration of a survey; the first fault in a fixed order is the one reported. -/

namespace CodeSurvey

structure SearchSettings where
  apiUrl : String
  token : String
  language : String
  minStars : Int
  maxRepositories : Nat
  perPage : Nat
  pauseSeconds : Nat
  maxRetries : Nat
deriving DecidableEq, Repr

structure MiningSettings where
  tool : String
  toolchain : Option String
  logDirectory : Option String
  threads : Option Nat
  workDirectory : String
  cloneDepth : Nat
  removeAfterMining : Bool
deriving DecidableEq, Repr

structure Config where
  database : String
  search : SearchSettings
  mining : MiningSettings
deriving DecidableEq, Repr

inductive ConfigError where
  | emptyLanguage
  | pageSize (n : Nat)
  | noRepositories
  | noDepth
  | noThreads
  | noToken
  | threadsText (text : String)
  | alreadyThere (path : String)
  | outOfRange
  | unreadable (path : String)
  | system (e : SystemError)
deriving DecidableEq, Repr

def ConfigError.message : ConfigError → String
  | .emptyLanguage => "search.language must not be empty"
  | .pageSize n => "search.per_page must be between 1 and 100, got " ++ toString n
  | .noRepositories => "search.max_repos must be greater than 0"
  | .noDepth => "miner.clone_depth must be greater than 0"
  | .noThreads => "miner.threads must be greater than 0"
  | .noToken => "no API token: set search.token or GITHUB_API_KEY"
  | .threadsText text => "N_THREADS must be a positive integer, got '" ++ text ++ "'"
  | .alreadyThere path => "config already exists at " ++ path ++ " (use --force to overwrite)"
  | .outOfRange => "out-of-range value for u64 type"
  | .unreadable path => "invalid config " ++ path ++ ": not a configuration in TOML"
  | .system e => e.message

def SearchSettings.standard : SearchSettings :=
  let o := Discovery.Options.standard
  ⟨"https://api.github.com", "", o.language, o.minStars, o.maxRepositories, o.perPage,
    o.pause.seconds, o.maxRetries⟩

def MiningSettings.standard : MiningSettings :=
  ⟨"miner", none, none, none, "/tmp/crawler-repos", 1, false⟩

namespace Config

def defaultDatabase : String := "repomine.db"

def defaultPath : String := "repomine.toml"

def standard : Config := ⟨defaultDatabase, .standard, .standard⟩

def validate (c : Config) : Except ConfigError Unit :=
  if Text.isBlankText c.search.language then .error .emptyLanguage
  else if c.search.perPage < 1 ∨ 100 < c.search.perPage then .error (.pageSize c.search.perPage)
  else if c.search.maxRepositories = 0 then .error .noRepositories
  else if c.mining.cloneDepth = 0 then .error .noDepth
  else if c.mining.threads = some 0 then .error .noThreads
  else .ok ()

def validateForDiscovery (c : Config) : Except ConfigError Unit :=
  match c.validate with
  | .error e => .error e
  | .ok () => if Text.isBlankText c.search.token then .error .noToken else .ok ()

def discoveryOptions (c : Config) : Discovery.Options :=
  ⟨c.search.language, c.search.minStars, c.search.maxRepositories, c.search.perPage,
    .ofSeconds c.search.pauseSeconds, c.search.maxRetries⟩

def analyzer (c : Config) : Mining.Analyzer :=
  ⟨c.mining.tool, c.mining.toolchain, c.mining.logDirectory, c.mining.threads⟩

def cloner (c : Config) : Mining.Cloner := ⟨c.mining.workDirectory, c.mining.cloneDepth, "git"⟩

end Config

end CodeSurvey
