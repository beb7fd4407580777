import CodeSurvey.Config.Basic
import CodeSurvey.Toml.Reader
import CodeSurvey.Toml.Writer

/-! The configuration as a TOML document; what it leaves out has its standard value. -/

namespace CodeSurvey

open Toml (Item Fields Scalar)

abbrev Section := Nat → String → Option Item

def Section.ofItem? : Item → Option Section
  | .array items => some (fun i _ => items[i]?)
  | .moment _ => some (fun _ _ => none)
  | item => item.fields?.map (fun fields _ key => fields.lookup? key)

namespace Section

def get {α : Type} (s : Section) (i : Nat) (key : String) (decode : Item → Option α)
    (standard : α) : Option α :=
  match s i key with
  | none => some standard
  | some item => decode item

end Section

def Toml.Item.text? : Item → Option String
  | .text s => some s
  | _ => none

def Toml.Item.int? : Item → Option Int
  | .integer n => some n
  | _ => none

def Toml.Item.natUpTo? (limit : Nat) : Item → Option Nat
  | .integer n => if 0 ≤ n ∧ n ≤ limit then some n.toNat else none
  | _ => none

def Toml.Item.bool? : Item → Option Bool
  | .bool b => some b
  | _ => none

open Text (Numeral.maxWord32 Numeral.maxWord64)

def SearchSettings.ofSection? (s : Section) : Option SearchSettings := do
  let d := SearchSettings.standard
  let word := Item.natUpTo? Numeral.maxWord64
  let apiUrl ← s.get 0 "api_url" Item.text? d.apiUrl
  let token ← s.get 1 "token" Item.text? d.token
  let language ← s.get 2 "language" Item.text? d.language
  let minStars ← s.get 3 "min_stars" Item.int? d.minStars
  let maxRepositories ← s.get 4 "max_repos" word d.maxRepositories
  let perPage ← s.get 5 "per_page" word d.perPage
  let pauseSeconds ← s.get 6 "window_pause_secs" word d.pauseSeconds
  let maxRetries ← s.get 7 "max_retries" (Item.natUpTo? Numeral.maxWord32) d.maxRetries
  return ⟨apiUrl, token, language, minStars, maxRepositories, perPage, pauseSeconds, maxRetries⟩

def MiningSettings.ofSection? (s : Section) : Option MiningSettings := do
  let d := MiningSettings.standard
  let text (item : Item) := item.text?.map some
  let word (item : Item) := (item.natUpTo? Numeral.maxWord64).map some
  let tool ← s.get 0 "tool" Item.text? d.tool
  let toolchain ← s.get 1 "toolchain" text d.toolchain
  let logDirectory ← s.get 2 "log_dir" text d.logDirectory
  let threads ← s.get 3 "threads" word d.threads
  let workDirectory ← s.get 4 "work_dir" Item.text? d.workDirectory
  let cloneDepth ← s.get 5 "clone_depth" (Item.natUpTo? Numeral.maxWord32) d.cloneDepth
  let removeAfterMining ← s.get 6 "remove_after_mining" Item.bool? d.removeAfterMining
  return ⟨tool, toolchain, logDirectory, threads, workDirectory, cloneDepth, removeAfterMining⟩

namespace Config

def ofSection? (s : Section) : Option Config := do
  let database ← s.get 0 "database" Item.text? standard.database
  let search ← s.get 1 "search"
    (fun item => (Section.ofItem? item).bind SearchSettings.ofSection?) standard.search
  let mining ← s.get 2 "miner"
    (fun item => (Section.ofItem? item).bind MiningSettings.ofSection?) standard.mining
  return ⟨database, search, mining⟩

def ofFields? (fields : Fields) : Option Config :=
  ofSection? (fun _ key => fields.lookup? key)

def parse? (s : String) : Option Config := (Toml.parse? s).bind ofFields?

def searchBlock (s : SearchSettings) : Toml.Block :=
  ⟨some "search",
    [("api_url", .text s.apiUrl), ("token", .text s.token), ("language", .text s.language),
      ("min_stars", .integer s.minStars), ("max_repos", .integer s.maxRepositories),
      ("per_page", .integer s.perPage), ("window_pause_secs", .integer s.pauseSeconds),
      ("max_retries", .integer s.maxRetries)]⟩

def optionalEntry {α : Type} (key : String) (f : α → Scalar) (a : Option α) :
    List (String × Scalar) :=
  (a.map (fun a => (key, f a))).toList

def miningBlock (s : MiningSettings) : Toml.Block :=
  ⟨some "miner",
    [("tool", Scalar.text s.tool)] ++ optionalEntry "toolchain" .text s.toolchain ++
      optionalEntry "log_dir" .text s.logDirectory ++
      optionalEntry "threads" (fun n => .integer (n : Nat)) s.threads ++
      [("work_dir", .text s.workDirectory), ("clone_depth", .integer s.cloneDepth),
        ("remove_after_mining", .bool s.removeAfterMining)]⟩

def blocks (c : Config) : List Toml.Block :=
  [⟨none, [("database", .text c.database)]⟩, searchBlock c.search, miningBlock c.mining]

def write? (c : Config) : Option String := Toml.write? c.blocks

end Config

end CodeSurvey
