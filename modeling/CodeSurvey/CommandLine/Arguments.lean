/-! The program's arguments; options may stand on either side of the task. -/

namespace CodeSurvey.CommandLine

inductive Verb where
  | init
  | discover
  | mine
  | crawl
  | stats
  | resetFailed
  | analyze
deriving DecidableEq, Repr

def Verb.all : List Verb := [.init, .discover, .mine, .crawl, .stats, .resetFailed, .analyze]

def Verb.name : Verb → String
  | .init => "init"
  | .discover => "discover"
  | .mine => "mine"
  | .crawl => "crawl"
  | .stats => "stats"
  | .resetFailed => "reset-failed"
  | .analyze => "analyze"

def Verb.ofName? (name : String) : Option Verb := all.find? (fun v => v.name == name)

inductive Switch where
  | config
  | database
  | verbose
  | force
  | help
  | version
deriving DecidableEq, Repr

namespace Switch

def all : List Switch := [.config, .database, .verbose, .force, .help, .version]

def long : Switch → String
  | .config => "config"
  | .database => "database"
  | .verbose => "verbose"
  | .force => "force"
  | .help => "help"
  | .version => "version"

def short : Switch → Char
  | .config => 'c'
  | .database => 'd'
  | .verbose => 'v'
  | .force => 'f'
  | .help => 'h'
  | .version => 'V'

def takesValue : Switch → Bool
  | .config => true
  | .database => true
  | _ => false

def isFor (verb : Option Verb) : Switch → Bool
  | .force => verb == some .init
  | .version => verb == none
  | _ => true

def ofLong? (verb : Option Verb) (name : String) : Option Switch :=
  all.find? (fun s => s.isFor verb && s.long == name)

def ofShort? (verb : Option Verb) (c : Char) : Option Switch :=
  all.find? (fun s => s.isFor verb && s.short == c)

end Switch

inductive Stop where
  | usage
  | help
  | version
deriving DecidableEq, Repr

structure Given where
  config : Option String
  database : Option String
  verbose : Bool
  force : Bool
  path : Option String
deriving DecidableEq, Repr

namespace Given

def nothing : Given := ⟨none, none, false, false, none⟩

def once (old : Option String) (value : String) : Except Stop (Option String) :=
  if old.isSome ∨ value = "" then .error .usage else .ok (some value)

def setValue (g : Given) (s : Switch) (value : String) : Except Stop Given :=
  match s with
  | .config => (once g.config value).map (fun v => { g with config := v })
  | .database => (once g.database value).map (fun v => { g with database := v })
  | _ => .error .usage

def setFlag (g : Given) : Switch → Except Stop Given
  | .verbose => if g.verbose then .error .usage else .ok { g with verbose := true }
  | .force => if g.force then .error .usage else .ok { g with force := true }
  | .help => .error .help
  | .version => .error .version
  | _ => .error .usage

def setPath (g : Given) (verb : Option Verb) (value : String) : Except Stop Given :=
  if verb = some .analyze then (once g.path value).map (fun v => { g with path := v })
  else .error .usage

def setPaths (verb : Option Verb) : Given → List String → Except Stop Given
  | g, [] => .ok g
  | g, value :: rest =>
    match g.setPath verb value with
    | .error e => .error e
    | .ok g => setPaths verb g rest

end Given

structure Progress where
  given : Given
  waiting : Option Switch

namespace Progress

def letters (verb : Option Verb) : Given → List Char → Except Stop Progress
  | g, [] => .ok ⟨g, none⟩
  | g, c :: cs =>
    match Switch.ofShort? verb c with
    | none => .error .usage
    | some s =>
      if s.takesValue then
        match cs with
        | [] => .ok ⟨g, some s⟩
        | '=' :: value => (g.setValue s (String.ofList value)).map (⟨·, none⟩)
        | value => (g.setValue s (String.ofList value)).map (⟨·, none⟩)
      else
        match g.setFlag s with
        | .error e => .error e
        | .ok g => letters verb g cs

def word (verb : Option Verb) (g : Given) (cs : List Char) : Except Stop Progress :=
  match cs.span (· != '=') with
  | (name, value) =>
    match Switch.ofLong? verb (String.ofList name), value with
    | none, _ => .error .usage
    | some s, [] => if s.takesValue then .ok ⟨g, some s⟩ else (g.setFlag s).map (⟨·, none⟩)
    | some s, _ :: value => (g.setValue s (String.ofList value)).map (⟨·, none⟩)

def step (verb : Option Verb) (p : Progress) (argument : String) : Except Stop Progress :=
  match p.waiting, argument.toList with
  | some _, '-' :: _ :: _ => .error .usage
  | some s, _ => (p.given.setValue s argument).map (⟨·, none⟩)
  | none, '-' :: '-' :: cs => word verb p.given cs
  | none, '-' :: c :: cs => letters verb p.given (c :: cs)
  | none, _ => (p.given.setPath verb argument).map (⟨·, none⟩)

end Progress

def verb? (verb : Option Verb) (p : Progress) (argument : String) : Option Verb :=
  if verb = none ∧ p.waiting = none then Verb.ofName? argument else none

def Stop.forHelp : List String → Stop
  | [] => .help
  | [name] => if name = "help" ∨ (Verb.ofName? name).isSome then .help else .usage
  | _ => .usage

def side (verb : Option Verb) :
    Progress → List String → Except Stop (Given × Option (Verb × List String))
  | p, [] => if p.waiting = none then .ok (p.given, none) else .error .usage
  | p, argument :: rest =>
    match verb? verb p argument with
    | some found => .ok (p.given, some (found, rest))
    | none =>
      if verb = none ∧ p.waiting = none ∧ argument = "help" then .error (.forHelp rest)
      else if argument = "--" then
        if p.waiting = none then (p.given.setPaths verb rest).map (fun g => (g, none))
        else .error .usage
      else
        match p.step verb argument with
        | .error e => .error e
        | .ok p => side verb p rest

inductive Task where
  | init (force : Bool)
  | discover
  | mine
  | crawl
  | stats
  | resetFailed
  | analyze (path : String)
deriving DecidableEq, Repr

structure Invocation where
  config : Option String
  database : Option String
  verbose : Bool
  task : Task
deriving DecidableEq, Repr

def Verb.task (verb : Verb) (g : Given) : Except Stop Task :=
  match verb with
  | .init => .ok (.init g.force)
  | .discover => .ok .discover
  | .mine => .ok .mine
  | .crawl => .ok .crawl
  | .stats => .ok .stats
  | .resetFailed => .ok .resetFailed
  | .analyze =>
    match g.path with
    | some path => .ok (.analyze path)
    | none => .error .usage

def parse (arguments : List String) : Except Stop Invocation := do
  match ← side none ⟨.nothing, none⟩ arguments with
  | (_, none) => throw .usage
  | (before, some (verb, rest)) =>
    let (after, _) ← side (some verb) ⟨.nothing, none⟩ rest
    return ⟨after.config <|> before.config, after.database <|> before.database,
      before.verbose || after.verbose, ← verb.task after⟩

end CodeSurvey.CommandLine
