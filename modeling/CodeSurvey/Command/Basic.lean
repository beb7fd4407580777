import CodeSurvey.Config.Environment
import CodeSurvey.Config.File
import CodeSurvey.Console.Output
import CodeSurvey.Database.Opening
import CodeSurvey.Discovery.Walk

/-! Steps at a workplace that end with a value or an error; what was done before that stays. -/

namespace CodeSurvey

/-- The store of a database file is kept beside the files. -/
structure Command.Workplace where
  machine : Machine
  stores : List (Location × Store)
  service : Config → Store → Discovery.Service
  now : Discovery.Moment
  printed : Console.Printed

namespace Command.Workplace

def store? (w : Workplace) (l : Location) : Option Store :=
  (w.stores.find? (fun s => s.1 == l)).map Prod.snd

def keep (w : Workplace) (d : Database) (s : Store) : Workplace :=
  match d.file with
  | none => w
  | some l =>
    if d.canWrite ∧ (w.machine.tree.entry? l).isSome then
      { w with stores := (l, s) :: w.stores.filter (fun x => x.1 != l) }
    else w

def openDatabase (w : Workplace) (p : String) : Except DatabaseError Database × Workplace :=
  let (answer, tree) := (Database.openAt w.machine.home p).run.run w.machine.tree
  let w := { w with machine := { w.machine with tree := tree } }
  match answer with
  | .ok d => (.ok d, if d.isNew then w.keep d .empty else w)
  | .error e => (.error e, w)

def contents (w : Workplace) (d : Database) : Store :=
  let s := (d.file.bind w.store?).getD .empty
  if d.canWrite then s else s.readOnly

def print (w : Workplace) (p : Console.Printed) : Workplace := { w with printed := w.printed ++ p }

end Command.Workplace

inductive CommandError where
  | config (e : ConfigError)
  | system (e : SystemError)
  | fault (f : Fault)
  | notADirectory (path : String)
deriving DecidableEq, Repr

def CommandError.chain : CommandError → List String
  | .config e => [e.message]
  | .system e => [e.message]
  | .fault f => f.chain
  | .notADirectory path => [path ++ " is not a directory"]

abbrev Command (α : Type) := ExceptT CommandError (StateM Command.Workplace) α

namespace Command

variable {α : Type}

def print (p : Console.Printed) : Command Unit := modify (·.print p)

def line (f : Console.Theme → Console.Printed) : Command Unit := print (f .plain)

def settle {ε : Type} (wrap : ε → CommandError) : Except ε α → Command α
  | .ok a => pure a
  | .error e => throw (wrap e)

def act (f : Machine → α × Machine) : Command α :=
  modifyGet (fun w => ((f w.machine).1, { w with machine := (f w.machine).2 }))

def machine : Command Machine := return (← get).machine

def settleDatabase : Except DatabaseError α → Command α :=
  settle (fun e => .fault (.storage (.database e)))

def openStore (c : Config) : Command (Database × Store) := do
  settle .system (← act (fun m => Config.makeDatabaseDirectory m c.database))
  let database ← settleDatabase (← modifyGet (·.openDatabase c.database))
  return (database, (← get).contents database)

def keepStore (database : Database) (store : Store) : Command Unit :=
  modify (·.keep database store)

def configure (path : Option String) (env : Environment) (database : Option String)
    (checked : Bool) : Command Config := do
  let loaded ← settle .config (Config.load (← machine) path)
  let (c, problem) := (loaded.getD .standard).applyEnvironment env
  if let some e := problem then throw (.config e)
  let c := { c with database := database.getD c.database }
  if checked then settle .config c.validate
  return c

end Command

end CodeSurvey
