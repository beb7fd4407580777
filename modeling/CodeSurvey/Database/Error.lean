/-! What can be wrong with a database, its path or its file. -/

namespace CodeSurvey

inductive DatabaseError where
  | nulInPath (place : Nat)
  | unknownAuthority (text : String)
  | unknownMode (kind value : String)
  | deniedAccess (value : String)
  | unknownSystem (name : String)
  | cannotOpen (path : Option String)
  | noStatus
  | unreadable
  | cannotLock
  | locked
  | unfinished
  | cannotDelete
  | notADatabase
  | damaged
  | unknownFormat
  | readOnly
deriving DecidableEq, Repr

namespace DatabaseError

def message : DatabaseError → String
  | .nulInPath place => "nul byte found in provided data at position: " ++ toString place
  | .unknownAuthority text => "invalid uri authority: " ++ text
  | .unknownMode kind value => "no such " ++ kind ++ " mode: " ++ value
  | .deniedAccess value => "access mode not allowed: " ++ value
  | .unknownSystem name => "no such vfs: " ++ name
  | .cannotOpen none => "unable to open database file"
  | .cannotOpen (some path) => "unable to open database file: " ++ path
  | .noStatus => "disk I/O error"
  | .unreadable => "disk I/O error"
  | .cannotLock => "disk I/O error"
  | .locked => "database is locked"
  | .unfinished => "attempt to write a readonly database"
  | .cannotDelete => "disk I/O error"
  | .notADatabase => "file is not a database"
  | .damaged => "database disk image is malformed"
  | .unknownFormat => "unsupported file format"
  | .readOnly => "attempt to write a readonly database"

def code? : DatabaseError → Option (Nat × String)
  | .nulInPath _ => none
  | .unknownAuthority _ | .unknownMode _ _ | .unknownSystem _ | .unknownFormat =>
    some (1, "SQL error or missing database")
  | .deniedAccess _ => some (3, "Access permission denied")
  | .locked => some (5, "The database file is locked")
  | .readOnly => some (8, "Attempt to write a readonly database")
  | .damaged => some (11, "The database disk image is malformed")
  | .cannotOpen _ => some (14, "Unable to open the database file")
  | .notADatabase => some (26, "File opened that is not a database file")
  | .unreadable => some (266, "Error reading from disk")
  | .unfinished =>
    some (776, "Database has hot journal that must be rolled back (requires write access)")
  | .noStatus => some (1802, "Error invoking fstat to get file metadata")
  | .cannotDelete => some (2570, "I/O error within xDelete of a VFS object")
  | .cannotLock => some (3850, "I/O error in the advisory file locking logic")

def cause (e : DatabaseError) : String :=
  match e.code? with
  | some (n, text) => "Error code " ++ toString n ++ ": " ++ text
  | none => e.message

end DatabaseError

end CodeSurvey
