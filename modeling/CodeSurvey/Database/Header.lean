import CodeSurvey.Database.Error
import CodeSurvey.Text.Utf8

/-! The head of a database file; zeros stand for what a short file lacks. -/

namespace CodeSurvey.Database

open Text.Utf8 (Bytes)

inductive Journal where
  | rollback
  | log
deriving DecidableEq, Repr

namespace Journal

def version : Journal → UInt8
  | .rollback => 1
  | .log => 2

end Journal

namespace Header

def magic : Bytes :=
  [0x53, 0x51, 0x4C, 0x69, 0x74, 0x65, 0x20, 0x66, 0x6F, 0x72, 0x6D, 0x61, 0x74, 0x20, 0x33, 0]

def number (bytes : Bytes) (start size : Nat) : Nat :=
  (List.range size).foldl (fun n i => 256 * n + (bytes.getD (start + i) 0).toNat) 0

def firstFields (j : Journal) : Bytes :=
  magic ++ [0x10, 0, j.version, j.version, 0, 64, 32, 32]

def length : Nat := 100

def rowPage : UInt8 := 13

def bare (j : Journal) : Bytes :=
  firstFields j ++ List.replicate (length - (firstFields j).length) 0 ++
    [rowPage, 0, 0, 0, 0, 0x10, 0, 0]

def filled (j : Journal) : Bytes :=
  firstFields j ++ List.replicate (length - (firstFields j).length) 0 ++
    [rowPage, 0, 0, 0, 10, 0x0C, 0, 0, 0xFF]

def withJournal (j : Journal) (bytes : Bytes) : Bytes :=
  (bytes.set 18 j.version).set 19 j.version

def isBlank (bytes : Bytes) : Bool := bytes.length ≤ 1

def journal? (bytes : Bytes) : Except DatabaseError Journal :=
  if ¬ magic.isPrefixOf bytes then .error .notADatabase
  else if 2 < number bytes 19 1 then .error .notADatabase
  else if number bytes 19 1 = 2 then .ok .log
  else .ok .rollback

def canWrite (bytes : Bytes) : Bool := number bytes 18 1 ≤ 2

def pageSize (bytes : Bytes) : Nat := 256 * number bytes 16 1 + 65536 * number bytes 17 1

def isPageSize (n : Nat) : Bool := (List.range 8).any (fun i => 512 * Nat.pow 2 i == n)

def usable (bytes : Bytes) : Nat := pageSize bytes - number bytes 20 1

def pagesThere (bytes : Bytes) : Nat := (bytes.length + pageSize bytes - 1) / pageSize bytes

def pages (bytes : Bytes) : Nat :=
  let n := number bytes 28 4
  if n = 0 ∨ number bytes 24 4 ≠ number bytes 92 4 then pagesThere bytes else n

def check (bytes : Bytes) : Except DatabaseError Unit :=
  if (bytes.drop 21).take 3 ≠ [64, 32, 32] then .error .notADatabase
  else if ¬ isPageSize (pageSize bytes) then .error .notADatabase
  else if pagesThere bytes < pages bytes then .error .damaged
  else if usable bytes < 480 then .error .notADatabase
  else if 4 < number bytes 47 1 then .error .unknownFormat
  else if number bytes 100 1 ≠ rowPage.toNat ∨ number bytes 103 2 ≠ 0 then .error .damaged
  else .ok ()

def hasWholeCounts (bytes : Bytes) : Bool :=
  number bytes 36 4 == 0 && number bytes 52 4 ≤ pages bytes

def hasRoom (bytes : Bytes) : Bool :=
  let top := if number bytes 105 2 = 0 then 65536 else number bytes 105 2
  let free := number bytes 107 1 + top
  number bytes 101 2 == 0 && length + 8 ≤ free && free ≤ usable bytes

end Header

end CodeSurvey.Database
