import CodeSurvey.Number.Binary64

/-! Lengths of time in nanoseconds, and in words. -/

namespace CodeSurvey

structure Duration where
  nanos : Nat
deriving DecidableEq, Repr

namespace Duration

def nanosPerSecond : Nat := 1000000000

def ofSeconds (n : Nat) : Duration := ⟨n * nanosPerSecond⟩

def ofMillis (n : Nat) : Duration := ⟨n * 1000000⟩

def zero : Duration := ⟨0⟩

def add (a b : Duration) : Duration := ⟨a.nanos + b.nanos⟩

def min (a b : Duration) : Duration := ⟨Nat.min a.nanos b.nanos⟩

def seconds (d : Duration) : Nat := d.nanos / nanosPerSecond

def subseconds (d : Duration) : Nat := d.nanos % nanosPerSecond

def toBinary64 (d : Duration) : Binary64 :=
  (Binary64.ofNat d.seconds).add (Binary64.ofFraction d.subseconds nanosPerSecond)

def limit : Nat := Nat.pow 2 64 * nanosPerSecond

def ofBinary64? (x : Binary64) : Option Duration :=
  if Nat.pow 2 64 * Binary64.one ≤ x.units.toNat then none
  else
    let nanos := Binary64.nearest (x.units.toNat * nanosPerSecond) Binary64.one
    if limit ≤ nanos then none else some ⟨nanos⟩

structure TimeUnit where
  seconds : Nat
  name : String
deriving DecidableEq, Repr

def second : TimeUnit := ⟨1, "second"⟩

def largerUnits : List (TimeUnit × TimeUnit) :=
  let minute : TimeUnit := ⟨60, "minute"⟩
  let hour : TimeUnit := ⟨3600, "hour"⟩
  let day : TimeUnit := ⟨86400, "day"⟩
  let week : TimeUnit := ⟨604800, "week"⟩
  let year : TimeUnit := ⟨31536000, "year"⟩
  [(year, week), (week, day), (day, hour), (hour, minute), (minute, second)]

def reaches (d : Duration) (unit below : TimeUnit) : Bool :=
  3 * unit.seconds * nanosPerSecond ≤ 2 * d.nanos + below.seconds * nanosPerSecond

def unitFor (d : Duration) : TimeUnit :=
  match largerUnits.find? (fun u => d.reaches u.1 u.2) with
  | some u => u.1
  | none => second

def countIn (d : Duration) (unit : TimeUnit) : Nat :=
  let n := (d.toBinary64.divNat unit.seconds).roundHalfUp
  if unit = second then n else Nat.max n 2

def inWords (d : Duration) : String :=
  let unit := d.unitFor
  let n := d.countIn unit
  toString n ++ " " ++ unit.name ++ (if n = 1 then "" else "s")

end Duration

end CodeSurvey
