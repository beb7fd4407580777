import CodeSurvey.Text.Numeral
import CodeSurvey.Toml.Number

namespace CodeSurvey.Toml

open Text (digit? ofDigits)

def digitsIn (count low high : Nat) (cs : List Char) : Option (Nat × List Char) :=
  let ds := (cs.take count).filterMap digit?
  let n := ofDigits 10 ds
  if ds.length = count ∧ low ≤ n ∧ n ≤ high then some (n, cs.drop count) else none

def mark (c : Char) : List Char → Option (List Char)
  | [] => none
  | d :: cs => if d = c then some cs else none

def isLeap (year : Nat) : Bool :=
  year % 4 == 0 && (year % 100 != 0 || year % 400 == 0)

def daysIn (year month : Nat) : Nat :=
  if month = 2 then if isLeap year then 29 else 28
  else if month ∈ [4, 6, 9, 11] then 30
  else 31

def date (cs : List Char) : Option (List Char) := do
  let (year, cs) ← digitsIn 4 0 9999 cs
  let cs ← mark '-' cs
  let (month, cs) ← digitsIn 2 1 12 cs
  let cs ← mark '-' cs
  let (_, cs) ← digitsIn 2 1 (daysIn year month) cs
  return cs

def secondFraction (cs : List Char) : Option (List Char) :=
  match cs with
  | '.' :: c :: rest =>
    if (digit? c).isSome then some (rest.dropWhile (fun c => (digit? c).isSome)) else none
  | '.' :: [] => none
  | cs => some cs

def time (cs : List Char) : Option (List Char) := do
  let (_, cs) ← digitsIn 2 0 23 cs
  let cs ← mark ':' cs
  let (_, cs) ← digitsIn 2 0 59 cs
  let cs ← mark ':' cs
  let (_, cs) ← digitsIn 2 0 60 cs
  secondFraction cs

def offset (cs : List Char) : Option (List Char) := do
  match cs with
  | [] => none
  | c :: cs =>
    if c = 'Z' ∨ c = 'z' then return cs
    else if c = '+' ∨ c = '-' then
      let (_, cs) ← digitsIn 2 0 23 cs
      let cs ← mark ':' cs
      let (_, cs) ← digitsIn 2 0 59 cs
      return cs
    else none

def timeAfter : List Char → Option (List Char)
  | [] => none
  | c :: cs =>
    if c = 'T' ∨ c = 't' ∨ c = ' ' then
      (time cs).map (fun cs => (offset cs).getD cs)
    else none

def momentEnd (cs : List Char) : Option (List Char) :=
  match date cs with
  | some rest => some ((timeAfter rest).getD rest)
  | none => time cs

def moment (cs : List Char) : Option (Item × List Char) :=
  (momentEnd cs).map (fun rest => (.moment (between cs rest), rest))

end CodeSurvey.Toml
