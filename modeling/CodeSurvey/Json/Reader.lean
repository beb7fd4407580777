import CodeSurvey.Json.Value
import CodeSurvey.Text.Numeral

/-! Strict JSON text; arrays and objects lie in each other at most 127 deep. -/

namespace CodeSurvey.Json

open Text (digit? hexDigit? ofDigits)

def isBlank (c : Char) : Bool := c = ' ' || c = '\t' || c = '\n' || c = '\r'

def skipBlank (cs : List Char) : List Char := cs.dropWhile isBlank

def unit : List Char → Option (Nat × List Char)
  | a :: b :: c :: d :: rest => do
    let a ← hexDigit? a
    let b ← hexDigit? b
    let c ← hexDigit? c
    let d ← hexDigit? d
    return (((a * 16 + b) * 16 + c) * 16 + d, rest)
  | _ => none

def isHighSurrogate (n : Nat) : Bool := 0xD800 ≤ n && n < 0xDC00

def isLowSurrogate (n : Nat) : Bool := 0xDC00 ≤ n && n < 0xE000

def character (cs : List Char) : Option (Char × List Char) :=
  match unit cs with
  | none => none
  | some (n, rest) =>
    if isLowSurrogate n then none
    else if isHighSurrogate n then
      match rest with
      | '\\' :: 'u' :: rest =>
        match unit rest with
        | none => none
        | some (m, rest) =>
          if isLowSurrogate m then
            some (Char.ofNat (0x10000 + (n - 0xD800) * 0x400 + (m - 0xDC00)), rest)
          else none
      | _ => none
    else some (Char.ofNat n, rest)

def escaped? : Char → Option Char
  | '"' => some '"'
  | '\\' => some '\\'
  | '/' => some '/'
  | 'b' => some '\x08'
  | 'f' => some '\x0c'
  | 'n' => some '\n'
  | 'r' => some '\r'
  | 't' => some '\t'
  | _ => none

def escape : List Char → Option (Char × List Char)
  | 'u' :: rest => character rest
  | c :: rest => (escaped? c).map (fun c => (c, rest))
  | [] => none

theorem unit_length {cs rest : List Char} {n : Nat} (h : unit cs = some (n, rest)) :
    rest.length < cs.length := by
  unfold unit at h
  split at h
  · simp only [Option.pure_def, Option.bind_eq_bind, Option.bind_eq_some_iff, Option.some.injEq,
      Prod.mk.injEq] at h
    obtain ⟨a, -, b, -, c, -, d, -, -, rfl⟩ := h
    simp only [List.length_cons]
    omega
  · cases h

theorem character_length {cs rest : List Char} {c : Char} (h : character cs = some (c, rest)) :
    rest.length < cs.length := by
  unfold character at h
  split at h
  · cases h
  · rename_i n r hu
    have h1 := unit_length hu
    split at h
    · cases h
    · split at h
      · split at h
        · split at h
          · cases h
          · rename_i m q hm
            have h2 := unit_length hm
            split at h
            · simp only [Option.some.injEq, Prod.mk.injEq] at h
              rw [← h.2]
              exact Nat.lt_trans h2 (Nat.lt_of_succ_lt (Nat.lt_of_succ_lt h1))
            · cases h
        · cases h
      · cases h
        exact h1

theorem escape_length {cs rest : List Char} {c : Char} (h : escape cs = some (c, rest)) :
    rest.length < cs.length := by
  unfold escape at h
  split at h
  · exact Nat.lt_succ_of_lt (character_length h)
  · simp only [Option.map_eq_some_iff, Prod.mk.injEq] at h
    obtain ⟨_, _, _, rfl⟩ := h
    simp
  · cases h

def stringEnd : List Char → Option (List Char × List Char)
  | [] => none
  | c :: cs =>
    if c = '"' then some ([], cs)
    else if c = '\\' then
      match _h : escape cs with
      | none => none
      | some (c, rest) => (stringEnd rest).map (fun r => (c :: r.1, r.2))
    else if c.toNat < 0x20 then none
    else (stringEnd cs).map (fun r => (c :: r.1, r.2))
termination_by cs => cs.length
decreasing_by
  · have := escape_length _h
    simp only [List.length_cons]
    omega
  · simp

def digits : List Char → List Nat × List Char
  | [] => ([], [])
  | c :: cs =>
    match digit? c with
    | some d => (d :: (digits cs).1, (digits cs).2)
    | none => ([], c :: cs)

def someDigits (cs : List Char) : Option (List Nat × List Char) :=
  match digits cs with
  | ([], _) => none
  | read => some read

def whole (cs : List Char) : Option (List Nat × List Char) :=
  match digits cs with
  | ([], _) => none
  | (0 :: _ :: _, _) => none
  | read => some read

def fraction : List Char → Option (Option (List Nat) × List Char)
  | '.' :: rest => (someDigits rest).map (fun r => (some r.1, r.2))
  | rest => some (none, rest)

def power (negative : Bool) (cs : List Char) : Option (Option Int × List Char) :=
  (someDigits cs).map
    (fun r =>
      let n : Int := (ofDigits 10 r.1 : Nat)
      (some (if negative then -n else n), r.2))

def exponent : List Char → Option (Option Int × List Char)
  | c :: rest =>
    if c = 'e' ∨ c = 'E' then
      match rest with
      | '+' :: rest => power false rest
      | '-' :: rest => power true rest
      | rest => power false rest
    else some (none, c :: rest)
  | [] => some (none, [])

def unsigned (negative : Bool) (cs : List Char) : Option (Literal × List Char) := do
  let (w, rest) ← whole cs
  let (f, rest) ← fraction rest
  let (e, rest) ← exponent rest
  return (⟨negative, w, f, e⟩, rest)

def literal : List Char → Option (Literal × List Char)
  | '-' :: rest => unsigned true rest
  | rest => unsigned false rest

def number (cs : List Char) : Option (Value × List Char) := do
  let (l, rest) ← literal cs
  let v ← l.value?
  return (v, rest)

def word (w : String) (v : Value) (cs : List Char) : Option (Value × List Char) :=
  if w.toList.isPrefixOf cs then some (v, cs.drop w.length) else none

def elements {α : Type} (close : Char) (one : List Char → Option (α × List Char)) :
    Nat → List Char → Option (List α × List Char)
  | 0, _ => none
  | fuel + 1, cs =>
    match one cs with
    | none => none
    | some (a, rest) =>
      match skipBlank rest with
      | ',' :: rest => (elements close one fuel rest).map (fun r => (a :: r.1, r.2))
      | c :: rest => if c = close then some ([a], rest) else none
      | [] => none

/-- What stands between two marks. Every element takes up a character, so the length is enough. -/
def enclosed {α : Type} (close : Char) (one : List Char → Option (α × List Char))
    (cs : List Char) : Option (List α × List Char) :=
  match skipBlank cs with
  | [] => none
  | c :: rest => if c = close then some ([], rest) else elements close one (cs.length + 1) cs

def member (one : List Char → Option (Value × List Char)) (cs : List Char) :
    Option ((String × Value) × List Char) :=
  match skipBlank cs with
  | '"' :: rest => do
    let (name, rest) ← stringEnd rest
    match skipBlank rest with
    | ':' :: rest => do
      let (v, rest) ← one rest
      return ((String.ofList name, v), rest)
    | _ => none
  | _ => none

def scalar (cs : List Char) : Option (Value × List Char) :=
  match cs with
  | 'n' :: _ => word "null" .null cs
  | 't' :: _ => word "true" (.bool true) cs
  | 'f' :: _ => word "false" (.bool false) cs
  | '"' :: rest => (stringEnd rest).map (fun r => (.text (String.ofList r.1), r.2))
  | _ => number cs

def value : (depth : Nat) → List Char → Option (Value × List Char)
  | 0, cs =>
    match skipBlank cs with
    | '[' :: _ => none
    | '\x7b' :: _ => none
    | cs => scalar cs
  | depth + 1, cs =>
    match skipBlank cs with
    | '[' :: rest => (enclosed ']' (value depth) rest).map (fun r => (.array r.1, r.2))
    | '\x7b' :: rest =>
      (enclosed '\x7d' (member (value depth)) rest).map (fun r => (.object r.1, r.2))
    | cs => scalar cs

def maxDepth : Nat := 127

def parse? (s : String) : Option Value :=
  match value maxDepth s.toList with
  | some (v, rest) => if skipBlank rest = [] then some v else none
  | none => none

end CodeSurvey.Json
