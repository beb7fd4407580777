/-! Labels beyond ASCII in letters, digits and hyphens. -/

namespace CodeSurvey.Url.Punycode

def digit (d : Nat) : Char :=
  if d < 26 then Char.ofNat ('a'.toNat + d) else Char.ofNat ('0'.toNat + (d - 26))

def threshold (k bias : Nat) : Nat :=
  if k ≤ bias then 1 else if bias + 26 ≤ k then 26 else k - bias

theorem threshold_pos (k bias : Nat) : 1 ≤ threshold k bias := by
  unfold threshold
  split
  · omega
  · split <;> omega

def digits (bias : Nat) (k n : Nat) : List Char :=
  let t := threshold k bias
  if n < t then [digit n]
  else digit (t + (n - t) % (36 - t)) :: digits bias (k + 36) ((n - t) / (36 - t))
termination_by n
decreasing_by
  have := threshold_pos k bias
  exact Nat.lt_of_le_of_lt (Nat.div_le_self _ _) (by omega)

def shrink (delta k : Nat) : Nat :=
  if 455 < delta then shrink (delta / 35) (k + 36) else k + 36 * delta / (delta + 38)
termination_by delta
decreasing_by exact Nat.div_lt_self (by omega) (by omega)

def adapt (delta written : Nat) (isFirst : Bool) : Nat :=
  let delta := if isFirst then delta / 700 else delta / 2
  shrink (delta + delta / written) 0

structure Progress where
  out : List Char
  written : Nat
  delta : Nat
  bias : Nat
  isFirst : Bool

def Progress.step (code : Nat) (p : Progress) (c : Char) : Progress :=
  if c.toNat < code then { p with delta := p.delta + 1 }
  else if c.toNat = code then
    ⟨p.out ++ digits p.bias 36 p.delta, p.written + 1, 0, adapt p.delta (p.written + 1) p.isFirst,
      false⟩
  else p

def Progress.write (cs : List Char) : List Nat → Nat → Progress → Progress
  | [], _, p => p
  | code :: codes, next, p =>
    let q := cs.foldl (Progress.step code)
      { p with delta := p.delta + (code - next) * (p.written + 1) }
    Progress.write cs codes (code + 1) { q with delta := q.delta + 1 }

def isAscii (c : Char) : Bool := c.toNat < 0x80

def encode (cs : List Char) : List Char :=
  let plain := cs.filter isAscii
  let codes := ((cs.filter (fun c => !isAscii c)).map Char.toNat).mergeSort.eraseDups
  let head := if plain = [] then [] else plain ++ ['-']
  (Progress.write cs codes 128 ⟨head, plain.length, 0, 72, true⟩).out

def digitValue? (c : Char) : Option Nat :=
  if 'a' ≤ c ∧ c ≤ 'z' then some (c.toNat - 'a'.toNat)
  else if 'A' ≤ c ∧ c ≤ 'Z' then some (c.toNat - 'A'.toNat)
  else if '0' ≤ c ∧ c ≤ '9' then some (c.toNat - '0'.toNat + 26)
  else none

def limit : Nat := Nat.pow 2 32

/-- What is read so far: the characters, the last code, and the place behind the last character. Of
the number that is being read there are the sum, the weight of its next digit and that digit's
place. -/
structure Reading where
  name : List Char
  code : Nat
  bias : Nat
  place : Nat
  sum : Nat
  weight : Nat
  k : Nat

def Reading.insert (r : Reading) (sum : Nat) : Option Reading :=
  let count := r.name.length + 1
  let code := r.code + sum / count
  let spot := sum % count
  if code.isValidChar then
    some ⟨r.name.insertIdx spot (Char.ofNat code), code, adapt (sum - r.place) count (r.place == 0),
      spot + 1, spot + 1, 1, 36⟩
  else none

def Reading.step (r : Reading) (c : Char) : Option Reading := do
  let d ← digitValue? c
  let sum := r.sum + d * r.weight
  let t := threshold r.k r.bias
  if limit ≤ sum then none
  else if d < t then r.insert sum
  else if limit ≤ r.weight * (36 - t) then none
  else some { r with sum := sum, weight := r.weight * (36 - t), k := r.k + 36 }

def decode? (cs : List Char) : Option (List Char) := do
  let back := cs.reverse.span (· != '-')
  let plain := back.2.tail.reverse
  if plain = [] ∧ back.2 ≠ [] then none
  let r ← back.1.reverse.foldlM Reading.step ⟨plain, 128, 72, 0, 0, 1, 36⟩
  if r.k = 36 then some r.name else none

end CodeSurvey.Url.Punycode
