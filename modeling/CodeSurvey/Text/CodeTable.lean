import CodeSurvey.Text.Basic
import CodeSurvey.Text.Numeral

/-! Tables over code points: `first-last:values`, or `first~last` for every second one. -/

namespace CodeSurvey.Text

structure CodeEntry where
  first : Nat
  last : Nat
  stride : Nat
  values : List Nat
deriving DecidableEq, Repr

abbrev CodeTable := Array CodeEntry

def words (cs : List Char) : List (List Char) :=
  let close (w : List Char × List (List Char)) := if w.1 = [] then w.2 else w.1 :: w.2
  close (cs.foldr (fun c w => if isBlank c then ([], close w) else (c :: w.1, w.2)) ([], []))

namespace CodeEntry

def number (digits : List Char) : Nat := ofDigits 16 (digits.filterMap hexDigit?)

def ofCodes (cs : List Char) : CodeEntry :=
  match cs.splitOn '-', cs.splitOn '~' with
  | [first, last], _ => ⟨number first, number last, 1, []⟩
  | _, [first, last] => ⟨number first, number last, 2, []⟩
  | _, _ => ⟨number cs, number cs, 1, []⟩

def ofWord (cs : List Char) : CodeEntry :=
  match cs.splitOn ':' with
  | [codes, values] => { ofCodes codes with values := (values.splitOn '.').map number }
  | _ => ofCodes cs

def covers (e : CodeEntry) (n : Nat) : Bool :=
  e.first ≤ n && n ≤ e.last && (n - e.first) % e.stride == 0

end CodeEntry

namespace CodeTable

def ofText (s : String) : CodeTable := ((words s.toList).map CodeEntry.ofWord).toArray

def find? (t : CodeTable) (n : Nat) : Option CodeEntry := Array.find? (fun e => e.covers n) t

def withValues? (t : CodeTable) (values : List Nat) : Option CodeEntry :=
  Array.find? (fun e => e.values == values) t

def contains (t : CodeTable) (c : Char) : Bool := (t.find? c.toNat).isSome

def values? (t : CodeTable) (c : Char) : Option (List Nat) := (t.find? c.toNat).map CodeEntry.values

def image? (t : CodeTable) (c : Char) : Option (List Char) :=
  (t.find? c.toNat).map (fun e => e.values.map (fun v => Char.ofNat (v + (c.toNat - e.first))))

end CodeTable

end CodeSurvey.Text
