import CodeSurvey.Text.Canonical
import CodeSurvey.Url.DomainTables
import CodeSurvey.Url.JoinerTables
import CodeSurvey.Url.Punycode

/-! The labels of a domain name, mapped to what they stand for. -/

namespace CodeSurvey.Url

def standsFor (c : Char) : Option (List Char) :=
  if DomainTables.refused.contains c then none
  else if DomainTables.ignored.contains c then some []
  else some ((DomainTables.replaced.image? c).getD [c])

def mapName (cs : List Char) : Option (List Char) :=
  (cs.mapM standsFor).map (fun images => Text.compose images.flatten)

def isForbidden (c : Char) : Bool :=
  c.toNat ≤ 0x20 || c.toNat == 0x7F || "%#/:<>?@[\\]^|".toList.contains c

namespace Joiner

def zeroWidthJoiner : Char := Char.ofNat 0x200D

def zeroWidthNonJoiner : Char := Char.ofNat 0x200C

def silencing : Nat := 9

def facing? (cs : List Char) : Option Char :=
  cs.find? (fun c => !JoinerTables.transparent.contains c)

def joinsNext (c : Char) : Bool := JoinerTables.both.contains c || JoinerTables.left.contains c

def joinsLast (c : Char) : Bool := JoinerTables.both.contains c || JoinerTables.right.contains c

/-- A joiner follows a silent consonant, or keeps two characters apart that would join. `before` is
what stands before it, the nearest first. -/
def isPlaced (c : Char) (before after : List Char) : Bool :=
  before.head?.any (fun b => Text.markClass b == silencing) ||
    (c == zeroWidthNonJoiner && (facing? before).any joinsNext && (facing? after).any joinsLast)

def areAllPlaced : List Char → List Char → Bool
  | _, [] => true
  | before, c :: after =>
    ((c != zeroWidthJoiner && c != zeroWidthNonJoiner) || isPlaced c before after) &&
      areAllPlaced (c :: before) after

end Joiner

structure Label where
  name : List Char
  sent : List Char
deriving DecidableEq, Repr

namespace Label

def longest : Nat := 1000

def longestEncoding : Nat := 2000

def encodingMark : List Char := "xn--".toList

def isName (cs : List Char) : Bool :=
  cs.all Punycode.isAscii ||
    (cs.length ≤ longest && !cs.head?.any DomainTables.marks.contains && Joiner.areAllPlaced [] cs)

def ofEncoding? (digits : List Char) : Option Label :=
  if longestEncoding < digits.length ∨ digits.getLast?.all (· == '-') then none
  else
    match Punycode.decode? digits with
    | none => none
    | some name =>
      let isWhole := name.all (fun c => !isForbidden c && c != '.')
      if mapName name = some name ∧ isWhole ∧ isName name then
        some ⟨name, encodingMark ++ digits⟩
      else none

def read? (cs : List Char) : Option Label :=
  if encodingMark.isPrefixOf cs then ofEncoding? (cs.drop encodingMark.length)
  else if isName cs then
    some ⟨cs, if cs.all Punycode.isAscii then cs else encodingMark ++ Punycode.encode cs⟩
  else none

end Label

end CodeSurvey.Url
