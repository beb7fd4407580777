import CodeSurvey.Text.CanonicalTables

/-! The composed form: taken apart, marks in the order of their classes, composed again. -/

namespace CodeSurvey.Text

namespace Hangul

def leads : Nat := 19

def vowels : Nat := 21

def trails : Nat := 28

def firstLead : Nat := 0x1100

def firstVowel : Nat := 0x1161

def beforeTrails : Nat := 0x11A7

def firstSyllable : Nat := 0xAC00

def placeIn? (first count : Nat) (c : Char) : Option Nat :=
  if first ≤ c.toNat ∧ c.toNat < first + count then some (c.toNat - first) else none

def decompose? (c : Char) : Option (List Char) :=
  (placeIn? firstSyllable (leads * vowels * trails) c).map (fun n =>
    [Char.ofNat (firstLead + n / (vowels * trails)),
      Char.ofNat (firstVowel + n / trails % vowels)] ++
    if n % trails = 0 then [] else [Char.ofNat (beforeTrails + n % trails)])

def compose? (a b : Char) : Option Char :=
  match placeIn? firstLead leads a, placeIn? firstVowel vowels b,
      placeIn? firstSyllable (leads * vowels * trails) a, placeIn? beforeTrails trails b with
  | some lead, some vowel, _, _ =>
    some (Char.ofNat (firstSyllable + (lead * vowels + vowel) * trails))
  | _, _, some syllable, some trail =>
    if syllable % trails = 0 ∧ 0 < trail then some (Char.ofNat (a.toNat + trail)) else none
  | _, _, _, _ => none

end Hangul

def apart (c : Char) : List Char :=
  match Hangul.decompose? c with
  | some cs => cs
  | none =>
    match CanonicalTables.composed.values? c with
    | some parts => parts.map Char.ofNat
    | none => (CanonicalTables.standIns.image? c).getD [c]

/-- Composed characters are nested three deep at most. -/
def decompose (cs : List Char) : List Char :=
  ((cs.flatMap apart).flatMap apart).flatMap apart

def markClass (c : Char) : Nat :=
  ((CanonicalTables.classes.values? c).bind List.head?).getD 0

def insertMark (c : Char) : List Char → List Char
  | [] => [c]
  | m :: ms => if markClass m ≤ markClass c then m :: insertMark c ms else c :: m :: ms

def orderMarks (marks : List Char) : List Char → List Char
  | [] => marks
  | c :: cs =>
    if markClass c = 0 then marks ++ c :: orderMarks [] cs else orderMarks (insertMark c marks) cs

def composePair? (a b : Char) : Option Char :=
  match Hangul.compose? a b with
  | some c => some c
  | none =>
    (CanonicalTables.composed.withValues? [a.toNat, b.toNat]).map (fun e => Char.ofNat e.first)

structure Cluster where
  base : Char
  marks : List Char

def Cluster.hides (k : Cluster) (c : Char) : Bool :=
  k.marks.getLast?.any (fun m => markClass c ≤ markClass m)

def Cluster.chars (k : Cluster) : List Char := k.base :: k.marks

def composeFrom : Option Cluster → List Char → List Char
  | k, [] => (k.map Cluster.chars).getD []
  | none, c :: cs =>
    if markClass c = 0 then composeFrom (some ⟨c, []⟩) cs else c :: composeFrom none cs
  | some k, c :: cs =>
    match if k.hides c then none else composePair? k.base c with
    | some d => composeFrom (some { k with base := d }) cs
    | none =>
      if markClass c = 0 then k.chars ++ composeFrom (some ⟨c, []⟩) cs
      else composeFrom (some { k with marks := k.marks ++ [c] }) cs

def compose (cs : List Char) : List Char := composeFrom none (orderMarks [] (decompose cs))

end CodeSurvey.Text
