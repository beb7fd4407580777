import CodeSurvey.Number.Duration
import CodeSurvey.Text.Basic
import CodeSurvey.Text.Numeral
import CodeSurvey.Text.Utf8

/-! What an answer says about rate limits, and how long to wait before asking again. -/

namespace CodeSurvey.Discovery

structure Moment where
  nanos : Int
deriving DecidableEq, Repr

def Moment.after (m : Moment) (d : Duration) : Moment := ⟨m.nanos + d.nanos⟩

def Moment.seconds (m : Moment) : Binary64 :=
  (Duration.mk m.nanos.toNat).toBinary64

structure RateLimit where
  retryAfter : Option Nat
  remaining : Option Nat
  reset : Option Nat
deriving DecidableEq, Repr

namespace RateLimit

def silent : RateLimit := ⟨none, none, none⟩

/-- A wait, if there is one; none fits where the wait passes the longest duration. -/
inductive Backoff where
  | proceed
  | wait (d : Duration)
  | tooLong
deriving DecidableEq, Repr

def untilReset (reset : Nat) (now : Moment) : Binary64 :=
  (((Binary64.ofNat reset).sub now.seconds).add (.ofNat 1)).max (.ofNat 1)

def backoff (l : RateLimit) (now : Moment) : Backoff :=
  match l.remaining, l.reset, l.retryAfter with
  | some 0, some reset, _ =>
    match Duration.ofBinary64? (untilReset reset now) with
    | some d => .wait d
    | none => .tooLong
  | _, _, some 0 => .proceed
  | _, _, some n => .wait (.ofSeconds n)
  | some 0, none, none => .wait (.ofSeconds 1)
  | _, _, none => .proceed

@[simp] theorem silent_backoff (now : Moment) : silent.backoff now = .proceed := rfl

end RateLimit

structure Header where
  name : String
  value : Text.Utf8.Bytes
deriving DecidableEq, Repr

namespace Header

def isNameChar (c : Char) : Bool :=
  c.isAlphanum || "!#$%&'*+-.^_`|~".toList.contains c

def isValue (value : Text.Utf8.Bytes) : Bool :=
  value.all (fun b => (32 ≤ b && b != 127) || b == 9)

def wellFormed (h : Header) : Bool :=
  h.name.toList.all isNameChar && h.name != "" && isValue h.value

def visible? (value : Text.Utf8.Bytes) : Option (List Char) :=
  if value.all (fun b => (32 ≤ b && b < 127) || b == 9) then
    some (value.map (fun b => Char.ofNat b.toNat))
  else none

def number? (value : Text.Utf8.Bytes) : Option Nat :=
  (visible? value).bind
    (fun cs => Text.Numeral.readPlus? Text.Numeral.maxWord64
      ((Text.trimChars cs).map Char.toNat))

def first? (headers : List Header) (name : String) : Option Header :=
  headers.find? (fun h => h.name.toLower == name)

end Header

def RateLimit.ofHeaders (headers : List Header) : RateLimit :=
  let number (name : String) := (Header.first? headers name).bind (fun h => Header.number? h.value)
  ⟨number "retry-after", number "x-ratelimit-remaining", number "x-ratelimit-reset"⟩

end CodeSurvey.Discovery
