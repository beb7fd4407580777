import CodeSurvey.Text.Numeral
import CodeSurvey.Text.Utf8

/-! The two counters of the summary; zero where no label is followed by digits that fit. -/

namespace CodeSurvey.Report

open Text (Numeral.isDigit Numeral.read? Numeral.maxInt64)

structure Counters where
  successful : Int
  errors : Int
deriving DecidableEq, Repr

def successfulLabel : List Nat := "Successful: ".toList.map Char.toNat

def errorsLabel : List Nat := "Errors: ".toList.map Char.toNat

def digitsAfter (label : List Nat) : List Nat → List Nat
  | [] => []
  | code :: codes =>
    if label.isPrefixOf (code :: codes) then
      match ((code :: codes).drop label.length).takeWhile Numeral.isDigit with
      | [] => digitsAfter label codes
      | digits => digits
    else digitsAfter label codes

def counter (label codes : List Nat) : Int :=
  ((Numeral.read? Numeral.maxInt64 (digitsAfter label codes)).getD 0 : Nat)

def Counters.scan (codes : List Nat) : Counters :=
  ⟨counter successfulLabel codes, counter errorsLabel codes⟩

def Counters.parse (output : Text.Utf8.Bytes) : Counters :=
  .scan ((Text.Utf8.lenientChars output).map Char.toNat)

def Counters.scanBytes (output : Text.Utf8.Bytes) : Counters :=
  .scan (output.map UInt8.toNat)

end CodeSurvey.Report
