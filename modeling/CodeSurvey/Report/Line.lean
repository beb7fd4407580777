import CodeSurvey.Record
import CodeSurvey.Text.Numeral
import CodeSurvey.Text.Basic
import CodeSurvey.Text.Utf8

/-! The analyzer's report by lines; what follows its last newline is not a line. -/

namespace CodeSurvey.Report

open Text (Numeral.read? Numeral.maxInt64)
open Text.Utf8 (Bytes)

def comma : UInt8 := 44
def newline : UInt8 := 10
def carriageReturn : UInt8 := 13

def withoutReturn (line : Bytes) : Bytes :=
  if line.getLast? = some carriageReturn then line.dropLast else line

def numeral? (field : Bytes) : Option Int :=
  (Numeral.read? Numeral.maxInt64 (field.map UInt8.toNat)).map Int.ofNat

def path? (field : Bytes) : Option String :=
  if field = [] then none else Text.Utf8.decode? field

def parseFields : List Bytes → Option Finding
  | [path, line, column, kind, width, strategy] => do
    let path ← path? path
    let line ← numeral? line
    let column ← numeral? column
    let kind ← numeral? kind
    let width ← numeral? width
    let strategy ← numeral? strategy
    return ⟨path, ⟨line, column, kind, width, strategy⟩⟩
  | _ => none

def parseLine (line : Bytes) : Option Finding :=
  parseFields ((withoutReturn line).splitOn comma)

def lines (report : Bytes) : List Bytes :=
  (report.splitOn newline).dropLast

def parse (report : Bytes) : List Finding :=
  (lines report).filterMap parseLine

end CodeSurvey.Report
