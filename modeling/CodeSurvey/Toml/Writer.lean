import CodeSurvey.Text.Numeral

/-! Documents as they are written, each text in the first of four forms that needs no escape. -/

namespace CodeSurvey.Toml

inductive Form where
  | basic
  | literal
  | basicLines
  | literalLines
deriving DecidableEq, Repr

def needsCode (c : Char) : Bool :=
  (c.toNat < 0x20 && c != '\t' && c != '\n') || c.toNat == 0x7F

def longestRun (c : Char) : (run : Nat) → List Char → Nat
  | run, [] => run
  | run, d :: ds => if d = c then longestRun c (run + 1) ds else max run (longestRun c 0 ds)

namespace Form

def choose (cs : List Char) : Form :=
  let coded := cs.any needsCode
  let backslash := cs.contains '\\'
  let newline := cs.contains '\n'
  let quotes := longestRun '"' 0 cs
  let apostrophes := longestRun '\'' 0 cs
  if !coded && !backslash && quotes == 0 && !newline then .basic
  else if !coded && apostrophes == 0 && !newline then .literal
  else if !coded && !backslash && quotes ≤ 2 then .basicLines
  else if !coded && apostrophes ≤ 2 then .literalLines
  else if newline then .basicLines
  else .basic

def hexCode (n : Nat) : List Char :=
  [n / 4096 % 16, n / 256 % 16, n / 16 % 16, n % 16].map Text.hexChar

def escaped (lines : Bool) (c : Char) : List Char :=
  if c = '\\' then ['\\', '\\']
  else if c = '\n' then if lines then ['\n'] else ['\\', 'n']
  else if c = '\t' then ['\\', 't']
  else if c = '\r' then ['\\', 'r']
  else if c = '\x08' then ['\\', 'b']
  else if c = '\x0c' then ['\\', 'f']
  else if needsCode c then '\\' :: 'u' :: hexCode c.toNat
  else [c]

def bareQuotes (lines : Bool) : Nat := if lines then 2 else 0

def body (lines : Bool) : (run : Nat) → List Char → List Char
  | _, [] => []
  | run, c :: cs =>
    if c = '"' then
      if run < bareQuotes lines then '"' :: body lines (run + 1) cs
      else '\\' :: '"' :: body lines 0 cs
    else escaped lines c ++ body lines 0 cs

def opening (cs : List Char) : List Char := if cs.contains '\n' then ['\n'] else []

def write (cs : List Char) : Form → List Char
  | .basic => '"' :: body false 0 cs ++ ['"']
  | .literal => '\'' :: cs ++ ['\'']
  | .basicLines => ['"', '"', '"'] ++ opening cs ++ body true 0 cs ++ ['"', '"', '"']
  | .literalLines => ['\'', '\'', '\''] ++ opening cs ++ cs ++ ['\'', '\'', '\'']

end Form

def quoted (s : String) : String :=
  String.ofList ((Form.choose s.toList).write s.toList)

inductive Scalar where
  | text (s : String)
  | integer (n : Int)
  | bool (b : Bool)
deriving DecidableEq, Repr

structure Block where
  name : Option String
  entries : List (String × Scalar)
deriving DecidableEq, Repr

def Scalar.fits : Scalar → Bool
  | .integer n => -(Text.Numeral.maxInt64 + 1 : Int) ≤ n && n ≤ Text.Numeral.maxInt64
  | _ => true

def Scalar.write : Scalar → String
  | .text s => quoted s
  | .integer n => toString n
  | .bool true => "true"
  | .bool false => "false"

def writeEntry (e : String × Scalar) : String := e.1 ++ " = " ++ e.2.write ++ "\n"

def Block.write (b : Block) : String :=
  (match b.name with
    | some name => "[" ++ name ++ "]\n"
    | none => "") ++ String.join (b.entries.map writeEntry)

def write? (blocks : List Block) : Option String :=
  if blocks.all (fun b => b.entries.all (fun e => e.2.fits)) then
    some (String.intercalate "\n" (blocks.map Block.write))
  else none

end CodeSurvey.Toml
