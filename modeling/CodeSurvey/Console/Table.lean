import CodeSurvey.Record
import CodeSurvey.Text.Basic
import CodeSurvey.Text.Width

/-! Tables with a head and rounded corners; one without rows is empty. -/

namespace CodeSurvey.Console

abbrev Cell := List String

namespace Cell

def ofText (s : String) : Cell := Text.splitText '\n' s

def width (c : Cell) : Nat := (c.map Text.width).foldl max 0

end Cell

structure Table where
  head : List String
  rows : List (List String)
deriving DecidableEq, Repr

namespace Table

def cells (t : Table) : List (List Cell) :=
  (t.head :: t.rows).map (fun row => row.map Cell.ofText)

def widths (t : Table) : List Nat :=
  t.cells.foldl
    (fun ws row => List.zipWith max ws (row.map Cell.width))
    (t.head.map (fun _ => 0))

def rule (widths : List Nat) (left middle right : String) : String :=
  left ++
    String.intercalate middle
      (widths.map (fun w => String.ofList (List.replicate (w + 2) '─'))) ++ right

def padded (width : Nat) (line : String) : String := line ++ Text.blanks (width - Text.width line)

def line (widths : List Nat) (row : List Cell) (i : Nat) : String :=
  "│" ++
    String.join (List.zipWith (fun w c => " " ++ padded w (c.getD i "") ++ " │") widths row)

def height (row : List Cell) : Nat := (row.map List.length).foldl max 0

def rowLines (widths : List Nat) (row : List Cell) : List String :=
  (List.range (height row)).map (line widths row)

def render (t : Table) : String :=
  match t.cells with
  | [] => ""
  | [_] => ""
  | head :: rows =>
    let ws := t.widths
    String.intercalate "\n"
      ([rule ws "╭" "┬" "╮"] ++ rowLines ws head ++ [rule ws "├" "┼" "┤"] ++
        rows.flatMap (rowLines ws) ++ [rule ws "╰" "┴" "╯"])

end Table

def statisticsTable (rows : List (String × String)) : Table :=
  ⟨["Metric", "Value"], rows.map (fun row => [row.1, row.2])⟩

def findingsTable (findings : List Finding) : Table :=
  ⟨["File", "Line", "Col", "Kind", "Width", "Strategy"],
    findings.map (fun f => f.path :: f.site.fields.map toString)⟩

end CodeSurvey.Console
