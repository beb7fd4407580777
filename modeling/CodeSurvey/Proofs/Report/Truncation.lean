import CodeSurvey.Report.Line
import Mathlib.Data.List.Induction

/-! Reports that break off. -/

namespace CodeSurvey.Report

open Text.Utf8 (Bytes encode)

def Ended (report : Bytes) : Prop := report = [] ∨ report.getLast? = some newline

variable {front rest line : Bytes}

theorem lines_of_notMem (h : newline ∉ rest) : lines rest = [] := by
  rw [lines, List.splitOn_eq_singleton h, List.dropLast_singleton]

theorem lines_append_newline (front rest : Bytes) :
    lines (front ++ newline :: rest) = front.splitOn newline ++ lines rest := by
  rw [lines, List.splitOn_append_cons_self,
    List.dropLast_append_of_ne_nil (List.splitOn_ne_nil newline rest), lines]

theorem Ended.lines_append (h : Ended front) (rest : Bytes) :
    lines (front ++ rest) = lines front ++ lines rest := by
  rcases h with rfl | h
  · rfl
  obtain ⟨body, rfl⟩ := List.getLast?_eq_some_iff.1 h
  have hnil : lines [] = [] := lines_of_notMem List.not_mem_nil
  rw [List.append_assoc, List.singleton_append, lines_append_newline, lines_append_newline, hnil,
    List.append_nil]

theorem Ended.parse_append (h : Ended front) (rest : Bytes) :
    parse (front ++ rest) = parse front ++ parse rest := by
  rw [parse, h.lines_append, List.filterMap_append, parse, parse]

theorem parse_of_notMem (h : newline ∉ rest) : parse rest = [] := by
  rw [parse, lines_of_notMem h, List.filterMap_nil]

theorem Ended.parse_unended (h : Ended front) (hrest : newline ∉ rest) :
    parse (front ++ rest) = parse front := by
  rw [h.parse_append, parse_of_notMem hrest, List.append_nil]

theorem parse_line (h : newline ∉ line) : parse (line ++ [newline]) = (parseLine line).toList := by
  have hnil : lines [] = [] := lines_of_notMem List.not_mem_nil
  rw [parse, lines_append_newline, List.splitOn_eq_singleton h, hnil, List.append_nil,
    List.filterMap_cons, List.filterMap_nil]
  cases parseLine line <;> rfl

theorem exists_ended (report : Bytes) :
    ∃ front rest, report = front ++ rest ∧ Ended front ∧ newline ∉ rest := by
  -- from the right: only the last byte says whether the report is at an end
  induction report using List.reverseRecOn with
  | nil => exact ⟨[], [], rfl, Or.inl rfl, List.not_mem_nil⟩
  | append_singleton report b ih =>
    by_cases hb : b = newline
    · subst hb
      exact ⟨_, [], (List.append_nil _).symm, Or.inr List.getLast?_concat, List.not_mem_nil⟩
    · obtain ⟨front, rest, rfl, hfront, hrest⟩ := ih
      refine ⟨front, rest ++ [b], List.append_assoc front rest [b], hfront, ?_⟩
      intro hm
      rcases List.mem_append.1 hm with hm | hm
      · exact hrest hm
      · exact hb (List.mem_singleton.1 hm).symm

theorem parse_begins (report more : Bytes) : parse report <+: parse (report ++ more) := by
  obtain ⟨front, rest, rfl, hfront, hrest⟩ := exists_ended report
  rw [hfront.parse_unended hrest, List.append_assoc, hfront.parse_append]
  exact List.prefix_append _ _

/-- A cut leaves the beginning of what the whole report lists, and a cut at the end of a line leaves
the rest to be read on its own. A line that is cut anywhere lists nothing, and all of it, once its
newline has come, what it says. -/
theorem parse_cut :
    (∀ (report : Bytes) (n : Nat), parse (report.take n) <+: parse report) ∧
      (∀ front rest : Bytes, Ended front → parse (front ++ rest) = parse front ++ parse rest) ∧
      ∀ (front line : Bytes) (n : Nat), Ended front → newline ∉ line →
        parse (front ++ line.take n) = parse front ∧
          parse (front ++ (line ++ [newline])) = parse front ++ (parseLine line).toList := by
  refine ⟨fun report n => ?_, fun front rest h => h.parse_append rest,
    fun front line n h hline => ?_⟩
  · have hbegins := parse_begins (report.take n) (report.drop n)
    rwa [List.take_append_drop] at hbegins
  · refine ⟨h.parse_unended fun hm => hline (List.mem_of_mem_take hm), ?_⟩
    rw [h.parse_append, parse_line hline]

def oneListed : Bytes := encode "x.c,9,3,1,8,1\r\n"

def longLine : Bytes := encode "y.c,2,2,0,4,100"

theorem parse_cut_longLine :
    (Ended oneListed ∧ newline ∉ longLine) ∧
      (parseLine (longLine.take 13)).isSome = true ∧
      parse (oneListed ++ longLine.take 13) = parse oneListed ∧
      parse (oneListed ++ (longLine ++ [newline])) =
        [⟨"x.c", 9, 3, 1, 8, 1⟩, ⟨"y.c", 2, 2, 0, 4, 100⟩] := by
  have hended : Ended oneListed := Or.inr (by decide +kernel)
  have hline : newline ∉ longLine := by decide +kernel
  have hone : parse oneListed = [⟨"x.c", 9, 3, 1, 8, 1⟩] := by decide +kernel
  have hlong : parseLine longLine = some ⟨"y.c", 2, 2, 0, 4, 100⟩ := by decide +kernel
  obtain ⟨hcut, hwhole⟩ := parse_cut.2.2 oneListed longLine 13 hended hline
  refine ⟨⟨hended, hline⟩, by decide +kernel, hcut, ?_⟩
  rw [hwhole, hone, hlong]
  rfl

end CodeSurvey.Report
