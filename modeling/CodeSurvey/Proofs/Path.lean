import CodeSurvey.Path
import Mathlib.Data.List.Basic

/-! Paths that are joined. -/

namespace CodeSurvey.Path

variable {p q : String}

@[simp] theorem segments_empty : segments "" = [""] := by decide

theorem segments_ne_nil (p : String) : segments p ≠ [] := by
  rw [segments, Text.splitText, ne_eq, List.map_eq_nil_iff]
  exact List.splitOn_ne_nil '/' p.toList

@[simp] theorem segments_append_slash (p q : String) :
    segments (p ++ "/" ++ q) = segments p ++ segments q := by
  have hslash : "/".toList = ['/'] := by decide
  rw [segments, segments, segments, Text.splitText, Text.splitText, Text.splitText,
    String.toList_append, String.toList_append, hslash, List.append_assoc, List.singleton_append,
    List.splitOn_append_cons_self, List.map_append]

@[simp] theorem segments_slash (p : String) : segments (p ++ "/") = segments p ++ [""] := by
  rw [← segments_empty, ← segments_append_slash, String.append_empty]

theorem exists_of_slash (h : p.toList.getLast? = some '/') : ∃ front, p = front ++ "/" := by
  obtain ⟨front, hfront⟩ := List.getLast?_eq_some_iff.1 h
  refine ⟨String.ofList front, ?_⟩
  rw [← String.toList_inj, hfront]
  simp

theorem segments_inj (h : segments p = segments q) : p = q := by
  have hsplit : p.toList.splitOn '/' = q.toList.splitOn '/' :=
    (List.map_inj_right fun _ _ => String.ofList_inj.1).1 h
  have hp : ['/'].intercalate (p.toList.splitOn '/') = p.toList := List.intercalate_splitOn '/'
  rw [← String.toList_inj, ← hp, hsplit, List.intercalate_splitOn]

theorem head?_segments_of_isAbsolute (h : isAbsolute p = true) : (segments p).head? = some "" := by
  rw [isAbsolute, beq_iff_eq] at h
  obtain ⟨cs, hcs⟩ := List.head?_eq_some_iff.1 h
  rw [segments, Text.splitText, hcs, List.splitOn_cons_eq_if_modifyHead, if_pos (by decide)]
  rfl

def leading (p : String) : List Component :=
  if isAbsolute p then [.root] else if (segments p).head? = some "." then [.here] else []

theorem components_eq (p : String) :
    components p = leading p ++ (segments p).filterMap component? := by
  rw [components, leading]
  split
  · rfl
  split <;> rfl

theorem leading_of_relative (h : (segments p).head? ≠ some "")
    (hdot : (segments p).head? ≠ some ".") : leading p = [] := by
  have hrelative : ¬ isAbsolute p = true := mt head?_segments_of_isAbsolute h
  rw [leading, if_neg hrelative, if_neg hdot]

theorem leading_congr (habsolute : isAbsolute p = isAbsolute q)
    (hhead : (segments p).head? = (segments q).head?) : leading p = leading q := by
  rw [leading, leading, habsolute, hhead]

@[simp] theorem leading_append_slash (p q : String) :
    leading (p ++ "/" ++ q) = leading (p ++ "/") := by
  refine leading_congr ?_ ?_
  · have hne : (p ++ "/").toList ≠ [] := by simp
    rw [isAbsolute, isAbsolute, String.toList_append, List.head?_append_of_ne_nil _ hne]
  · rw [segments_append_slash, segments_slash, List.head?_append_of_ne_nil _ (segments_ne_nil p),
      List.head?_append_of_ne_nil _ (segments_ne_nil p)]

theorem leading_slash (h : p ≠ "") : leading (p ++ "/") = leading p := by
  refine leading_congr ?_ ?_
  · have hne : p.toList ≠ [] := by simpa using h
    rw [isAbsolute, isAbsolute, String.toList_append, List.head?_append_of_ne_nil _ hne]
  · rw [segments_slash, List.head?_append_of_ne_nil _ (segments_ne_nil p)]

theorem components_append_slash (p q : String) :
    components (p ++ "/" ++ q) = components (p ++ "/") ++ (segments q).filterMap component? := by
  have hempty : [""].filterMap component? = [] := by decide
  rw [components_eq, components_eq, leading_append_slash, segments_append_slash, segments_slash,
    List.filterMap_append, List.filterMap_append, hempty, List.append_nil, List.append_assoc]

theorem components_slash (h : p ≠ "") : components (p ++ "/") = components p := by
  have hempty : [""].filterMap component? = [] := by decide
  rw [components_eq, components_eq, leading_slash h, segments_slash, List.filterMap_append, hempty,
    List.append_nil]

theorem components_join (base : String) (h : (segments p).head? ≠ some "")
    (hdot : (segments p).head? ≠ some ".") :
    components (join base p) = components base ++ (segments p).filterMap component? := by
  have hrelative : ¬ isAbsolute p = true := mt head?_segments_of_isAbsolute h
  rw [join, if_neg hrelative]
  by_cases hbase : base = ""
  · have hempty : components "" = [] := by decide
    rw [if_pos (Or.inl hbase), hbase, String.empty_append, hempty, components_eq,
      leading_of_relative h hdot]
  split
  · rename_i hend
    obtain ⟨front, rfl⟩ := exists_of_slash (hend.resolve_left hbase)
    rw [components_append_slash]
  · rw [components_append_slash, components_slash hbase]

theorem isAbsolute_join (base : String) (h : (segments p).head? ≠ some "") :
    isAbsolute (join base p) = isAbsolute base := by
  have hrelative : ¬ isAbsolute p = true := mt head?_segments_of_isAbsolute h
  rw [join, if_neg hrelative]
  by_cases hbase : base = ""
  · have hempty : isAbsolute "" = false := by decide
    rw [if_pos (Or.inl hbase), hbase, String.empty_append, hempty]
    simpa using hrelative
  have hne : base.toList ≠ [] := by simpa using hbase
  split
  · rw [isAbsolute, isAbsolute, String.toList_append, List.head?_append_of_ne_nil _ hne]
  · rw [isAbsolute, isAbsolute, String.toList_append, String.toList_append, List.append_assoc,
      List.head?_append_of_ne_nil _ hne]

theorem segments_join (base : String) (h : (segments p).head? ≠ some "") :
    ∃ front, segments (join base p) = front ++ segments p ∧
      (segments base = front ∨ segments base = front ++ [""]) := by
  have hrelative : ¬ isAbsolute p = true := mt head?_segments_of_isAbsolute h
  rw [join, if_neg hrelative]
  by_cases hbase : base = ""
  · subst hbase
    rw [if_pos (Or.inl rfl), String.empty_append]
    exact ⟨[], rfl, Or.inr segments_empty⟩
  split
  · rename_i hend
    obtain ⟨front, rfl⟩ := exists_of_slash (hend.resolve_left hbase)
    exact ⟨_, segments_append_slash _ p, Or.inr (segments_slash _)⟩
  · exact ⟨_, segments_append_slash base p, Or.inl rfl⟩

end CodeSurvey.Path
