/-! Texts cut at their separators, and the blanks that are trimmed off them or put around them. -/

namespace CodeSurvey.Text

/-- Holds of the 25 characters with the property `White_Space`. -/
def isBlank (c : Char) : Bool :=
  let n := c.toNat
  (9 ≤ n && n ≤ 13) || n == 0x20 || n == 0x85 || n == 0xA0 || n == 0x1680 ||
    (0x2000 ≤ n && n ≤ 0x200A) || n == 0x2028 || n == 0x2029 || n == 0x202F || n == 0x205F ||
    n == 0x3000

def dropBlankEnd (cs : List Char) : List Char :=
  (cs.reverse.dropWhile isBlank).reverse

def trimChars (cs : List Char) : List Char :=
  dropBlankEnd (cs.dropWhile isBlank)

def trim (s : String) : String :=
  String.ofList (trimChars s.toList)

def isBlankText (s : String) : Bool :=
  s.toList.all isBlank

def blanks (n : Nat) : String := String.ofList (List.replicate n ' ')

def padEnd (n : Nat) (s : String) : String := s ++ blanks (n - s.length)

def padStart (n : Nat) (s : String) : String := blanks (n - s.length) ++ s

section Separators

variable {α : Type} [DecidableEq α]

def cut (separator : α) (as : List α) : List α × Option (List α) :=
  match as.span (· != separator) with
  | (front, _ :: back) => (front, some back)
  | (front, []) => (front, none)

theorem not_mem_of_mem_splitOn {separator : α} {as piece : List α}
    (h : piece ∈ as.splitOn separator) : separator ∉ piece := by
  induction as generalizing piece with
  | nil =>
    rw [List.splitOn_nil, List.mem_singleton] at h
    rw [h]
    exact List.not_mem_nil
  | cons a as ih =>
    rw [List.splitOn_cons_eq_if_modifyHead] at h
    obtain ⟨first, pieces, hs⟩ := List.exists_cons_of_ne_nil (List.splitOn_ne_nil separator as)
    rw [hs] at h ih
    split at h
    · rcases List.mem_cons.1 h with rfl | h
      · exact List.not_mem_nil
      · exact ih h
    · rename_i ha
      rcases List.mem_cons.1 h with rfl | h
      · intro hm
        rcases List.mem_cons.1 hm with rfl | hm
        · exact ha (beq_self_eq_true _)
        · exact ih List.mem_cons_self hm
      · exact ih (List.mem_cons_of_mem _ h)

end Separators

def splitText (separator : Char) (s : String) : List String :=
  (s.toList.splitOn separator).map String.ofList

end CodeSurvey.Text
