import CodeSurvey.Text.Numeral

namespace CodeSurvey.Toml

open Text (hexDigit?)

def isBlank (c : Char) : Bool := c = ' ' || c = '\t'

def isPlain (c : Char) : Bool :=
  c = '\t' || (0x20 ≤ c.toNat && c.toNat != 0x7F)

def newline : List Char → Option (List Char)
  | '\n' :: rest => some rest
  | '\r' :: '\n' :: rest => some rest
  | _ => none

def skipLines : List Char → List Char
  | [] => []
  | '\r' :: '\n' :: rest => skipLines rest
  | c :: rest => if isBlank c || c = '\n' then skipLines rest else c :: rest

def coded (count : Nat) (cs : List Char) : Option (Char × List Char) :=
  let digits := (cs.take count).filterMap hexDigit?
  let n := Text.ofDigits 16 digits
  if digits.length = count ∧ n.isValidChar then some (Char.ofNat n, cs.drop count) else none

def escape : List Char → Option (Char × List Char)
  | [] => none
  | c :: rest =>
    if c = 'b' then some ('\x08', rest)
    else if c = 't' then some ('\t', rest)
    else if c = 'n' then some ('\n', rest)
    else if c = 'f' then some ('\x0c', rest)
    else if c = 'r' then some ('\r', rest)
    else if c = '"' then some ('"', rest)
    else if c = '\\' then some ('\\', rest)
    else if c = 'u' then coded 4 rest
    else if c = 'U' then coded 8 rest
    else none

def continued (cs : List Char) : Option (List Char) :=
  (newline (cs.dropWhile isBlank)).map skipLines

theorem coded_length {count : Nat} {cs rest : List Char} {c : Char}
    (h : coded count cs = some (c, rest)) : rest.length ≤ cs.length := by
  unfold coded at h
  simp only at h
  split at h
  · simp only [Option.some.injEq, Prod.mk.injEq] at h
    rw [← h.2]
    simp
  · cases h

theorem escape_length {cs rest : List Char} {c : Char} (h : escape cs = some (c, rest)) :
    rest.length < cs.length := by
  cases cs with
  | nil => cases h
  | cons d ds =>
    simp only [List.length_cons]
    simp only [escape] at h
    repeat' split at h
    all_goals
      first
      | cases h; exact Nat.lt_succ_self _
      | exact Nat.lt_succ_of_le (coded_length h)
      | cases h

theorem newline_length {cs rest : List Char} (h : newline cs = some rest) :
    rest.length < cs.length := by
  unfold newline at h
  split at h
  · cases h; simp
  · cases h; simp only [List.length_cons]; omega
  · cases h

theorem skipLines_length (cs : List Char) : (skipLines cs).length ≤ cs.length := by
  fun_induction skipLines cs with
  | case1 => simp
  | case2 rest ih => simp only [List.length_cons]; omega
  | case3 c rest _ h ih => simp only [List.length_cons]; omega
  | case4 => simp

theorem continued_length {cs rest : List Char} (h : continued cs = some rest) :
    rest.length < cs.length := by
  obtain ⟨r, hr, rfl⟩ := Option.map_eq_some_iff.1 h
  have h1 := newline_length hr
  have h2 := skipLines_length r
  have h3 := (List.dropWhile_suffix (l := cs) isBlank).length_le
  omega

def basicEnd : List Char → Option (List Char × List Char)
  | [] => none
  | c :: cs =>
    if c = '"' then some ([], cs)
    else if c = '\\' then
      match _h : escape cs with
      | none => none
      | some (c, rest) => (basicEnd rest).map (fun r => (c :: r.1, r.2))
    else if isPlain c then (basicEnd cs).map (fun r => (c :: r.1, r.2))
    else none
termination_by cs => cs.length
decreasing_by
  · have := escape_length _h
    simp only [List.length_cons]
    omega
  · simp

def literalEnd : List Char → Option (List Char × List Char)
  | [] => none
  | c :: cs =>
    if c = '\'' then some ([], cs)
    else if isPlain c then (literalEnd cs).map (fun r => (c :: r.1, r.2))
    else none

/-- Whether the three closing quotes follow, the first one read already: at most two quotes before
them belong to the text. -/
def closing (quote : Char) (cs : List Char) : Option (List Char × List Char) :=
  match cs with
  | a :: b :: rest =>
    if a = quote ∧ b = quote then
      let more := (rest.takeWhile (fun c => c = quote)).take 2
      some (more, rest.drop more.length)
    else none
  | _ => none

def basicLinesEnd : List Char → Option (List Char × List Char)
  | [] => none
  | c :: cs =>
    if c = '"' then
      match closing '"' cs with
      | some found => some found
      | none => (basicLinesEnd cs).map (fun r => ('"' :: r.1, r.2))
    else if c = '\\' then
      match _h : continued cs with
      | some rest => basicLinesEnd rest
      | none =>
        match _h : escape cs with
        | none => none
        | some (c, rest) => (basicLinesEnd rest).map (fun r => (c :: r.1, r.2))
    else
      match _h : newline (c :: cs) with
      | some rest => (basicLinesEnd rest).map (fun r => ('\n' :: r.1, r.2))
      | none =>
        if isPlain c then (basicLinesEnd cs).map (fun r => (c :: r.1, r.2)) else none
termination_by cs => cs.length
decreasing_by
  · simp
  · have := continued_length _h
    simp only [List.length_cons]
    omega
  · have := escape_length _h
    simp only [List.length_cons]
    omega
  · exact newline_length _h
  · simp

def literalLinesEnd : List Char → Option (List Char × List Char)
  | [] => none
  | c :: cs =>
    if c = '\'' then
      match closing '\'' cs with
      | some found => some found
      | none => (literalLinesEnd cs).map (fun r => ('\'' :: r.1, r.2))
    else
      match _h : newline (c :: cs) with
      | some rest => (literalLinesEnd rest).map (fun r => ('\n' :: r.1, r.2))
      | none =>
        if isPlain c then (literalLinesEnd cs).map (fun r => (c :: r.1, r.2)) else none
termination_by cs => cs.length
decreasing_by
  · simp
  · exact newline_length _h
  · simp

def opened (cs : List Char) : List Char := (newline cs).getD cs

def quotedText (cs : List Char) : Option (String × List Char) :=
  let found :=
    match cs with
    | '"' :: '"' :: '"' :: rest => basicLinesEnd (opened rest)
    | '"' :: rest => basicEnd rest
    | '\'' :: '\'' :: '\'' :: rest => literalLinesEnd (opened rest)
    | '\'' :: rest => literalEnd rest
    | _ => none
  found.map (fun r => (String.ofList r.1, r.2))

def quotedLine (cs : List Char) : Option (String × List Char) :=
  let found :=
    match cs with
    | '"' :: rest => basicEnd rest
    | '\'' :: rest => literalEnd rest
    | _ => none
  found.map (fun r => (String.ofList r.1, r.2))

end CodeSurvey.Toml
