import CodeSurvey.Toml.Writer
import CodeSurvey.Toml.TextReader
import Mathlib.Data.List.Basic
import Mathlib.Tactic.IntervalCases

/-! A text is read back from the form that was chosen for it, whatever its characters. -/

namespace CodeSurvey.Toml

open Text (hexDigit? hexChar ofDigits)

variable {c d q : Char} {cs ds rest : List Char} {lines : Bool} {run : Nat}

theorem hexDigit?_hexChar : ∀ d < 16, hexDigit? (hexChar d) = some d := by decide

theorem coded_hexCode {n : Nat} (hn : n < 65536) (hv : n.isValidChar) (rest : List Char) :
    coded 4 (Form.hexCode n ++ rest) = some (Char.ofNat n, rest) := by
  have hdigits : (Form.hexCode n).filterMap hexDigit? =
      [n / 4096 % 16, n / 256 % 16, n / 16 % 16, n % 16] := by
    simp [Form.hexCode, hexDigit?_hexChar _ (Nat.mod_lt _ (by decide : 0 < 16))]
  have hvalue : ofDigits 16 [n / 4096 % 16, n / 256 % 16, n / 16 % 16, n % 16] = n := by
    simp only [ofDigits, List.foldl_cons, List.foldl_nil]
    omega
  have htake : (Form.hexCode n ++ rest).take 4 = Form.hexCode n := rfl
  have hdrop : (Form.hexCode n ++ rest).drop 4 = rest := rfl
  simp only [coded, htake, hdrop, hdigits, hvalue]
  rw [if_pos ⟨rfl, hv⟩]

theorem isPlain_of_needsCode (h : needsCode c = false) (hc : c ≠ '\n') : isPlain c = true := by
  simp only [needsCode, Bool.or_eq_false_iff, Bool.and_eq_false_iff, decide_eq_false_iff_not,
    bne_eq_false_iff_eq, beq_eq_false_iff_ne] at h
  simp only [isPlain, Bool.or_eq_true, Bool.and_eq_true, decide_eq_true_eq, bne_iff_ne]
  rcases h with ⟨(h | h) | h, hdel⟩
  · exact Or.inr ⟨Nat.le_of_not_lt h, hdel⟩
  · exact Or.inl h
  · exact absurd h hc

inductive Stands (lines : Bool) (c : Char) : List Char → Prop where
  | bare (hplain : isPlain c = true) (hquote : c ≠ '"') (hslash : c ≠ '\\') : Stands lines c [c]
  | newline (hlines : lines = true) (hc : c = '\n') : Stands lines c ['\n']
  | escaped {e : Char} {es : List Char} (hblank : isBlank e = false) (hnewline : e ≠ '\n')
    (hreturn : e ≠ '\r') (h : ∀ rest, escape (e :: es ++ rest) = some (c, rest)) :
    Stands lines c ('\\' :: e :: es)

theorem stands_escaped (lines : Bool) (hq : c ≠ '"') : Stands lines c (Form.escaped lines c) := by
  unfold Form.escaped
  split_ifs with hslash hnewline hlines htab hreturn hback hfeed hcode
  · subst hslash
    exact .escaped (by decide) (by decide) (by decide) fun _ => rfl
  · exact .newline hlines hnewline
  · subst hnewline
    exact .escaped (by decide) (by decide) (by decide) fun _ => rfl
  · subst htab
    exact .escaped (by decide) (by decide) (by decide) fun _ => rfl
  · subst hreturn
    exact .escaped (by decide) (by decide) (by decide) fun _ => rfl
  · subst hback
    exact .escaped (by decide) (by decide) (by decide) fun _ => rfl
  · subst hfeed
    exact .escaped (by decide) (by decide) (by decide) fun _ => rfl
  · have hsmall : c.toNat < 65536 := by
      simp only [needsCode, Bool.or_eq_true, Bool.and_eq_true, decide_eq_true_eq,
        beq_iff_eq] at hcode
      omega
    refine .escaped (by decide) (by decide) (by decide) fun rest => ?_
    have hread := coded_hexCode hsmall c.valid rest
    rw [Char.ofNat_toNat] at hread
    exact hread
  · exact .bare (isPlain_of_needsCode (by simpa using hcode) hnewline) hq hslash

theorem body_cons (lines : Bool) (run : Nat) (c : Char) (cs : List Char) :
    (c = '"' ∧ run < Form.bareQuotes lines ∧
      Form.body lines run (c :: cs) = '"' :: Form.body lines (run + 1) cs) ∨
    ∃ piece, Stands lines c piece ∧
      Form.body lines run (c :: cs) = piece ++ Form.body lines 0 cs := by
  rw [Form.body]
  split_ifs with hq hrun
  · exact Or.inl ⟨hq, hrun, rfl⟩
  · subst hq
    exact Or.inr ⟨['\\', '"'],
      .escaped (by decide) (by decide) (by decide) fun _ => rfl, rfl⟩
  · exact Or.inr ⟨_, stands_escaped lines hq, rfl⟩

theorem basicEnd_stands {piece : List Char} (h : Stands false c piece) (rest : List Char) :
    basicEnd (piece ++ rest) = (basicEnd rest).map fun r => (c :: r.1, r.2) := by
  cases h with
  | bare hplain hquote hslash =>
    rw [List.singleton_append, basicEnd, if_neg hquote, if_neg hslash, if_pos hplain]
  | newline hlines => cases hlines
  | escaped hblank hnewline hreturn h =>
    rw [List.cons_append, basicEnd, if_neg (by decide), if_pos rfl]
    split <;> rename_i hread <;> rw [h] at hread
    · cases hread
    · cases hread
      rfl

theorem basicEnd_body (cs : List Char) (run : Nat) (rest : List Char) :
    basicEnd (Form.body false run cs ++ '"' :: rest) = some (cs, rest) := by
  induction cs generalizing run with
  | nil => rw [Form.body, List.nil_append, basicEnd, if_pos rfl]
  | cons c cs ih =>
    rcases body_cons false run c cs with ⟨-, hrun, -⟩ | ⟨piece, hpiece, hbody⟩
    · exact absurd hrun (Nat.not_lt_zero run)
    · rw [hbody, List.append_assoc, basicEnd_stands hpiece, ih]
      rfl

theorem newline_of_ne (hnewline : c ≠ '\n') (hreturn : c ≠ '\r') : newline (c :: cs) = none := by
  unfold newline
  split
  · rename_i h
    exact absurd (List.cons.inj h).1 hnewline
  · rename_i h
    exact absurd (List.cons.inj h).1 hreturn
  · rfl

theorem isPlain_ne (h : isPlain c = true) : c ≠ '\n' ∧ c ≠ '\r' := by
  constructor <;> (rintro rfl; revert h; decide)

theorem basicLinesEnd_stands {piece : List Char} (h : Stands true c piece) (rest : List Char) :
    basicLinesEnd (piece ++ rest) = (basicLinesEnd rest).map fun r => (c :: r.1, r.2) := by
  cases h with
  | bare hplain hquote hslash =>
    obtain ⟨hnewline, hreturn⟩ := isPlain_ne hplain
    rw [List.singleton_append, basicLinesEnd, if_neg hquote, if_neg hslash]
    split <;> rename_i hread <;> rw [newline_of_ne hnewline hreturn] at hread
    · cases hread
    · rw [if_pos hplain]
  | newline hlines hc =>
    subst hc
    rw [List.singleton_append, basicLinesEnd, if_neg (by decide), if_neg (by decide)]
    rfl
  | @escaped e es hblank hnewline hreturn h =>
    have hcontinued : continued (e :: es ++ rest) = none := by
      rw [continued, List.cons_append, List.dropWhile_cons_of_neg (by simp [hblank]),
        newline_of_ne hnewline hreturn, Option.map_none]
    rw [List.cons_append, basicLinesEnd, if_neg (by decide), if_pos rfl]
    split <;> rename_i hread
    · rw [hcontinued] at hread
      cases hread
    · split <;> rename_i hread <;> rw [h] at hread
      · cases hread
      · cases hread
        rfl

theorem Stands.head {piece : List Char} (h : Stands lines c piece) :
    ∃ x xs, piece = x :: xs ∧ x ≠ '"' := by
  cases h with
  | bare hplain hquote => exact ⟨_, _, rfl, hquote⟩
  | newline => exact ⟨_, _, rfl, by decide⟩
  | escaped => exact ⟨_, _, rfl, by decide⟩

theorem closing_replicate {n : Nat} (hn : n ≤ 2) (hrest : rest.head? ≠ some q) :
    closing q (List.replicate n q ++ q :: q :: rest) = some (List.replicate n q, rest) := by
  have hnone : rest.takeWhile (fun c => decide (c = q)) = [] := by
    cases rest with
    | nil => rfl
    | cons c rest =>
      have hc : c ≠ q := fun h => hrest (congrArg some h)
      rw [List.takeWhile_cons_of_neg (by simpa using hc)]
  have hall : (List.replicate n q ++ rest).takeWhile (fun c => decide (c = q)) =
      List.replicate n q := by
    rw [List.takeWhile_append_of_pos (by simp), hnone, List.append_nil]
  have hshift : List.replicate n q ++ q :: q :: rest = q :: q :: (List.replicate n q ++ rest) := by
    interval_cases n <;> rfl
  have htake : (List.replicate n q).take 2 = List.replicate n q :=
    List.take_of_length_le (by simpa using hn)
  rw [hshift, closing, if_pos ⟨rfl, rfl⟩, hall, htake]
  simp only [List.drop_left]

theorem closing_of_ne (h : c ≠ q) (cs : List Char) :
    closing q (c :: cs) = none ∧ closing q (q :: c :: cs) = none := by
  constructor
  · cases cs with
    | nil => rfl
    | cons d ds => rw [closing, if_neg fun hq => h hq.1]
  · rw [closing, if_neg fun hq => h hq.2]

theorem closing_body (hrun : 1 ≤ run) (hrest : rest.head? ≠ some '"') (cs : List Char) :
    closing '"' (Form.body true run cs ++ '"' :: '"' :: '"' :: rest) = some ('"' :: cs, rest) ∨
      closing '"' (Form.body true run cs ++ '"' :: '"' :: '"' :: rest) = none := by
  have hclosed (n : Nat) (hn : n ≤ 2) := closing_replicate hn hrest
  cases cs with
  | nil => exact Or.inl (hclosed 1 (by decide))
  | cons d ds =>
    rcases body_cons true run d ds with ⟨rfl, hlt, hbody⟩ | ⟨piece, hpiece, hbody⟩
    · rw [hbody]
      cases ds with
      | nil => exact Or.inl (hclosed 2 (by decide))
      | cons e es =>
        -- A third quote in a row is never bare.
        rcases body_cons true (run + 1) e es with ⟨-, hlt', -⟩ | ⟨piece, hpiece, hbody'⟩
        · simp only [Form.bareQuotes, if_true] at hlt'
          omega
        · obtain ⟨x, xs, rfl, hx⟩ := hpiece.head
          rw [hbody']
          exact Or.inr (closing_of_ne hx _).2
    · obtain ⟨x, xs, rfl, hx⟩ := hpiece.head
      rw [hbody]
      exact Or.inr (closing_of_ne hx _).1

theorem basicLinesEnd_body (hrun : run ≤ 2) (hrest : rest.head? ≠ some '"') (cs : List Char) :
    basicLinesEnd (Form.body true run cs ++ '"' :: '"' :: '"' :: rest) = some (cs, rest) := by
  induction cs generalizing run with
  | nil =>
    have hclosed : closing '"' ('"' :: '"' :: rest) = some ([], rest) :=
      closing_replicate (Nat.zero_le 2) hrest
    rw [Form.body, List.nil_append, basicLinesEnd, if_pos rfl, hclosed]
  | cons c cs ih =>
    rcases body_cons true run c cs with ⟨rfl, hlt, hbody⟩ | ⟨piece, hpiece, hbody⟩
    · simp only [Form.bareQuotes, if_true] at hlt
      rw [hbody, List.cons_append, basicLinesEnd, if_pos rfl]
      rcases closing_body (Nat.succ_pos run) hrest cs with hclosed | hopen
      · rw [hclosed]
      · rw [hopen, ih hlt]
        rfl
    · rw [hbody, List.append_assoc, basicLinesEnd_stands hpiece, ih (Nat.zero_le 2)]
      rfl

theorem le_longestRun (c : Char) (run : Nat) (cs : List Char) : run ≤ longestRun c run cs := by
  induction cs generalizing run with
  | nil => exact Nat.le_refl run
  | cons d ds ih =>
    rw [longestRun]
    split
    · exact Nat.le_of_succ_le (ih (run + 1))
    · exact Nat.le_max_left _ _

theorem longestRun_of_ne (h : c ≠ q) :
    longestRun q 0 cs ≤ longestRun q run (c :: cs) := by
  rw [longestRun, if_neg h]
  exact Nat.le_max_right _ _

theorem notMem_of_longestRun (h : longestRun q run cs = 0) : q ∉ cs := by
  induction cs generalizing run with
  | nil => exact List.not_mem_nil
  | cons c cs ih =>
    rw [List.mem_cons, not_or]
    by_cases hc : c = q
    · have := le_longestRun q (run + 1) cs
      rw [longestRun, if_pos hc] at h
      omega
    · exact ⟨Ne.symm hc, ih (Nat.le_zero.1 (h ▸ longestRun_of_ne hc))⟩

theorem literalEnd_plain (hplain : ∀ c ∈ cs, isPlain c = true) (hquote : '\'' ∉ cs)
    (rest : List Char) : literalEnd (cs ++ '\'' :: rest) = some (cs, rest) := by
  induction cs with
  | nil => rw [List.nil_append, literalEnd, if_pos rfl]
  | cons c cs ih =>
    rw [List.mem_cons, not_or] at hquote
    obtain ⟨hc, hcs⟩ := List.forall_mem_cons.1 hplain
    rw [List.cons_append, literalEnd, if_neg (Ne.symm hquote.1), if_pos hc, ih hcs hquote.2]
    rfl

theorem closing_literal (hrun : 1 ≤ run) (hcs : longestRun q run cs ≤ 2)
    (hrest : rest.head? ≠ some q) :
    closing q (cs ++ q :: q :: q :: rest) = some (q :: cs, rest) ∨
      closing q (cs ++ q :: q :: q :: rest) = none := by
  have hclosed (n : Nat) (hn : n ≤ 2) := closing_replicate hn hrest
  cases cs with
  | nil => exact Or.inl (hclosed 1 (by decide))
  | cons d ds =>
    by_cases hd : d = q
    · subst hd
      cases ds with
      | nil => exact Or.inl (hclosed 2 (by decide))
      | cons e es =>
        by_cases he : e = d
        · have := le_longestRun d (run + 1 + 1) es
          rw [longestRun, if_pos rfl, longestRun, if_pos he] at hcs
          omega
        · exact Or.inr (closing_of_ne he _).2
    · exact Or.inr (closing_of_ne hd _).1

theorem literalLinesEnd_plain (hplain : ∀ c ∈ cs, needsCode c = false)
    (hcs : longestRun '\'' run cs ≤ 2) (hrest : rest.head? ≠ some '\'') :
    literalLinesEnd (cs ++ '\'' :: '\'' :: '\'' :: rest) = some (cs, rest) := by
  induction cs generalizing run with
  | nil =>
    have hclosed : closing '\'' ('\'' :: '\'' :: rest) = some ([], rest) :=
      closing_replicate (Nat.zero_le 2) hrest
    rw [List.nil_append, literalLinesEnd, if_pos rfl, hclosed]
  | cons c cs ih =>
    obtain ⟨hc, hplain⟩ := List.forall_mem_cons.1 hplain
    by_cases hq : c = '\''
    · rw [longestRun, if_pos hq] at hcs
      rw [List.cons_append, literalLinesEnd, if_pos hq]
      rcases closing_literal (Nat.succ_pos run) hcs hrest with hclosed | hopen
      · rw [hclosed, hq]
      · rw [hopen, ih hplain hcs, hq]
        rfl
    · have hrest' := ih hplain (Nat.le_trans (longestRun_of_ne hq) hcs)
      rw [List.cons_append, literalLinesEnd, if_neg hq]
      by_cases hnewline : c = '\n'
      · subst hnewline
        split <;> rename_i hread
        · cases hread
          rw [hrest']
          rfl
        · cases hread
      · have hplain := isPlain_of_needsCode hc hnewline
        split <;> rename_i hread <;> rw [newline_of_ne hnewline (isPlain_ne hplain).2] at hread
        · cases hread
        · rw [if_pos hplain, hrest']
          rfl

namespace Form

theorem choose_eq_literal (h : choose cs = .literal) :
    (∀ c ∈ cs, needsCode c = false) ∧ '\'' ∉ cs ∧ '\n' ∉ cs := by
  simp only [choose] at h
  split_ifs at h with hbasic hliteral
  simp only [Bool.and_eq_true, Bool.not_eq_true', List.any_eq_false, Bool.not_eq_true,
    beq_iff_eq, List.contains_eq_mem, decide_eq_false_iff_not] at hliteral
  exact ⟨hliteral.1.1, notMem_of_longestRun hliteral.1.2, hliteral.2⟩

theorem choose_eq_literalLines (h : choose cs = .literalLines) :
    (∀ c ∈ cs, needsCode c = false) ∧ longestRun '\'' 0 cs ≤ 2 := by
  simp only [choose] at h
  split_ifs at h with hbasic hliteral hbasicLines hliteralLines
  simp only [Bool.and_eq_true, Bool.not_eq_true', List.any_eq_false, Bool.not_eq_true,
    decide_eq_true_eq] at hliteralLines
  exact hliteralLines

end Form

theorem opened_opening (written : List Char) (hwritten : '\n' ∉ cs → newline written = none) :
    opened (Form.opening cs ++ written) = written := by
  simp only [Form.opening, List.contains_eq_mem, decide_eq_true_eq]
  split_ifs with hnewline
  · rfl
  · rw [List.nil_append, opened, hwritten hnewline, Option.getD_none]

theorem newline_body (hcs : '\n' ∉ cs) (rest : List Char) :
    newline (Form.body true 0 cs ++ '"' :: rest) = none := by
  cases cs with
  | nil => exact newline_of_ne (by decide) (by decide)
  | cons c cs =>
    rcases body_cons true 0 c cs with ⟨-, -, hbody⟩ | ⟨piece, hpiece, hbody⟩
    · rw [hbody]
      exact newline_of_ne (by decide) (by decide)
    · rw [hbody]
      cases hpiece with
      | bare hplain => exact newline_of_ne (isPlain_ne hplain).1 (isPlain_ne hplain).2
      | newline hlines hc => exact absurd (hc ▸ List.mem_cons_self) hcs
      | escaped => exact newline_of_ne (by decide) (by decide)

theorem newline_literal (hcs : '\n' ∉ cs) (hplain : ∀ c ∈ cs, needsCode c = false)
    (rest : List Char) : newline (cs ++ '\'' :: rest) = none := by
  cases cs with
  | nil => exact newline_of_ne (by decide) (by decide)
  | cons c cs =>
    rw [List.mem_cons, not_or] at hcs
    have hc := isPlain_of_needsCode (hplain c List.mem_cons_self) (Ne.symm hcs.1)
    exact newline_of_ne (isPlain_ne hc).1 (isPlain_ne hc).2

theorem quotedText_basic (h : ∀ more, cs ≠ '"' :: '"' :: more) :
    quotedText ('"' :: cs) = (basicEnd cs).map fun r => (String.ofList r.1, r.2) := by
  unfold quotedText
  split
  · rename_i heq
    exact absurd (List.cons.inj heq).2 (h _)
  · rename_i heq
    rw [(List.cons.inj heq).2]
  · rename_i heq
    cases heq
  · rename_i heq
    cases heq
  · rename_i hother _ _
    exact absurd rfl (hother cs)

theorem quotedText_literal (h : ∀ more, cs ≠ '\'' :: '\'' :: more) :
    quotedText ('\'' :: cs) = (literalEnd cs).map fun r => (String.ofList r.1, r.2) := by
  unfold quotedText
  split
  · rename_i heq
    cases heq
  · rename_i heq
    cases heq
  · rename_i heq
    exact absurd (List.cons.inj heq).2 (h _)
  · rename_i heq
    rw [(List.cons.inj heq).2]
  · rename_i hother
    exact absurd rfl (hother cs)

theorem body_not_quoted (hrest : rest.head? ≠ some '"') (cs more : List Char) :
    Form.body false 0 cs ++ '"' :: rest ≠ '"' :: '"' :: more := by
  intro heq
  cases cs with
  | nil => exact hrest (congrArg List.head? (List.cons.inj heq).2)
  | cons c cs =>
    rcases body_cons false 0 c cs with ⟨-, hlt, -⟩ | ⟨piece, hpiece, hbody⟩
    · exact absurd hlt (Nat.not_lt_zero 0)
    · obtain ⟨x, xs, rfl, hx⟩ := hpiece.head
      rw [hbody] at heq
      exact hx (List.cons.inj heq).1

theorem quotedText_write (hdouble : rest.head? ≠ some '"') (hsingle : rest.head? ≠ some '\'')
    (cs : List Char) :
    quotedText ((Form.choose cs).write cs ++ rest) = some (String.ofList cs, rest) := by
  cases hform : Form.choose cs with
  | basic =>
    have hread := basicEnd_body cs 0 rest
    have hwritten : Form.write cs .basic ++ rest =
        '"' :: (Form.body false 0 cs ++ '"' :: rest) := by simp [Form.write]
    rw [hwritten, quotedText_basic (body_not_quoted hdouble cs), hread]
    rfl
  | literal =>
    obtain ⟨hplain, hquote, hnewline⟩ := Form.choose_eq_literal hform
    have hread := literalEnd_plain (fun c hc => isPlain_of_needsCode (hplain c hc)
      fun h => hnewline (h ▸ hc)) hquote rest
    have hopen : ∀ more, cs ++ '\'' :: rest ≠ '\'' :: '\'' :: more := by
      intro more heq
      cases cs with
      | nil => exact hsingle (congrArg List.head? (List.cons.inj heq).2)
      | cons c cs => exact hquote ((List.cons.inj heq).1 ▸ List.mem_cons_self)
    have hwritten : Form.write cs .literal ++ rest = '\'' :: (cs ++ '\'' :: rest) := by
      simp [Form.write]
    rw [hwritten, quotedText_literal hopen, hread]
    rfl
  | basicLines =>
    have hopened := opened_opening (Form.body true 0 cs ++ '"' :: '"' :: '"' :: rest)
      fun hcs => newline_body hcs _
    have hread := basicLinesEnd_body (Nat.zero_le 2) hdouble cs
    have hwritten : Form.write cs .basicLines ++ rest = '"' :: '"' :: '"' ::
        (Form.opening cs ++ (Form.body true 0 cs ++ '"' :: '"' :: '"' :: rest)) := by
      simp [Form.write]
    rw [hwritten, quotedText, hopened, hread]
    rfl
  | literalLines =>
    obtain ⟨hplain, hruns⟩ := Form.choose_eq_literalLines hform
    have hopened := opened_opening (cs ++ '\'' :: '\'' :: '\'' :: rest)
      fun hcs => newline_literal hcs hplain _
    have hread := literalLinesEnd_plain hplain hruns hsingle
    have hwritten : Form.write cs .literalLines ++ rest = '\'' :: '\'' :: '\'' ::
        (Form.opening cs ++ (cs ++ '\'' :: '\'' :: '\'' :: rest)) := by
      simp [Form.write]
    rw [hwritten, quotedText, hopened, hread]
    rfl

end CodeSurvey.Toml
