import CodeSurvey.Proofs.Text.Numeral
import CodeSurvey.Toml.Reader
import CodeSurvey.Toml.Writer

/-! A whole number in decimal digits, alone on its line, is read as that number. -/

namespace CodeSurvey.Toml

open Text (digit? ofDigits)

variable {c : Char} {cs ds rest : List Char} {n : Nat}

def digitValue (c : Char) : Nat := c.toNat - '0'.toNat

theorem digit?_of_isDigit (h : c.isDigit = true) : digit? c = some (digitValue c) := by
  simp only [Char.isDigit, Bool.and_eq_true, decide_eq_true_eq] at h
  exact if_pos h

theorem isDigit_ne (h : c.isDigit = true) {d : Char} (hd : d.isDigit = false) : c ≠ d := by
  rintro rfl
  rw [h] at hd
  cases hd

theorem ofDigits_map (ds : List Char) :
    ofDigits 10 (ds.map digitValue) = Nat.ofDigitChars 10 ds 0 := by
  rw [ofDigits, List.foldl_map, Nat.ofDigitChars_eq_foldl]
  rfl

theorem moreDigits_line (h : ∀ c ∈ ds, c.isDigit = true) (rest : List Char) :
    moreDigits digit? (ds ++ '\n' :: rest) = (ds.map digitValue, '\n' :: rest) := by
  induction ds with
  | nil => rfl
  | cons c ds ih =>
    obtain ⟨hc, hds⟩ := List.forall_mem_cons.1 h
    rw [List.cons_append, moreDigits.eq_2, digit?_of_isDigit hc, ih hds]
    · rfl
    · rintro _ _ rfl
      exact absurd rfl (isDigit_ne hc (d := '_') rfl)

theorem digits_line (h : ∀ c ∈ ds, c.isDigit = true) (hne : ds ≠ []) (rest : List Char) :
    digits digit? (ds ++ '\n' :: rest) = some (ds.map digitValue, '\n' :: rest) := by
  cases ds with
  | nil => exact absurd rfl hne
  | cons c ds =>
    obtain ⟨hc, hds⟩ := List.forall_mem_cons.1 h
    rw [List.cons_append, digits, digit?_of_isDigit hc, moreDigits_line hds]
    rfl

theorem isDigit_of_mem_toDigits (h : c ∈ Nat.toDigits 10 n) : c.isDigit = true :=
  Nat.isDigit_of_mem_toDigits (by decide) (by decide) h

theorem head?_toDigits (h : n ≠ 0) : (Nat.toDigits 10 n).head? ≠ some '0' := by
  induction n using Nat.strongRecOn with
  | _ n ih =>
    by_cases hn : n < 10
    · rw [Nat.toDigits_of_lt_base hn]
      revert h
      exact (by decide : ∀ n < 10, n ≠ 0 → [Nat.digitChar n].head? ≠ some '0') n hn
    · have hhead := ih (n / 10) (by omega) (by omega)
      rw [Nat.toDigits_of_base_le (by decide) (Nat.le_of_not_lt hn)]
      cases hds : Nat.toDigits 10 (n / 10) with
      | nil => exact absurd hds Nat.toDigits_ne_nil
      | cons d ds =>
        rw [hds] at hhead
        exact hhead

theorem whole_toDigits (n : Nat) (rest : List Char) :
    ∃ ds, whole (Nat.toDigits 10 n ++ '\n' :: rest) = some (ds, '\n' :: rest) ∧
      ofDigits 10 ds = n := by
  by_cases hn : n = 0
  · subst hn
    exact ⟨[0], rfl, rfl⟩
  · refine ⟨(Nat.toDigits 10 n).map digitValue, ?_, ?_⟩
    · rw [whole.eq_2]
      · exact digits_line (fun c hc => isDigit_of_mem_toDigits hc) Nat.toDigits_ne_nil rest
      · intro cs heq
        have hhead := head?_toDigits hn
        cases hds : Nat.toDigits 10 n with
        | nil => exact Nat.toDigits_ne_nil hds
        | cons d ds =>
          rw [hds] at heq hhead
          exact hhead (congrArg some (List.cons.inj heq).1)
    · rw [ofDigits_map, Nat.ofDigitChars_ten_toDigits]

@[simp] theorem toList_toString_ofNat (n : Nat) :
    (toString (Int.ofNat n)).toList = Nat.toDigits 10 n := by
  rw [show toString (Int.ofNat n) = toString n from rfl, Nat.toString_eq_ofList_toDigits,
    String.toList_ofList]

@[simp] theorem toList_toString_negSucc (n : Nat) :
    (toString (Int.negSucc n)).toList = '-' :: Nat.toDigits 10 (n + 1) := by
  rw [Text.toString_negSucc, String.toList_append, Nat.toString_eq_ofList_toDigits,
    String.toList_ofList, String.toList_ofList, List.singleton_append]

theorem exists_toDigits (n : Nat) :
    ∃ d ds, Nat.toDigits 10 n = d :: ds ∧ d.isDigit = true := by
  cases hds : Nat.toDigits 10 n with
  | nil => exact absurd hds Nat.toDigits_ne_nil
  | cons d ds => exact ⟨d, ds, rfl, isDigit_of_mem_toDigits (hds ▸ List.mem_cons_self)⟩

theorem exists_toString (z : Int) :
    ∃ c cs, (toString z).toList = c :: cs ∧ (c.isDigit = true ∨ c = '-') := by
  cases z with
  | ofNat n =>
    obtain ⟨d, ds, hds, hd⟩ := exists_toDigits n
    exact ⟨d, ds, by rw [toList_toString_ofNat, hds], Or.inl hd⟩
  | negSucc n => exact ⟨'-', _, toList_toString_negSucc n, Or.inr rfl⟩

theorem sign_toString (z : Int) (rest : List Char) :
    sign ((toString z).toList ++ rest) = (decide (z < 0), Nat.toDigits 10 z.natAbs ++ rest) := by
  cases z with
  | ofNat n =>
    rw [toList_toString_ofNat, decide_eq_false (by simp)]
    obtain ⟨d, ds, hds, hd⟩ := exists_toDigits n
    rw [show (Int.ofNat n).natAbs = n from rfl, hds, List.cons_append, sign.eq_3]
    · rintro _ heq
      exact isDigit_ne hd (d := '+') rfl (List.cons.inj heq).1
    · rintro _ heq
      exact isDigit_ne hd (d := '-') rfl (List.cons.inj heq).1
  | negSucc n =>
    rw [toList_toString_negSucc, decide_eq_true (Int.negSucc_lt_zero n)]
    rfl

theorem digitsIn_eq_some {count low high : Nat} {cs more : List Char}
    (h : digitsIn count low high cs = some (n, more)) :
    count ≤ cs.length ∧ (∀ c ∈ cs.take count, (digit? c).isSome) ∧ more = cs.drop count := by
  simp only [digitsIn] at h
  split at h
  · rename_i hall
    cases h
    have htake : (cs.take count).length ≤ count := List.length_take_le _ _
    have hle := List.length_filterMap_le digit? (cs.take count)
    have hlength : (cs.take count).length = count := by omega
    refine ⟨?_, List.filterMap_length_eq_length.1 (hall.1.trans hlength.symm), rfl⟩
    rw [← hlength]
    exact List.length_take_le' _ _
  · cases h

theorem digitsIn_line {count low high m : Nat} {more : List Char}
    (hds : ∀ c ∈ ds, c.isDigit = true)
    (h : digitsIn count low high (ds ++ '\n' :: rest) = some (m, more)) :
    ∃ ds', more = ds' ++ '\n' :: rest ∧ ∀ c ∈ ds', c.isDigit = true := by
  obtain ⟨hlength, hall, rfl⟩ := digitsIn_eq_some h
  by_cases hcount : count ≤ ds.length
  · refine ⟨ds.drop count, List.drop_append_of_le_length hcount, fun c hc => ?_⟩
    exact hds c (List.mem_of_mem_drop hc)
  · -- The newline would have to be a digit.
    have hmem : '\n' ∈ (ds ++ '\n' :: rest).take count := by
      rw [List.take_append, List.take_cons (by omega)]
      exact List.mem_append_right _ List.mem_cons_self
    exact absurd (hall _ hmem) (by decide)

theorem mark_line (hds : ∀ c ∈ ds, c.isDigit = true) (hdigit : c.isDigit = false)
    (hc : c ≠ '\n') (rest : List Char) : mark c (ds ++ '\n' :: rest) = none := by
  cases ds with
  | nil => exact if_neg hc.symm
  | cons d ds => exact if_neg (isDigit_ne (hds d List.mem_cons_self) hdigit)

theorem date_line (hds : ∀ c ∈ ds, c.isDigit = true) (rest : List Char) :
    date (ds ++ '\n' :: rest) = none := by
  cases hyear : digitsIn 4 0 9999 (ds ++ '\n' :: rest) with
  | none => simp [date, hyear]
  | some r =>
    obtain ⟨ds', hmore, hds'⟩ := digitsIn_line hds hyear
    simp [date, hyear, hmore, mark_line hds' (c := '-') rfl (by decide)]

theorem time_line (hds : ∀ c ∈ ds, c.isDigit = true) (rest : List Char) :
    time (ds ++ '\n' :: rest) = none := by
  cases hhour : digitsIn 2 0 23 (ds ++ '\n' :: rest) with
  | none => simp [time, hhour]
  | some r =>
    obtain ⟨ds', hmore, hds'⟩ := digitsIn_line hds hhour
    simp [time, hhour, hmore, mark_line hds' (c := ':') rfl (by decide)]

@[simp] theorem digitsIn_minus {count low high : Nat} (cs : List Char) :
    digitsIn (count + 1) low high ('-' :: cs) = none := by
  cases h : digitsIn (count + 1) low high ('-' :: cs) with
  | none => rfl
  | some r =>
    have hdigit := (digitsIn_eq_some h).2.1 '-' List.mem_cons_self
    exact absurd hdigit (by decide)

theorem moment_toString (z : Int) (rest : List Char) :
    moment ((toString z).toList ++ '\n' :: rest) = none := by
  cases z with
  | ofNat n =>
    have hds : ∀ c ∈ Nat.toDigits 10 n, c.isDigit = true := fun c => isDigit_of_mem_toDigits
    rw [toList_toString_ofNat, moment, momentEnd, date_line hds, time_line hds]
    rfl
  | negSucc n =>
    rw [toList_toString_negSucc, moment, momentEnd, List.cons_append, date, digitsIn_minus, time,
      digitsIn_minus]
    rfl

theorem float_toString (z : Int) (rest : List Char) :
    float ((toString z).toList ++ '\n' :: rest) = none := by
  have hsign := sign_toString z ('\n' :: rest)
  obtain ⟨ds, hwhole, -⟩ := whole_toDigits z.natAbs rest
  obtain ⟨d, ds', hds, hd⟩ := exists_toDigits z.natAbs
  have hfinite : finiteFloat ((toString z).toList ++ '\n' :: rest) = none := by
    simp only [finiteFloat, hsign, hwhole]
    rfl
  have hspecial : specialFloat ((toString z).toList ++ '\n' :: rest) = none := by
    rw [specialFloat, hsign, hds, List.cons_append]
    split
    · rename_i heq
      exact absurd (List.cons.inj heq).1 (isDigit_ne hd rfl)
    · rename_i heq
      exact absurd (List.cons.inj heq).1 (isDigit_ne hd rfl)
    · rfl
  rw [float, hfinite, hspecial]
  rfl

theorem decimalInteger_toString {z : Int} (hz : (Scalar.integer z).fits = true)
    (rest : List Char) :
    decimalInteger ((toString z).toList ++ '\n' :: rest) = some (.integer z, '\n' :: rest) := by
  obtain ⟨ds, hwhole, hvalue⟩ := whole_toDigits z.natAbs rest
  have hz' : (if z < 0 then -(z.natAbs : Int) else (z.natAbs : Int)) = z := by omega
  simp only [Scalar.fits, Bool.and_eq_true, decide_eq_true_eq] at hz
  simp only [decimalInteger, sign_toString, hwhole, hvalue, decide_eq_true_eq, hz', int64?,
    if_pos hz]
  rfl

theorem integer_of_head (h : cs.head? ≠ some '0') : integer cs = decimalInteger cs := by
  unfold integer
  split <;> first | rfl | exact absurd rfl h

theorem integer_toString {z : Int} (hz : (Scalar.integer z).fits = true) (rest : List Char) :
    integer ((toString z).toList ++ '\n' :: rest) = some (.integer z, '\n' :: rest) := by
  by_cases h0 : z = 0
  · subst h0
    exact decimalInteger_toString hz rest
  · rw [integer_of_head, decimalInteger_toString hz]
    cases z with
    | ofNat n =>
      have hhead := head?_toDigits (n := n) (by rintro rfl; exact h0 rfl)
      obtain ⟨d, ds, hds, -⟩ := exists_toDigits n
      rw [hds] at hhead
      rw [toList_toString_ofNat, hds]
      exact hhead
    | negSucc n =>
      rw [toList_toString_negSucc]
      exact fun h => absurd (Option.some.inj h) (by decide)

end CodeSurvey.Toml
