import CodeSurvey.Proofs.Toml.Numerals
import CodeSurvey.Proofs.Toml.Quoting

/-! A line that is written is read back as one statement, whatever follows it. -/

namespace CodeSurvey.Toml

namespace Scalar

def item : Scalar → Item
  | .text s => .text s
  | .integer n => .integer n
  | .bool b => .bool b

end Scalar

def IsBare (key : String) : Prop := key ≠ "" ∧ key.toList.all isKeyChar = true

instance (key : String) : Decidable (IsBare key) := inferInstanceAs (Decidable (_ ∧ _))

variable {c : Char} {cs rest : List Char} {k : String} {v : Scalar}

def Opens (c : Char) : Prop := isBlank c = false ∧ c ≠ '[' ∧ c ≠ '\x7b'

theorem opens_of_isDigit (h : c.isDigit = true) : Opens c := by
  refine ⟨?_, isDigit_ne h rfl, isDigit_ne h rfl⟩
  simp [isBlank, isDigit_ne h (d := ' ') rfl, isDigit_ne h (d := '\t') rfl]

theorem exists_quoted (cs : List Char) :
    ∃ d ds, (Form.choose cs).write cs = d :: ds ∧ (d = '"' ∨ d = '\'') := by
  cases Form.choose cs with
  | basic => exact ⟨_, _, rfl, Or.inl rfl⟩
  | literal => exact ⟨_, _, rfl, Or.inr rfl⟩
  | basicLines => exact ⟨_, _, rfl, Or.inl rfl⟩
  | literalLines => exact ⟨_, _, rfl, Or.inr rfl⟩

theorem toList_quoted (s : String) :
    (quoted s).toList = (Form.choose s.toList).write s.toList := String.toList_ofList

theorem exists_write (v : Scalar) : ∃ c cs, v.write.toList = c :: cs ∧ Opens c := by
  cases v with
  | text s =>
    obtain ⟨d, ds, hds, hd⟩ := exists_quoted s.toList
    refine ⟨d, ds, (toList_quoted s).trans hds, ?_⟩
    rcases hd with rfl | rfl <;> exact ⟨by decide, by decide, by decide⟩
  | integer n =>
    obtain ⟨d, ds, hds, hd⟩ := exists_toString n
    refine ⟨d, ds, hds, ?_⟩
    rcases hd with hd | rfl
    · exact opens_of_isDigit hd
    · exact ⟨by decide, by decide, by decide⟩
  | bool b => cases b <;> exact ⟨_, _, rfl, by decide, by decide, by decide⟩

theorem scalar_quoted (s : String) (rest : List Char) :
    scalar ((quoted s).toList ++ '\n' :: rest) = some (.text s, '\n' :: rest) := by
  have hread : quotedText ((Form.choose s.toList).write s.toList ++ '\n' :: rest) = _ :=
    quotedText_write (by simp) (by simp) s.toList
  obtain ⟨d, ds, hds, hd⟩ := exists_quoted s.toList
  rw [toList_quoted]
  rw [hds] at hread ⊢
  rw [List.cons_append] at hread ⊢
  rw [scalar, if_pos hd, hread, String.ofList_toList]
  rfl

theorem scalar_toString {z : Int} (hz : (Scalar.integer z).fits = true) (rest : List Char) :
    scalar ((toString z).toList ++ '\n' :: rest) = some (.integer z, '\n' :: rest) := by
  have hmoment := moment_toString z rest
  have hfloat := float_toString z rest
  have hinteger := integer_toString hz rest
  obtain ⟨d, ds, hds, hd⟩ := exists_toString z
  have hne : ∀ e : Char, e.isDigit = false → e ≠ '-' → d ≠ e := by
    rintro e he hminus rfl
    exact hd.elim (fun h => isDigit_ne h he rfl) hminus
  rw [hds, List.cons_append] at hmoment hfloat hinteger ⊢
  have hquote : ¬ (d = '"' ∨ d = '\'') :=
    not_or.2 ⟨hne _ rfl (by decide), hne _ rfl (by decide)⟩
  have hspecial : ¬ (d = 'i' ∨ d = 'n') :=
    not_or.2 ⟨hne _ rfl (by decide), hne _ rfl (by decide)⟩
  rw [scalar, if_neg hquote, if_neg (hne 't' rfl (by decide)), if_neg (hne 'f' rfl (by decide)),
    if_neg hspecial, hmoment, hfloat, hinteger]
  rfl

theorem scalar_write (hv : v.fits = true) (rest : List Char) :
    scalar (v.write.toList ++ '\n' :: rest) = some (v.item, '\n' :: rest) := by
  cases v with
  | text s => exact scalar_quoted s rest
  | integer n => exact scalar_toString hv rest
  | bool b => cases b <;> rfl

theorem value_of_opens (h : Opens c) (depth : Nat) (cs : List Char) :
    value depth (c :: cs) = scalar (c :: cs) := by
  have hbracket : ∀ ds, c :: cs = '[' :: ds → False := fun _ heq => h.2.1 (List.cons.inj heq).1
  have hbrace : ∀ ds, c :: cs = '\x7b' :: ds → False := fun _ heq => h.2.2 (List.cons.inj heq).1
  cases depth with
  | zero => exact value.eq_3 _ hbracket hbrace
  | succ depth => exact value.eq_6 _ depth hbracket hbrace

theorem skipBlanks_cons (h : isBlank c = false) (cs : List Char) :
    skipBlanks (c :: cs) = c :: cs := by
  rw [skipBlanks, List.dropWhile_cons_of_neg (by simp [h])]

theorem value_write (hv : v.fits = true) (depth : Nat) (rest : List Char) :
    value depth (skipBlanks (' ' :: (v.write.toList ++ '\n' :: rest))) =
      some (v.item, '\n' :: rest) := by
  have hread := scalar_write hv rest
  obtain ⟨c, cs, hcs, hc⟩ := exists_write v
  rw [hcs, List.cons_append] at hread ⊢
  have hskip : skipBlanks (' ' :: c :: (cs ++ '\n' :: rest)) = c :: (cs ++ '\n' :: rest) :=
    skipBlanks_cons hc.1 _
  rw [hskip, value_of_opens hc, hread]

theorem isKeyChar_ne (h : isKeyChar c = true) {d : Char} (hd : isKeyChar d = false) : c ≠ d := by
  rintro rfl
  rw [h] at hd
  cases hd

theorem isBlank_of_isKeyChar (h : isKeyChar c = true) : isBlank c = false := by
  simp [isBlank, isKeyChar_ne h (d := ' ') (by decide), isKeyChar_ne h (d := '\t') (by decide)]

theorem IsBare.isKeyChar (hk : IsBare k) : ∀ c ∈ k.toList, isKeyChar c = true :=
  List.all_eq_true.1 hk.2

theorem IsBare.exists_cons (hk : IsBare k) :
    ∃ c cs, k.toList = c :: cs ∧ Toml.isKeyChar c = true := by
  cases hcs : k.toList with
  | nil => exact absurd (String.toList_eq_nil_iff.1 hcs) hk.1
  | cons c cs => exact ⟨c, cs, rfl, hk.isKeyChar c (hcs ▸ List.mem_cons_self)⟩

theorem simpleKey_bare (hk : IsBare k) (hc : isKeyChar c = false) (rest : List Char) :
    simpleKey (k.toList ++ c :: rest) = some (k, c :: rest) := by
  have htake : (k.toList ++ c :: rest).takeWhile isKeyChar = k.toList := by
    rw [List.takeWhile_append_of_pos hk.isKeyChar, List.takeWhile_cons_of_neg (by simp [hc]),
      List.append_nil]
  have hdrop : (k.toList ++ c :: rest).dropWhile isKeyChar = c :: rest := by
    rw [List.dropWhile_append_of_pos hk.isKeyChar, List.dropWhile_cons_of_neg (by simp [hc])]
  obtain ⟨d, ds, hds, hd⟩ := hk.exists_cons
  unfold simpleKey
  split
  · rename_i heq
    rw [hds] at heq
    exact absurd (List.cons.inj heq).1 (isKeyChar_ne hd (by decide))
  · rename_i heq
    rw [hds] at heq
    exact absurd (List.cons.inj heq).1 (isKeyChar_ne hd (by decide))
  · rw [htake, hdrop, hds]
    show some (String.ofList (d :: ds), c :: rest) = some (k, c :: rest)
    rw [← hds, String.ofList_toList]

theorem key_bare (hk : IsBare k) {d : Char} (hd : d = '=' ∨ d = ']') {gap : List Char}
    (hgap : gap = [] ∨ gap = [' ']) (rest : List Char) :
    key (k.toList ++ (gap ++ d :: rest)) = some ([k], d :: rest) := by
  obtain ⟨c, cs, hcs, hc⟩ := hk.exists_cons
  have hblank : skipBlanks (k.toList ++ (gap ++ d :: rest)) = k.toList ++ (gap ++ d :: rest) := by
    rw [hcs]
    exact skipBlanks_cons (isBlank_of_isKeyChar hc) _
  have hkey : simpleKey (k.toList ++ (gap ++ d :: rest)) = some (k, gap ++ d :: rest) := by
    rcases hgap with rfl | rfl
    · exact simpleKey_bare hk (by rcases hd with rfl | rfl <;> decide) rest
    · exact simpleKey_bare hk (by decide) (d :: rest)
  have hskip : skipBlanks (gap ++ d :: rest) = d :: rest := by
    rcases hd with rfl | rfl <;> rcases hgap with rfl | rfl <;> rfl
  have hparts (fuel : Nat) : keyParts (fuel + 1) (k.toList ++ (gap ++ d :: rest)) =
      some ([k], d :: rest) := by
    rw [keyParts, hblank, hkey]
    rcases hd with rfl | rfl <;> simp only [hskip] <;> rfl
  rw [key, hparts]
  rfl

theorem statement_of_key {d : Char} (hd : isKeyChar d = true) (cs : List Char) :
    statement (d :: cs) = ((pair (value (limit - 1)) (d :: cs)).bind fun r =>
      (lineEnd r.2).map fun rest => (.entry r.1.1 r.1.2, rest)) := by
  have hne : ∀ e : Char, isKeyChar e = false → d ≠ e := fun e he => isKeyChar_ne hd he
  have hcomment : ¬ (d = '#' ∨ d = '\n' ∨ d = '\r') := by
    simp [hne '#' (by decide), hne '\n' (by decide), hne '\r' (by decide)]
  rw [statement, skipBlanks_cons (isBlank_of_isKeyChar hd)]
  simp only [if_neg hcomment, if_neg (hne '[' (by decide))]
  cases pair (value (limit - 1)) (d :: cs) <;> rfl

theorem pair_entry (hk : IsBare k) (hv : v.fits = true) (depth : Nat) (rest : List Char) :
    pair (value depth) (k.toList ++ (' ' :: '=' :: ' ' :: (v.write.toList ++ '\n' :: rest))) =
      some (([k], v.item), '\n' :: rest) := by
  have hkey := key_bare hk (Or.inl rfl) (Or.inr rfl) (' ' :: (v.write.toList ++ '\n' :: rest))
  rw [pair, show ' ' :: '=' :: ' ' :: (v.write.toList ++ '\n' :: rest) =
    [' '] ++ '=' :: ' ' :: (v.write.toList ++ '\n' :: rest) from rfl, hkey]
  simp only [value_write hv, Option.map_some]

theorem toList_writeEntry (k : String) (v : Scalar) (rest : List Char) :
    (writeEntry (k, v)).toList ++ rest =
      k.toList ++ (' ' :: '=' :: ' ' :: (v.write.toList ++ '\n' :: rest)) := by
  simp [writeEntry]

theorem statement_entry (hk : IsBare k) (hv : v.fits = true) (rest : List Char) :
    statement ((writeEntry (k, v)).toList ++ rest) = some (.entry [k] v.item, rest) := by
  have hpair := pair_entry hk hv (limit - 1) rest
  obtain ⟨d, ds, hds, hd⟩ := hk.exists_cons
  rw [toList_writeEntry]
  rw [hds, List.cons_append] at hpair ⊢
  rw [statement_of_key hd, hpair]
  rfl

theorem statement_header (hk : IsBare k) (rest : List Char) :
    statement (("[" ++ k ++ "]\n").toList ++ rest) = some (.header [k], rest) := by
  have hkey := key_bare hk (Or.inr rfl) (Or.inl rfl) ('\n' :: rest)
  have htext : ("[" ++ k ++ "]\n").toList ++ rest =
      '[' :: (k.toList ++ ([] ++ ']' :: '\n' :: rest)) := by simp
  have hheader : header (k.toList ++ ([] ++ ']' :: '\n' :: rest)) =
      some (.header [k], '\n' :: rest) := by
    obtain ⟨d, ds, hds, hd⟩ := hk.exists_cons
    rw [hds, List.cons_append] at hkey ⊢
    rw [header.eq_2, hkey]
    · rfl
    · rintro _ heq
      exact isKeyChar_ne hd (d := '[') (by decide) (List.cons.inj heq).1
  rw [htext, statement, skipBlanks_cons (by decide)]
  simp only [if_neg (by decide : ¬ ('[' = '#' ∨ '[' = '\n' ∨ '[' = '\r')), if_true, hheader]
  rfl

def Reads (line : List Char × Statement) : Prop :=
  line.1 ≠ [] ∧ ∀ rest, statement (line.1 ++ rest) = some (line.2, rest)

end CodeSurvey.Toml
