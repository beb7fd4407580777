import Mathlib.Data.List.TakeDrop
import Mathlib.Data.List.TakeWhile
import CodeSurvey.Text.Basic
import CodeSurvey.Url.Percent

/-! The query of a URL, read as pairs of a name and a value. -/

namespace CodeSurvey.Text

theorem takeWhile_append_of_stop {α : Type} {p : α → Bool} {as : List α}
    (h : ∃ a ∈ as, p a = false) (bs : List α) : (as ++ bs).takeWhile p = as.takeWhile p := by
  obtain ⟨a, ha, hp⟩ := h
  rw [List.takeWhile_append, if_neg]
  intro hlength
  have hwhole : as.takeWhile p = as := (List.takeWhile_prefix p).eq_of_length hlength
  rw [List.takeWhile_eq_self_iff.1 hwhole a ha] at hp
  cases hp

section Pieces

variable {α : Type} [DecidableEq α] {separator : α}

theorem cut_eq (separator : α) (as : List α) :
    cut separator as =
      (as.takeWhile (· != separator), (as.dropWhile (· != separator)).tail?) := by
  rw [cut, List.span_eq_takeWhile_dropWhile]
  cases as.dropWhile (· != separator) <;> rfl

theorem ne_of_notMem {as : List α} (h : separator ∉ as) : ∀ a ∈ as, (a != separator) = true :=
  fun _ ha => bne_iff_ne.2 fun he => h (he ▸ ha)

theorem cut_append_cons {front : List α} (h : separator ∉ front) (back : List α) :
    cut separator (front ++ separator :: back) = (front, some back) := by
  have hp := ne_of_notMem h
  simp [cut_eq, List.takeWhile_append_of_pos hp, List.dropWhile_append_of_pos hp]

theorem cut_fst (separator : α) (as : List α) :
    (cut separator as).1 = as.takeWhile (· != separator) := by
  rw [cut_eq]

theorem cut_append_fst {front : List α} (h : separator ∉ front) (back : List α) :
    (cut separator (front ++ back)).1 = front ++ (cut separator back).1 := by
  rw [cut_fst, cut_fst, List.takeWhile_append_of_pos (ne_of_notMem h)]

theorem head?_splitOn (separator : α) (as : List α) :
    (as.splitOn separator).head? = some (as.takeWhile (· != separator)) := by
  by_cases h : separator ∈ as
  · obtain ⟨front, back, rfl, hf⟩ := List.eq_append_cons_of_mem h
    rw [List.splitOn_append_cons_self_of_not_mem hf, List.takeWhile_append_of_pos (ne_of_notMem hf)]
    simp
  · rw [List.splitOn_eq_singleton h, List.takeWhile_eq_self_iff.2 (ne_of_notMem h)]
    rfl

end Pieces

end CodeSurvey.Text

namespace CodeSurvey.Url

open Text.Utf8 (Bytes encode encode_eq_flatMap encode_inj encode_append)

def queryOf (url : String) : List Char :=
  ((Text.cut '?' (Text.cut '#' url.toList).1).2).getD []

def unplus (c : Char) : Char := if c = '+' then ' ' else c

-- Plus signs are replaced before escapes are read, so that an escaped plus sign stays one.
def fieldOf (written : List Char) : Bytes :=
  percentDecode (encode (String.ofList (written.map unplus)))

def pairOf (piece : List Char) : Bytes × Bytes :=
  let halves := Text.cut '=' piece
  (fieldOf halves.1, fieldOf (halves.2.getD []))

def pairsOf (url : String) : List (Bytes × Bytes) :=
  ((queryOf url).splitOn '&').map pairOf

abbrev Field := String × String

def Field.bytes (f : Field) : Bytes × Bytes := (encode f.1, encode f.2)

def Reads (url : String) (fields : List Field) : Prop := pairsOf url = fields.map Field.bytes

def isLiteral (c : Char) : Bool := c.toNat < 0x80 && !"#%&+=?".toList.contains c

def Literal (cs : List Char) : Prop := ∀ c ∈ cs, isLiteral c = true

instance (cs : List Char) : Decidable (Literal cs) :=
  decidable_of_iff (cs.all isLiteral = true) List.all_eq_true

theorem isLiteral_of_isDigit {c : Char} (h : c.isDigit = true) : isLiteral c = true := by
  have hne : "#%&+=?".toList.all (fun d => !d.isDigit) = true := by decide
  have hcode : c.toNat ≤ 57 := by
    simp only [Char.isDigit, Bool.and_eq_true, decide_eq_true_eq] at h
    exact h.2
  rw [isLiteral, Bool.and_eq_true, decide_eq_true_eq, Bool.not_eq_true', List.contains_eq_mem,
    decide_eq_false_iff_not]
  refine ⟨by omega, fun hm => ?_⟩
  have hdigit := List.all_eq_true.1 hne c hm
  rw [h] at hdigit
  cases hdigit

theorem Literal.notMem {cs : List Char} (h : Literal cs) {c : Char} (hc : isLiteral c = false) :
    c ∉ cs := by
  intro hm
  rw [h c hm] at hc
  cases hc

theorem Literal.append {cs ds : List Char} (hc : Literal cs) (hd : Literal ds) :
    Literal (cs ++ ds) := by
  intro c h
  rcases List.mem_append.1 h with h | h
  · exact hc c h
  · exact hd c h

theorem map_unplus_of_notMem {cs : List Char} (h : '+' ∉ cs) : cs.map unplus = cs :=
  calc
    cs.map unplus = cs.map id :=
      List.map_congr_left fun c hc => if_neg fun (he : c = '+') => h (he ▸ hc)
    _ = cs := List.map_id cs

theorem plus_notMem_map_unplus (cs : List Char) : '+' ∉ cs.map unplus := by
  intro h
  obtain ⟨c, -, hc⟩ := List.mem_map.1 h
  unfold unplus at hc
  split at hc
  · exact absurd hc (by decide)
  · contradiction

theorem percent_notMem_encode {cs : List Char} (h : Literal cs) :
    0x25 ∉ encode (String.ofList cs) := by
  rw [encode_eq_flatMap, String.toList_ofList, List.mem_flatMap]
  rintro ⟨c, hc, hb⟩
  have hlit := h c hc
  simp only [isLiteral, Bool.and_eq_true, decide_eq_true_eq] at hlit
  have hascii : c.val.toNat ≤ 127 := Nat.le_of_lt_succ hlit.1
  simp only [String.utf8EncodeChar, hascii, if_true, List.mem_singleton] at hb
  have hcode : c.toNat = 37 := by
    have hbyte : 37 = c.toNat % 256 := by simpa using congrArg UInt8.toNat hb
    have hsmall := hlit.1
    omega
  have : c = '%' := Char.toNat_inj.1 hcode
  subst this
  exact absurd (h _ hc) (by decide)

theorem fieldOf_append {front : List Char} (h : Literal front) (back : List Char) :
    fieldOf (front ++ back) = encode (String.ofList front) ++ fieldOf back := by
  rw [fieldOf, List.map_append, map_unplus_of_notMem (h.notMem rfl), String.ofList_append,
    encode_append, percentDecode_append (percent_notMem_encode h), fieldOf]

theorem fieldOf_literal {cs : List Char} (h : Literal cs) :
    fieldOf cs = encode (String.ofList cs) := by
  have hnil : fieldOf [] = [] := by simp [fieldOf, encode_eq_flatMap, percentDecode]
  have happend := fieldOf_append h []
  rwa [List.append_nil, hnil, List.append_nil] at happend

theorem fieldOf_append_plus (front back : List Char) :
    fieldOf (front ++ '+' :: back) = fieldOf front ++ 0x20 :: fieldOf back := by
  have hblank : String.utf8EncodeChar (unplus '+') = [0x20] := rfl
  simp only [fieldOf, encode_eq_flatMap, String.toList_ofList, List.map_append, List.map_cons,
    List.flatMap_append, List.flatMap_cons, hblank, List.singleton_append]
  exact percentDecode_append_cons (by decide) rfl _ _

theorem length_encode_unplus (cs : List Char) :
    (encode (String.ofList (cs.map unplus))).length = (encode (String.ofList cs)).length := by
  have hchar (c : Char) :
      (String.utf8EncodeChar (unplus c)).length = (String.utf8EncodeChar c).length := by
    unfold unplus
    split
    · rename_i hc
      subst hc
      rfl
    · rfl
  simp only [encode_eq_flatMap, String.toList_ofList, List.length_flatMap, List.map_map,
    Function.comp_def, hchar]

theorem length_fieldOf_le (cs : List Char) :
    (fieldOf cs).length ≤ (encode (String.ofList cs)).length :=
  calc
    (fieldOf cs).length ≤ (encode (String.ofList (cs.map unplus))).length :=
      length_percentDecode_le _
    _ = (encode (String.ofList cs)).length := length_encode_unplus cs

theorem fieldOf_eq_iff (cs : List Char) :
    fieldOf cs = encode (String.ofList cs) ↔
      '+' ∉ cs ∧ percentDecode (encode (String.ofList cs)) = encode (String.ofList cs) := by
  constructor
  · intro h
    -- No byte is lost in reading, so there was no escape, and plus signs would have become blanks.
    have hkept : fieldOf cs = encode (String.ofList (cs.map unplus)) :=
      percentDecode_eq_self (by
        rw [length_encode_unplus, ← h]
        exact Nat.le_refl _)
    have hmap : cs.map unplus = cs := String.ofList_inj.1 (encode_inj (hkept.symm.trans h))
    refine ⟨fun hplus => plus_notMem_map_unplus cs (hmap.symm ▸ hplus), ?_⟩
    rw [fieldOf, hmap] at h
    exact h
  · rintro ⟨hplus, hdecode⟩
    rw [fieldOf, map_unplus_of_notMem hplus, hdecode]

@[simp] theorem encode_blank : encode " " = [0x20] := by
  rw [encode_eq_flatMap]
  rfl

theorem fieldOf_between_iff {front back : String} (hfront : Literal front.toList)
    (hback : Literal back.toList) (word : String) :
    fieldOf (front.toList ++ (word.toList ++ '+' :: back.toList)) =
        encode (front ++ word ++ " " ++ back) ↔
      '+' ∉ word.toList ∧ percentDecode (encode word) = encode word := by
  have hword := fieldOf_eq_iff word.toList
  rw [String.ofList_toList] at hword
  rw [fieldOf_append hfront, fieldOf_append_plus, fieldOf_literal hback, String.ofList_toList,
    String.ofList_toList, encode_append, encode_append, encode_append, encode_blank,
    List.append_assoc, List.append_assoc, List.append_cancel_left_eq, List.singleton_append,
    List.append_cancel_right_eq, hword]

theorem fieldOf_cut_ne {front word back : String} (hfront : Literal front.toList)
    {short : List Char} (h : short <+: word.toList) :
    fieldOf (front.toList ++ short) ≠ encode (front ++ word ++ " " ++ back) := by
  obtain ⟨rest, hrest⟩ := h
  have hword : encode word = encode (String.ofList short) ++ encode (String.ofList rest) := by
    rw [← encode_append, ← String.ofList_append, hrest, String.ofList_toList]
  intro he
  -- The blank after the word is never made up for, since reading adds no bytes.
  have hlength := congrArg List.length he
  have hle := length_fieldOf_le short
  rw [fieldOf_append hfront, String.ofList_toList] at hlength
  simp only [encode_append, encode_blank, hword, List.length_append, List.length_singleton]
    at hlength
  omega

theorem pairOf_eq {name : List Char} (h : '=' ∉ name) (value : List Char) :
    pairOf (name ++ '=' :: value) = (fieldOf name, fieldOf value) := by
  rw [pairOf, Text.cut_append_cons h]
  rfl

theorem notMem_of_literal {f : Field} (hf : Literal f.1.toList ∧ Literal f.2.toList) {c : Char}
    (hc : isLiteral c = false) (hne : c ≠ '=') : c ∉ f.1.toList ++ '=' :: f.2.toList := by
  rw [List.mem_append, List.mem_cons]
  rintro (hm | hm | hm)
  · exact hf.1.notMem hc hm
  · exact hne hm
  · exact hf.2.notMem hc hm

theorem splitOn_fields {front : List Char} (hfront : '&' ∉ front) {fields : List Field}
    (h : ∀ f ∈ fields, Literal f.1.toList ∧ Literal f.2.toList) :
    ((front ++ fields.flatMap fun f => '&' :: (f.1.toList ++ '=' :: f.2.toList)).splitOn
        '&').map pairOf =
      pairOf front :: fields.map Field.bytes := by
  induction fields generalizing front with
  | nil => simp [List.splitOn_eq_singleton hfront]
  | cons f fields ih =>
    have hf := h f List.mem_cons_self
    rw [List.flatMap_cons, List.cons_append, List.splitOn_append_cons_self_of_not_mem hfront,
      List.map_cons,
      ih (notMem_of_literal hf rfl (by decide)) fun f hf => h f (List.mem_cons_of_mem _ hf),
      pairOf_eq (hf.1.notMem rfl), fieldOf_literal hf.1, fieldOf_literal hf.2,
      String.ofList_toList, String.ofList_toList]
    rfl

theorem head?_pairsOf (url : String) :
    (pairsOf url).head? = some (pairOf ((queryOf url).takeWhile (· != '&'))) := by
  rw [pairsOf, List.head?_map, Text.head?_splitOn, Option.map_some]

end CodeSurvey.Url
