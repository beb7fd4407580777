import CodeSurvey.Text.Numeral
import CodeSurvey.Text.Utf8

/-! Percent encoding; what lies outside printable ASCII is encoded in every part. -/

namespace CodeSurvey.Url

open Text.Utf8 (Bytes)

def isPrintable (c : Char) : Bool := 0x20 ≤ c.toNat && c.toNat < 0x7F

abbrev Plain := Char → Bool

def Plain.but (named : String) : Plain := fun c => isPrintable c && !named.toList.contains c

def Plain.any : Plain := isPrintable

def Plain.fragment : Plain := .but " \"<>`"

def Plain.path : Plain := .but " \"<>`#?\x7b\x7d"

def Plain.credential : Plain := .but " \"<>`#?\x7b\x7d/:;=@[\\]^|"

def Plain.query : Plain := .but " \"#<>"

def Plain.webQuery : Plain := .but " \"#<>'"

def encodeByte (b : UInt8) : List Char :=
  ['%', Text.hexChar (b.toNat / 16), Text.hexChar (b.toNat % 16)]

def encodeChar (plain : Plain) (c : Char) : List Char :=
  if plain c then [c] else (Text.Utf8.encode (String.ofList [c])).flatMap encodeByte

def percentEncode (plain : Plain) (cs : List Char) : List Char := cs.flatMap (encodeChar plain)

def hexByte? (b : UInt8) : Option Nat := Text.hexDigit? (Char.ofNat b.toNat)

def percentDecode : Bytes → Bytes
  | [] => []
  | [a] => [a]
  | [a, b] => [a, b]
  | a :: b :: c :: rest =>
    if a = 0x25 then
      match hexByte? b, hexByte? c with
      | some high, some low => (16 * high + low).toUInt8 :: percentDecode rest
      | _, _ => a :: percentDecode (b :: c :: rest)
    else a :: percentDecode (b :: c :: rest)

def startsEscape : Bytes → Bool
  | a :: high :: low :: _ => a == 0x25 && (hexByte? high).isSome && (hexByte? low).isSome
  | _ => false

theorem startsEscape_of_ne {a : UInt8} (h : a ≠ 0x25) (rest : Bytes) :
    startsEscape (a :: rest) = false := by
  match rest with
  | [] => rfl
  | [_] => rfl
  | _ :: _ :: _ => simp [startsEscape, h]

theorem percentDecode_escape {a high low : UInt8} {rest : Bytes}
    (h : startsEscape (a :: high :: low :: rest) = true) :
    ∃ byte, ∀ rest, percentDecode (a :: high :: low :: rest) = byte :: percentDecode rest := by
  simp only [startsEscape, Bool.and_eq_true, beq_iff_eq, Option.isSome_iff_exists] at h
  obtain ⟨⟨rfl, m, hm⟩, n, hn⟩ := h
  refine ⟨(16 * m + n).toUInt8, fun rest => ?_⟩
  rw [percentDecode, if_pos rfl, hm, hn]

theorem percentDecode_cons {a : UInt8} {rest : Bytes} (h : startsEscape (a :: rest) = false) :
    percentDecode (a :: rest) = a :: percentDecode rest := by
  match rest with
  | [] => rfl
  | [_] => rfl
  | high :: low :: rest =>
    rw [percentDecode]
    split
    · rename_i ha
      split
      · rename_i hhigh hlow
        simp [startsEscape, ha, hhigh, hlow] at h
      · rfl
    · rfl

@[elab_as_elim]
theorem escape_induction {motive : Bytes → Prop} (bytes : Bytes) (nil : motive [])
    (escape : ∀ a high low rest, startsEscape (a :: high :: low :: rest) = true →
      motive rest → motive (a :: high :: low :: rest))
    (plain : ∀ a rest, startsEscape (a :: rest) = false → motive rest → motive (a :: rest)) :
    motive bytes := by
  match bytes with
  | [] => exact nil
  | [a] => exact plain a [] rfl nil
  | [a, b] => exact plain a [b] rfl (plain b [] rfl nil)
  | a :: b :: c :: rest =>
    cases h : startsEscape (a :: b :: c :: rest) with
    | true => exact escape a b c rest h (escape_induction rest nil escape plain)
    | false => exact plain a _ h (escape_induction (b :: c :: rest) nil escape plain)

theorem percentDecode_append {front : Bytes} (h : 0x25 ∉ front) (back : Bytes) :
    percentDecode (front ++ back) = front ++ percentDecode back := by
  induction front with
  | nil => rfl
  | cons a front ih =>
    rw [List.mem_cons, not_or] at h
    rw [List.cons_append, percentDecode_cons (startsEscape_of_ne (Ne.symm h.1) _), ih h.2,
      List.cons_append]

theorem percentDecode_append_cons {b : UInt8} (hb : b ≠ 0x25) (hdigit : hexByte? b = none)
    (front back : Bytes) :
    percentDecode (front ++ b :: back) = percentDecode front ++ b :: percentDecode back := by
  induction front using escape_induction with
  | nil => exact percentDecode_cons (startsEscape_of_ne hb back)
  | escape a high low rest h ih =>
    obtain ⟨byte, hbyte⟩ := percentDecode_escape h
    simp only [List.cons_append, hbyte, ih]
  | plain a rest h ih =>
    have ha : startsEscape (a :: (rest ++ b :: back)) = false := by
      match rest with
      | [] => cases back <;> simp [startsEscape, hdigit]
      | [_] => simp [startsEscape, hdigit]
      | _ :: _ :: _ => exact h
    rw [List.cons_append, percentDecode_cons ha, percentDecode_cons h, ih, List.cons_append]

theorem length_percentDecode_le (bytes : Bytes) :
    (percentDecode bytes).length ≤ bytes.length := by
  induction bytes using escape_induction with
  | nil => exact Nat.le_refl 0
  | escape a high low rest h ih =>
    obtain ⟨byte, hbyte⟩ := percentDecode_escape h
    rw [hbyte]
    simp only [List.length_cons]
    omega
  | plain a rest h ih =>
    rw [percentDecode_cons h]
    exact Nat.succ_le_succ ih

theorem percentDecode_eq_self {bytes : Bytes}
    (h : bytes.length ≤ (percentDecode bytes).length) : percentDecode bytes = bytes := by
  induction bytes using escape_induction with
  | nil => rfl
  | escape a high low rest hescape ih =>
    obtain ⟨byte, hbyte⟩ := percentDecode_escape hescape
    have hle := length_percentDecode_le rest
    rw [hbyte] at h
    simp only [List.length_cons] at h
    omega
  | plain a rest hplain ih =>
    rw [percentDecode_cons hplain] at h ⊢
    rw [ih (Nat.le_of_succ_le_succ h)]

def decodedText? (s : String) : Option String :=
  Text.Utf8.decode? (percentDecode (Text.Utf8.encode s))

end CodeSurvey.Url
