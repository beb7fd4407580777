/-! UTF-8 in pieces: scalars, and the longest beginnings of scalars that break off. -/

namespace CodeSurvey.Text.Utf8

abbrev Bytes := List UInt8

inductive Piece where
  | scalar (c : Char)
  | broken (bytes : Bytes)
deriving DecidableEq, Repr

abbrev Range := UInt8 × UInt8

def tail : Range := (0x80, 0xBF)

def following (b : UInt8) : Option (List Range) :=
  if b < 0x80 then some []
  else if b < 0xC2 then none
  else if b < 0xE0 then some [tail]
  else if b = 0xE0 then some [(0xA0, 0xBF), tail]
  else if b = 0xED then some [(0x80, 0x9F), tail]
  else if b < 0xF0 then some [tail, tail]
  else if b = 0xF0 then some [(0x90, 0xBF), tail, tail]
  else if b < 0xF4 then some [tail, tail, tail]
  else if b = 0xF4 then some [(0x80, 0x8F), tail, tail]
  else none

def leadBits (b : UInt8) : Nat :=
  if b < 0x80 then b.toNat
  else if b < 0xE0 then b.toNat % 32
  else if b < 0xF0 then b.toNat % 16
  else b.toNat % 8

def within : List Range → Bytes → Bytes
  | [], _ => []
  | _ :: _, [] => []
  | r :: rs, b :: bs => if r.1 ≤ b ∧ b ≤ r.2 then b :: within rs bs else []

def scalarOf (lead : UInt8) (rest : Bytes) : Char :=
  Char.ofNat (rest.foldl (fun n b => 64 * n + b.toNat % 64) (leadBits lead))

def firstPiece (b : UInt8) (bs : Bytes) : Piece × Nat :=
  match following b with
  | none => (.broken [b], 0)
  | some ranges =>
    let taken := within ranges bs
    if taken.length = ranges.length then (.scalar (scalarOf b taken), taken.length)
    else (.broken (b :: taken), taken.length)

def pieces : Bytes → List Piece
  | [] => []
  | b :: bs =>
    let first := firstPiece b bs
    first.1 :: pieces (bs.drop first.2)
termination_by bytes => bytes.length
decreasing_by
  rw [List.length_drop, List.length_cons]
  exact Nat.lt_succ_of_le (Nat.sub_le _ _)

def Piece.scalar? : Piece → Option Char
  | .scalar c => some c
  | .broken _ => none

def Piece.lenient : Piece → Char
  | .scalar c => c
  | .broken _ => Char.ofNat 0xFFFD

def decode? (bytes : Bytes) : Option String :=
  ((pieces bytes).mapM Piece.scalar?).map String.ofList

def lenientChars (bytes : Bytes) : List Char :=
  (pieces bytes).map Piece.lenient

def decodeLenient (bytes : Bytes) : String :=
  String.ofList (lenientChars bytes)

def encode (s : String) : Bytes :=
  s.toUTF8.toList

theorem toList_loop (bytes : ByteArray) (i : Nat) (r : Bytes) :
    ByteArray.toList.loop bytes i r = r.reverse ++ bytes.data.toList.drop i := by
  fun_induction ByteArray.toList.loop bytes i r with
  | case1 i r hi ih =>
    have hlength : i < bytes.data.toList.length := by simpa using hi
    have hget : bytes.get! i = bytes.data.toList[i] := by
      simp [ByteArray.get!, getElem!_pos, hi]
    rw [ih, hget, List.reverse_cons, List.append_assoc, List.singleton_append,
      List.getElem_cons_drop]
  | case2 i r hi =>
    rw [List.drop_eq_nil_of_le (by simpa using Nat.le_of_not_lt hi), List.append_nil]

theorem encode_eq_toList (s : String) : encode s = s.toByteArray.data.toList := by
  rw [encode, String.toUTF8_eq_toByteArray]
  exact toList_loop _ 0 []

theorem encode_inj {s t : String} (h : encode s = encode t) : s = t := by
  rw [encode_eq_toList, encode_eq_toList, Array.toList_inj] at h
  exact String.toByteArray_inj.1 (ByteArray.ext h)

theorem encode_eq_flatMap (s : String) : encode s = s.toList.flatMap String.utf8EncodeChar := by
  rw [encode_eq_toList, ← String.utf8Encode_toList, List.utf8Encode,
    List.toList_data_toByteArray]

@[simp] theorem encode_append (s t : String) : encode (s ++ t) = encode s ++ encode t := by
  simp only [encode_eq_flatMap, String.toList_append, List.flatMap_append]

theorem within_eq_take (rs : List Range) (bs : Bytes) :
    within rs bs = bs.take (within rs bs).length := by
  induction rs generalizing bs with
  | nil => simp [within]
  | cons r rs ih =>
    cases bs with
    | nil => simp [within]
    | cons b bs =>
      simp only [within]
      split
      · simp only [List.length_cons, List.take_succ_cons]
        rw [← ih bs]
      · simp

end CodeSurvey.Text.Utf8
