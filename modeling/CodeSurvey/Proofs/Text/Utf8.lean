import CodeSurvey.Text.Utf8
import Mathlib.Data.List.Forall2

/-! Decoding inverts encoding. -/

namespace CodeSurvey.Text.Utf8

def IsTail (b : UInt8) : Prop := 0x80 ≤ b.toNat ∧ b.toNat ≤ 0xBF

inductive Formed : UInt8 → Bytes → Prop where
  | one {b : UInt8} (hb : b.toNat < 0x80) : Formed b []
  | two {b x : UInt8} (hb : 0xC2 ≤ b.toNat ∧ b.toNat < 0xE0) (hx : IsTail x) : Formed b [x]
  | three {b x y : UInt8} (hb : 0xE0 ≤ b.toNat ∧ b.toNat < 0xF0) (hx : IsTail x) (hy : IsTail y)
    (hlong : b.toNat = 0xE0 → 0xA0 ≤ x.toNat) (hsurrogate : b.toNat = 0xED → x.toNat < 0xA0) :
    Formed b [x, y]
  | four {b x y z : UInt8} (hb : 0xF0 ≤ b.toNat ∧ b.toNat < 0xF5) (hx : IsTail x) (hy : IsTail y)
    (hz : IsTail z) (hlong : b.toNat = 0xF0 → 0x90 ≤ x.toNat)
    (hlarge : b.toNat = 0xF4 → x.toNat < 0x90) : Formed b [x, y, z]

def Within (r : Range) (b : UInt8) : Prop := r.1 ≤ b ∧ b ≤ r.2

theorem within_of_forall₂ {rs : List Range} {bs : Bytes} (h : List.Forall₂ Within rs bs)
    (more : Bytes) : within rs (bs ++ more) = bs := by
  induction h with
  | nil => rfl
  | @cons r b rs bs h _ ih =>
    have hb : r.1 ≤ b ∧ b ≤ r.2 := h
    rw [List.cons_append, within, if_pos hb, ih]

theorem forall₂_of_within {rs : List Range} {bs : Bytes}
    (h : (within rs bs).length = rs.length) : List.Forall₂ Within rs (within rs bs) := by
  induction rs generalizing bs with
  | nil => exact .nil
  | cons r rs ih =>
    cases bs with
    | nil => cases h
    | cons b bs =>
      rw [within] at h ⊢
      split at h
      · rename_i hb
        rw [if_pos hb]
        exact .cons hb (ih (Nat.succ.inj h))
      · cases h

theorem following_eq (b : UInt8) : following b =
    if b.toNat < 0x80 then some []
    else if b.toNat < 0xC2 then none
    else if b.toNat < 0xE0 then some [tail]
    else if b.toNat = 0xE0 then some [(0xA0, 0xBF), tail]
    else if b.toNat = 0xED then some [(0x80, 0x9F), tail]
    else if b.toNat < 0xF0 then some [tail, tail]
    else if b.toNat = 0xF0 then some [(0x90, 0xBF), tail, tail]
    else if b.toNat < 0xF4 then some [tail, tail, tail]
    else if b.toNat = 0xF4 then some [(0x80, 0x8F), tail, tail]
    else none := by
  have hlt : ∀ n : UInt8, (b < n) = (b.toNat < n.toNat) := fun n => rfl
  have heq : ∀ n : UInt8, (b = n) = (b.toNat = n.toNat) := fun n => propext UInt8.toNat_inj.symm
  simp only [following, hlt, heq, UInt8.reduceToNat]

theorem exists_following {b : UInt8} {rest : Bytes} (h : Formed b rest) :
    ∃ rs, following b = some rs ∧ List.Forall₂ Within rs rest := by
  rw [following_eq]
  cases h with
  | one hb => exact ⟨[], if_pos hb, .nil⟩
  | two hb hx =>
    refine ⟨[tail], ?_, .cons hx .nil⟩
    rw [if_neg (by omega), if_neg (by omega), if_pos (by omega)]
  | three hb hx hy hlong hsurrogate =>
    rw [if_neg (by omega), if_neg (by omega), if_neg (by omega)]
    split
    · rename_i he
      exact ⟨_, rfl, .cons ⟨hlong he, hx.2⟩ (.cons hy .nil)⟩
    split
    · rename_i he
      exact ⟨_, rfl, .cons ⟨hx.1, Nat.le_of_lt_succ (hsurrogate he)⟩ (.cons hy .nil)⟩
    · exact ⟨_, if_pos hb.2, .cons hx (.cons hy .nil)⟩
  | four hb hx hy hz hlong hlarge =>
    rw [if_neg (by omega), if_neg (by omega), if_neg (by omega), if_neg (by omega),
      if_neg (by omega), if_neg (by omega)]
    split
    · rename_i he
      exact ⟨_, rfl, .cons ⟨hlong he, hx.2⟩ (.cons hy (.cons hz .nil))⟩
    split
    · exact ⟨_, rfl, .cons hx (.cons hy (.cons hz .nil))⟩
    · have he : _ = 0xF4 := Nat.le_antisymm (Nat.le_of_lt_succ hb.2) (Nat.le_of_not_lt ‹_›)
      exact ⟨_, if_pos he, .cons ⟨hx.1, Nat.le_of_lt_succ (hlarge he)⟩ (.cons hy (.cons hz .nil))⟩

theorem formed_of_following {b : UInt8} {rs : List Range} {rest : Bytes}
    (hb : following b = some rs) (h : List.Forall₂ Within rs rest) : Formed b rest := by
  rw [following_eq] at hb
  split at hb
  · cases hb
    cases h
    exact .one ‹_›
  split at hb
  · cases hb
  split at hb
  · cases hb
    obtain _ | ⟨hx, _ | _⟩ := h
    exact .two ⟨by omega, by omega⟩ hx
  split at hb
  · cases hb
    obtain _ | ⟨hx, _ | ⟨hy, _ | _⟩⟩ := h
    exact .three ⟨by omega, by omega⟩ ⟨Nat.le_trans (by decide) hx.1, hx.2⟩ hy (fun _ => hx.1)
      (by omega)
  split at hb
  · cases hb
    obtain _ | ⟨hx, _ | ⟨hy, _ | _⟩⟩ := h
    exact .three ⟨by omega, by omega⟩ ⟨hx.1, Nat.le_trans hx.2 (by decide)⟩ hy (by omega)
      fun _ => Nat.lt_succ_of_le hx.2
  split at hb
  · cases hb
    obtain _ | ⟨hx, _ | ⟨hy, _ | _⟩⟩ := h
    exact .three ⟨by omega, by omega⟩ hx hy (by omega) (by omega)
  split at hb
  · cases hb
    obtain _ | ⟨hx, _ | ⟨hy, _ | ⟨hz, _ | _⟩⟩⟩ := h
    exact .four ⟨by omega, by omega⟩ ⟨Nat.le_trans (by decide) hx.1, hx.2⟩ hy hz (fun _ => hx.1)
      (by omega)
  split at hb
  · cases hb
    obtain _ | ⟨hx, _ | ⟨hy, _ | ⟨hz, _ | _⟩⟩⟩ := h
    exact .four ⟨by omega, by omega⟩ hx hy hz (by omega) (by omega)
  split at hb
  · cases hb
    obtain _ | ⟨hx, _ | ⟨hy, _ | ⟨hz, _ | _⟩⟩⟩ := h
    exact .four ⟨by omega, by omega⟩ ⟨hx.1, Nat.le_trans hx.2 (by decide)⟩ hy hz (by omega)
      fun _ => Nat.lt_succ_of_le hx.2
  · cases hb

theorem toNat_charOfNat {n : Nat} (h : n.isValidChar) : (Char.ofNat n).toNat = n := by
  rw [Char.ofNat, dif_pos h]
  rfl

theorem encodeChar_ofNat {n : Nat} (h : n.isValidChar) :
    String.utf8EncodeChar (Char.ofNat n) =
      if n ≤ 0x7F then [UInt8.ofNat n]
      else if n ≤ 0x7FF then [UInt8.ofNat (n / 64 % 32 + 0xC0), UInt8.ofNat (n % 64 + 0x80)]
      else if n ≤ 0xFFFF then
        [UInt8.ofNat (n / 4096 % 16 + 0xE0), UInt8.ofNat (n / 64 % 64 + 0x80),
          UInt8.ofNat (n % 64 + 0x80)]
      else
        [UInt8.ofNat (n / 262144 % 8 + 0xF0), UInt8.ofNat (n / 4096 % 64 + 0x80),
          UInt8.ofNat (n / 64 % 64 + 0x80), UInt8.ofNat (n % 64 + 0x80)] := by
  have hn : (Char.ofNat n).val.toNat = n := toNat_charOfNat h
  simp only [String.utf8EncodeChar, hn]

theorem leadBits_eq (b : UInt8) : leadBits b =
    if b.toNat < 0x80 then b.toNat
    else if b.toNat < 0xE0 then b.toNat % 32
    else if b.toNat < 0xF0 then b.toNat % 16
    else b.toNat % 8 := rfl

theorem ofNat_eq {n : Nat} {b : UInt8} (h : n = b.toNat) : UInt8.ofNat n = b := by
  rw [h, UInt8.ofNat_toNat]

theorem encodeChar_scalarOf {b : UInt8} {rest : Bytes} (h : Formed b rest) :
    String.utf8EncodeChar (scalarOf b rest) = b :: rest := by
  cases h with
  | one hb =>
    simp only [scalarOf, List.foldl_nil, leadBits_eq, if_pos hb]
    rw [encodeChar_ofNat (.inl (by omega)), if_pos (by omega), ofNat_eq rfl]
  | @two x hb hx =>
    obtain ⟨hx, hx'⟩ := hx
    have hlead : leadBits b = b.toNat % 32 := by
      rw [leadBits_eq, if_neg (by omega), if_pos (by omega)]
    simp only [scalarOf, List.foldl_cons, List.foldl_nil, hlead]
    rw [encodeChar_ofNat (.inl (by omega)), if_neg (by omega), if_pos (by omega),
      ofNat_eq (b := b) (by omega), ofNat_eq (b := x) (by omega)]
  | @three x y hb hx hy hlong hsurrogate =>
    obtain ⟨hx, hx'⟩ := hx
    obtain ⟨hy, hy'⟩ := hy
    have hlead : leadBits b = b.toNat % 16 := by
      rw [leadBits_eq, if_neg (by omega), if_neg (by omega), if_pos (by omega)]
    simp only [scalarOf, List.foldl_cons, List.foldl_nil, hlead]
    rw [encodeChar_ofNat (by unfold Nat.isValidChar; omega), if_neg (by omega),
      if_neg (by omega), if_pos (by omega), ofNat_eq (b := b) (by omega),
      ofNat_eq (b := x) (by omega), ofNat_eq (b := y) (by omega)]
  | @four x y z hb hx hy hz hlong hlarge =>
    obtain ⟨hx, hx'⟩ := hx
    obtain ⟨hy, hy'⟩ := hy
    obtain ⟨hz, hz'⟩ := hz
    have hlead : leadBits b = b.toNat % 8 := by
      rw [leadBits_eq, if_neg (by omega), if_neg (by omega), if_neg (by omega)]
    simp only [scalarOf, List.foldl_cons, List.foldl_nil, hlead]
    rw [encodeChar_ofNat (.inr (by omega)), if_neg (by omega), if_neg (by omega), if_neg (by omega),
      ofNat_eq (b := b) (by omega), ofNat_eq (b := x) (by omega), ofNat_eq (b := y) (by omega),
      ofNat_eq (b := z) (by omega)]

theorem toNat_ofNat {n : Nat} (h : n < 256) : (UInt8.ofNat n).toNat = n :=
  UInt8.toNat_ofNat_of_lt' h

theorem isTail_ofNat (n : Nat) : IsTail (UInt8.ofNat (n % 64 + 0x80)) := by
  rw [IsTail, toNat_ofNat (by omega)]
  omega

theorem formed_encodeChar (c : Char) :
    ∃ b rest, String.utf8EncodeChar c = b :: rest ∧ Formed b rest := by
  have hc : c.val.toNat.isValidChar := c.valid
  simp only [String.utf8EncodeChar]
  generalize c.val.toNat = n at hc
  unfold Nat.isValidChar at hc
  split
  · refine ⟨_, _, rfl, .one ?_⟩
    rw [toNat_ofNat (by omega)]
    omega
  split
  · refine ⟨_, _, rfl, .two ?_ (isTail_ofNat n)⟩
    rw [toNat_ofNat (by omega)]
    omega
  split
  · have hlead : (UInt8.ofNat (n / 4096 % 16 + 0xE0)).toNat = n / 4096 % 16 + 0xE0 :=
      toNat_ofNat (by omega)
    have hnext : (UInt8.ofNat (n / 64 % 64 + 0x80)).toNat = n / 64 % 64 + 0x80 :=
      toNat_ofNat (by omega)
    refine ⟨_, _, rfl, .three ?_ (isTail_ofNat _) (isTail_ofNat n) ?_ ?_⟩
    all_goals
      rw [hlead]
      omega
  · have hlead : (UInt8.ofNat (n / 262144 % 8 + 0xF0)).toNat = n / 262144 % 8 + 0xF0 :=
      toNat_ofNat (by omega)
    have hnext : (UInt8.ofNat (n / 4096 % 64 + 0x80)).toNat = n / 4096 % 64 + 0x80 :=
      toNat_ofNat (by omega)
    refine ⟨_, _, rfl, .four ?_ (isTail_ofNat _) (isTail_ofNat _) (isTail_ofNat n) ?_ ?_⟩
    all_goals
      rw [hlead]
      omega

theorem encodeChar_inj {c d : Char} (h : String.utf8EncodeChar c = String.utf8EncodeChar d) :
    c = d := by
  have hs : encode (String.singleton c) = encode (String.singleton d) := by
    simpa [encode_eq_flatMap] using h
  exact String.singleton_inj.1 (encode_inj hs)

theorem encodeChar_eq_iff {c : Char} {b : UInt8} {rest : Bytes} :
    String.utf8EncodeChar c = b :: rest ↔ Formed b rest ∧ scalarOf b rest = c := by
  constructor
  · intro h
    obtain ⟨b', rest', h', hf⟩ := formed_encodeChar c
    obtain ⟨rfl, rfl⟩ := List.cons.inj (h.symm.trans h')
    exact ⟨hf, encodeChar_inj ((encodeChar_scalarOf hf).trans h.symm)⟩
  · rintro ⟨hf, rfl⟩
    exact encodeChar_scalarOf hf

theorem firstPiece_of_formed {b : UInt8} {rest : Bytes} (h : Formed b rest) (more : Bytes) :
    firstPiece b (rest ++ more) = (.scalar (scalarOf b rest), rest.length) := by
  obtain ⟨rs, hb, hfit⟩ := exists_following h
  simp only [firstPiece, hb, within_of_forall₂ hfit, if_pos hfit.length_eq.symm]

theorem formed_of_firstPiece {b : UInt8} {bs : Bytes} {c : Char} {n : Nat}
    (h : firstPiece b bs = (.scalar c, n)) :
    Formed b (bs.take n) ∧ scalarOf b (bs.take n) = c := by
  rw [firstPiece] at h
  split at h
  · cases h
  rename_i rs hb
  simp only at h
  split at h
  · rename_i hlength
    obtain ⟨⟨⟩, rfl⟩ := Prod.mk.inj h
    rw [← within_eq_take]
    exact ⟨formed_of_following hb (forall₂_of_within hlength), rfl⟩
  · cases h

@[simp] theorem pieces_encodeChar_append (c : Char) (bs : Bytes) :
    pieces (String.utf8EncodeChar c ++ bs) = .scalar c :: pieces bs := by
  obtain ⟨b, rest, h, hf⟩ := formed_encodeChar c
  obtain ⟨-, hc⟩ := encodeChar_eq_iff.1 h
  rw [h, List.cons_append, pieces, firstPiece_of_formed hf, hc, List.drop_left]

theorem pieces_eq_scalars_iff {bs : Bytes} {cs : List Char} :
    pieces bs = cs.map Piece.scalar ↔ bs = cs.flatMap String.utf8EncodeChar := by
  constructor
  · intro h
    fun_induction pieces bs generalizing cs with
    | case1 =>
      obtain rfl : cs = [] := by simpa using h.symm
      rfl
    | case2 b bs first =>
      rename_i ih
      cases cs with
      | nil => cases h
      | cons c cs =>
        obtain ⟨hfirst, hrest⟩ := List.cons.inj h
        have hf := encodeChar_eq_iff.2 (formed_of_firstPiece (Prod.ext hfirst rfl))
        rw [List.flatMap_cons, hf, ← ih hrest, List.cons_append, List.take_append_drop]
  · rintro rfl
    induction cs with
    | nil => simp [pieces]
    | cons c cs ih => rw [List.flatMap_cons, pieces_encodeChar_append, ih, List.map_cons]

theorem mapM_scalar?_eq_some_iff {ps : List Piece} {cs : List Char} :
    ps.mapM Piece.scalar? = some cs ↔ ps = cs.map Piece.scalar := by
  induction ps generalizing cs with
  | nil => simp [eq_comm]
  | cons p ps ih =>
    rw [List.mapM_cons]
    cases p with
    | scalar c =>
      cases cs with
      | nil => cases h : ps.mapM Piece.scalar? <;> simp [Piece.scalar?]
      | cons d cs =>
        rw [List.map_cons, List.cons.injEq, ← ih]
        cases h : ps.mapM Piece.scalar? <;> simp [Piece.scalar?]
    | broken bytes => cases cs <;> simp [Piece.scalar?]

theorem decode?_eq_some_iff {bs : Bytes} {s : String} : decode? bs = some s ↔ encode s = bs := by
  rw [decode?, Option.map_eq_some_iff, encode_eq_flatMap]
  constructor
  · rintro ⟨cs, hcs, rfl⟩
    rw [mapM_scalar?_eq_some_iff, pieces_eq_scalars_iff] at hcs
    rw [hcs, String.toList_ofList]
  · rintro rfl
    refine ⟨s.toList, ?_, String.ofList_toList⟩
    rw [mapM_scalar?_eq_some_iff, pieces_eq_scalars_iff]

theorem Formed.eq_nil_of_ascii {b a : UInt8} {rest : Bytes} (h : Formed b rest)
    (ha : a.toNat < 0x80) (hm : a ∈ b :: rest) : a = b ∧ rest = [] := by
  have hne : ∀ {x : UInt8}, 0x80 ≤ x.toNat → a ≠ x := by
    rintro x hx rfl
    omega
  cases h with
  | one => exact ⟨List.mem_singleton.1 hm, rfl⟩
  | two hb hx => simp [hne (by omega : 0x80 ≤ b.toNat), hne hx.1] at hm
  | three hb hx hy => simp [hne (by omega : 0x80 ≤ b.toNat), hne hx.1, hne hy.1] at hm
  | four hb hx hy hz =>
    simp [hne (by omega : 0x80 ≤ b.toNat), hne hx.1, hne hy.1, hne hz.1] at hm

theorem encodeChar_ascii {b : UInt8} (hb : b.toNat < 0x80) :
    String.utf8EncodeChar (Char.ofNat b.toNat) = [b] := by
  have h := encodeChar_scalarOf (.one hb)
  rwa [scalarOf, List.foldl_nil, leadBits_eq, if_pos hb] at h

theorem encodeChar_of_ascii {c : Char} (hc : c.toNat < 0x80) :
    String.utf8EncodeChar c = [UInt8.ofNat c.toNat] := by
  have hb : (UInt8.ofNat c.toNat).toNat = c.toNat := toNat_ofNat (by omega)
  have h := encodeChar_ascii (hb.symm ▸ hc)
  rwa [hb, Char.ofNat_toNat] at h

theorem encode_ascii {bs : Bytes} (h : ∀ b ∈ bs, b.toNat < 0x80) :
    encode (String.ofList (bs.map fun b => Char.ofNat b.toNat)) = bs := by
  rw [encode_eq_flatMap, String.toList_ofList]
  induction bs with
  | nil => rfl
  | cons b bs ih =>
    rw [List.map_cons, List.flatMap_cons, encodeChar_ascii (h b List.mem_cons_self),
      ih fun a ha => h a (List.mem_cons_of_mem _ ha), List.singleton_append]

@[simp] theorem encode_eq_nil_iff {s : String} : encode s = [] ↔ s = "" := by
  have hnil : encode "" = [] := by simp [encode_eq_flatMap]
  constructor
  · intro h
    exact encode_inj (h.trans hnil.symm)
  · rintro rfl
    exact hnil

theorem mem_encodeChar_iff {b : UInt8} (hb : b.toNat < 0x80) {c : Char} :
    b ∈ String.utf8EncodeChar c ↔ Char.ofNat b.toNat = c := by
  constructor
  · intro hm
    obtain ⟨a, rest, h, hf⟩ := formed_encodeChar c
    obtain ⟨rfl, rfl⟩ := hf.eq_nil_of_ascii hb (h ▸ hm)
    obtain ⟨-, rfl⟩ := encodeChar_eq_iff.1 h
    rw [scalarOf, List.foldl_nil, leadBits_eq, if_pos hb]
  · rintro rfl
    rw [encodeChar_ascii hb]
    exact List.mem_singleton_self b

theorem mem_encode_iff {b : UInt8} (hb : b.toNat < 0x80) {s : String} :
    b ∈ encode s ↔ Char.ofNat b.toNat ∈ s.toList := by
  rw [encode_eq_flatMap, List.mem_flatMap]
  constructor
  · rintro ⟨c, hc, hm⟩
    exact (mem_encodeChar_iff hb).1 hm ▸ hc
  · intro hc
    exact ⟨_, hc, (mem_encodeChar_iff hb).2 rfl⟩

end CodeSurvey.Text.Utf8
