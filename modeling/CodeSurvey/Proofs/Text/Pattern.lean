import CodeSurvey.Proofs.Text.Utf8

/-! Regular expressions over bytes. -/

namespace CodeSurvey.Text

open Utf8 (Bytes encode encode_eq_flatMap encodeChar_ascii encodeChar_of_ascii mem_encode_iff
  encode_ascii encode_eq_nil_iff)

inductive Pattern where
  | char (p : Char → Bool)
  | many (p : Pattern)
  | optional (p : Pattern)
  | seq (p q : Pattern)
  | group (p : Pattern)

namespace Pattern

inductive Captures : Pattern → Bytes → List Bytes → Prop where
  | char {p : Char → Bool} {c : Char} (h : p c = true) :
    Captures (.char p) (String.utf8EncodeChar c) []
  | one {p : Pattern} {bs : Bytes} {gs : List Bytes} (h : Captures p bs gs) :
    Captures (.many p) bs gs
  -- of a group that is repeated, the last turn counts
  | more {p : Pattern} {bs cs : Bytes} {gs hs : List Bytes} (h : Captures p bs gs)
    (hmore : Captures (.many p) cs hs) : Captures (.many p) (bs ++ cs) hs
  | absent {p : Pattern} : Captures (.optional p) [] []
  | present {p : Pattern} {bs : Bytes} {gs : List Bytes} (h : Captures p bs gs) :
    Captures (.optional p) bs gs
  | seq {p q : Pattern} {bs cs : Bytes} {gs hs : List Bytes} (h : Captures p bs gs)
    (hnext : Captures q cs hs) : Captures (.seq p q) (bs ++ cs) (gs ++ hs)
  | group {p : Pattern} {bs : Bytes} {gs : List Bytes} (h : Captures p bs gs) :
    Captures (.group p) bs (bs :: gs)

variable {p q : Pattern} {bs : Bytes} {gs : List Bytes}

@[simp] theorem captures_char_iff {p : Char → Bool} : Captures (.char p) bs gs ↔
    ∃ c, p c = true ∧ bs = String.utf8EncodeChar c ∧ gs = [] := by
  constructor
  · rintro (⟨h⟩)
    exact ⟨_, h, rfl, rfl⟩
  · rintro ⟨c, h, rfl, rfl⟩
    exact .char h

theorem captures_optional_iff :
    Captures (.optional p) bs gs ↔ bs = [] ∧ gs = [] ∨ Captures p bs gs := by
  constructor
  · intro h
    cases h with
    | absent => exact Or.inl ⟨rfl, rfl⟩
    | present h => exact Or.inr h
  · rintro (⟨rfl, rfl⟩ | h)
    · exact .absent
    · exact .present h

@[simp] theorem captures_seq_iff : Captures (.seq p q) bs gs ↔
    ∃ front hs back is, Captures p front hs ∧ Captures q back is ∧ bs = front ++ back ∧
      gs = hs ++ is := by
  constructor
  · intro h
    cases h with
    | seq h hnext => exact ⟨_, _, _, _, h, hnext, rfl, rfl⟩
  · rintro ⟨front, hs, back, is, h, hnext, rfl, rfl⟩
    exact .seq h hnext

@[simp] theorem captures_group_iff :
    Captures (.group p) bs gs ↔ ∃ hs, Captures p bs hs ∧ gs = bs :: hs := by
  constructor
  · intro h
    cases h with
    | group h => exact ⟨_, h, rfl⟩
  · rintro ⟨hs, h, rfl⟩
    exact .group h

theorem captures_many_char_iff {p : Char → Bool} : Captures (.many (.char p)) bs gs ↔
    gs = [] ∧ ∃ s, s ≠ "" ∧ (∀ c ∈ s.toList, p c = true) ∧ bs = encode s := by
  constructor
  · intro h
    -- the induction is on the match, of any pattern that is this one
    generalize hq : Pattern.many (.char p) = q at h
    induction h with
    | one h =>
      cases hq
      obtain ⟨c, hc, rfl, rfl⟩ := captures_char_iff.1 h
      refine ⟨rfl, String.ofList [c], by simp, by simpa using hc, ?_⟩
      simp [encode_eq_flatMap]
    | more h _ _ ih =>
      cases hq
      obtain ⟨c, hc, rfl, rfl⟩ := captures_char_iff.1 h
      obtain ⟨rfl, s, -, hs, rfl⟩ := ih rfl
      refine ⟨rfl, String.ofList (c :: s.toList), by simp, by simpa [hc] using hs, ?_⟩
      simp [encode_eq_flatMap]
    | _ => cases hq
  · rintro ⟨rfl, s, hne, hs, rfl⟩
    have hne : s.toList ≠ [] := by simpa using hne
    rw [encode_eq_flatMap]
    generalize s.toList = cs at hne hs
    induction cs with
    | nil => exact absurd rfl hne
    | cons c cs ih =>
      have hc := Captures.char (hs c List.mem_cons_self)
      cases cs with
      | nil => simpa using Captures.one hc
      | cons d cs =>
        exact .more hc (ih (List.cons_ne_nil _ _) fun c h => hs c (List.mem_cons_of_mem _ h))

theorem captures_ascii_iff {b : UInt8} (hb : b.toNat < 0x80) :
    Captures (.char (· == Char.ofNat b.toNat)) bs gs ↔ bs = [b] ∧ gs = [] := by
  rw [captures_char_iff]
  constructor
  · rintro ⟨c, hc, rfl, rfl⟩
    rw [beq_iff_eq.1 hc, encodeChar_ascii hb]
    exact ⟨rfl, rfl⟩
  · rintro ⟨rfl, rfl⟩
    exact ⟨_, beq_self_eq_true _, (encodeChar_ascii hb).symm, rfl⟩

theorem captures_many_ne_iff {b : UInt8} (hb : b.toNat < 0x80) :
    Captures (.many (.char (· != Char.ofNat b.toNat))) bs gs ↔
      gs = [] ∧ bs ≠ [] ∧ b ∉ bs ∧ ∃ s, bs = encode s := by
  rw [captures_many_char_iff]
  constructor
  · rintro ⟨hgs, s, hne, hs, rfl⟩
    refine ⟨hgs, mt encode_eq_nil_iff.1 hne, ?_, s, rfl⟩
    intro hm
    exact bne_iff_ne.1 (hs _ ((mem_encode_iff hb).1 hm)) rfl
  · rintro ⟨hgs, hne, hm, s, rfl⟩
    refine ⟨hgs, s, mt encode_eq_nil_iff.2 hne, ?_, rfl⟩
    intro c hc
    refine bne_iff_ne.2 ?_
    rintro rfl
    exact hm ((mem_encode_iff hb).2 hc)

theorem isDigit_iff {c : Char} : c.isDigit = true ↔ 0x30 ≤ c.toNat ∧ c.toNat ≤ 0x39 := by
  simp [Char.isDigit, UInt32.le_iff_toNat_le]

theorem captures_many_digit_iff : Captures (.many (.char Char.isDigit)) bs gs ↔
    gs = [] ∧ bs ≠ [] ∧ ∀ b ∈ bs, 0x30 ≤ b.toNat ∧ b.toNat ≤ 0x39 := by
  rw [captures_many_char_iff]
  constructor
  · rintro ⟨hgs, s, hne, hs, rfl⟩
    refine ⟨hgs, mt encode_eq_nil_iff.1 hne, ?_⟩
    intro b hm
    rw [encode_eq_flatMap, List.mem_flatMap] at hm
    obtain ⟨c, hc, hm⟩ := hm
    obtain ⟨hlow, hhigh⟩ := isDigit_iff.1 (hs c hc)
    rw [encodeChar_of_ascii (by omega), List.mem_singleton] at hm
    rw [hm, Utf8.toNat_ofNat (by omega)]
    exact ⟨hlow, hhigh⟩
  · rintro ⟨hgs, hne, hb⟩
    have hascii : ∀ b ∈ bs, b.toNat < 0x80 := fun b hm => by
      have := hb b hm
      omega
    refine ⟨hgs, _, mt encode_eq_nil_iff.2 ?_, ?_, (encode_ascii hascii).symm⟩
    · rwa [encode_ascii hascii]
    · intro c hc
      rw [String.toList_ofList] at hc
      obtain ⟨b, hm, rfl⟩ := List.mem_map.1 hc
      rw [isDigit_iff, Utf8.toNat_charOfNat (.inl (Nat.lt_trans (hascii b hm) (by decide)))]
      exact hb b hm

end Pattern

end CodeSurvey.Text
