import CodeSurvey.Proofs.Text.Utf8

/-! Lenient reading keeps ASCII. -/

namespace CodeSurvey.Text.Utf8

/-- Code points that tell what the bytes tell, but that one beyond ASCII may stand for a stretch of
bytes beyond ASCII. -/
inductive Blurs : List Nat → Bytes → Prop where
  | nil : Blurs [] []
  | ascii {b : UInt8} {codes : List Nat} {bytes : Bytes} (hb : b.toNat < 0x80)
    (h : Blurs codes bytes) : Blurs (b.toNat :: codes) (b :: bytes)
  | beyond {code : Nat} {b : UInt8} {codes : List Nat} {stretch bytes : Bytes}
    (hcode : 0x80 ≤ code) (hstretch : ∀ a ∈ b :: stretch, 0x80 ≤ a.toNat) (h : Blurs codes bytes) :
    Blurs (code :: codes) (b :: (stretch ++ bytes))

theorem beyond_of_following {b : UInt8} {rs : List Range} (h : following b = some rs) :
    ∀ r ∈ rs, 0x80 ≤ r.1.toNat := by
  rw [following_eq] at h
  repeat'
    split at h
  all_goals
    cases h
  all_goals simp [tail]

theorem beyond_of_mem_within {rs : List Range} (hrs : ∀ r ∈ rs, 0x80 ≤ r.1.toNat) {bs : Bytes} :
    ∀ a ∈ within rs bs, 0x80 ≤ a.toNat := by
  induction rs generalizing bs with
  | nil => simp [within]
  | cons r rs ih =>
    obtain ⟨hr, hrs⟩ := List.forall_mem_cons.1 hrs
    cases bs with
    | nil => simp [within]
    | cons b bs =>
      rw [within]
      split
      · rename_i hb
        exact List.forall_mem_cons.2 ⟨Nat.le_trans hr hb.1, ih hrs⟩
      · simp

theorem Formed.beyond {b : UInt8} {rest : Bytes} (h : Formed b rest) (hb : 0x80 ≤ b.toNat) :
    (∀ a ∈ b :: rest, 0x80 ≤ a.toNat) ∧ 0x80 ≤ (scalarOf b rest).toNat := by
  constructor
  · intro a hm
    by_contra ha
    obtain ⟨rfl, -⟩ := h.eq_nil_of_ascii (Nat.lt_of_not_le ha) hm
    exact ha hb
  · by_contra hc
    have hencode := encodeChar_of_ascii (Nat.lt_of_not_le hc)
    rw [encodeChar_scalarOf h] at hencode
    rw [(List.cons.inj hencode).1, toNat_ofNat (by omega)] at hb
    exact hc hb

theorem scalarOf_ascii {b : UInt8} (hb : b.toNat < 0x80) : (scalarOf b []).toNat = b.toNat := by
  rw [scalarOf, List.foldl_nil, leadBits_eq, if_pos hb, toNat_charOfNat (.inl (by omega))]

theorem firstPiece_ascii {b : UInt8} (hb : b.toNat < 0x80) (bs : Bytes) :
    firstPiece b bs = (.scalar (scalarOf b []), 0) :=
  firstPiece_of_formed (.one hb) bs

theorem firstPiece_beyond {b : UInt8} (hb : 0x80 ≤ b.toNat) (bs : Bytes) :
    0x80 ≤ (firstPiece b bs).1.lenient.toNat ∧
      ∀ a ∈ b :: bs.take (firstPiece b bs).2, 0x80 ≤ a.toNat := by
  obtain ⟨piece, n, h⟩ : ∃ piece n, firstPiece b bs = (piece, n) := ⟨_, _, rfl⟩
  rw [h]
  cases piece with
  | scalar c =>
    obtain ⟨hf, rfl⟩ := formed_of_firstPiece h
    exact (hf.beyond hb).symm
  | broken bytes =>
    have hreplaced : 0x80 ≤ (Char.ofNat 0xFFFD).toNat := by decide
    refine ⟨hreplaced, List.forall_mem_cons.2 ⟨hb, ?_⟩⟩
    rw [firstPiece] at h
    split at h
    · obtain rfl := (Prod.mk.inj h).2
      simp
    · rename_i rs hrs
      simp only at h
      split at h
      · cases h
      · obtain rfl := (Prod.mk.inj h).2
        rw [← within_eq_take]
        exact beyond_of_mem_within (beyond_of_following hrs)

theorem blurs_lenientChars (bytes : Bytes) :
    Blurs ((lenientChars bytes).map Char.toNat) bytes := by
  rw [lenientChars]
  fun_induction pieces bytes with
  | case1 => exact .nil
  | case2 b bs first ih =>
    rw [List.map_cons, List.map_cons]
    by_cases hb : b.toNat < 0x80
    · have hfirst : first = (.scalar (scalarOf b []), 0) := firstPiece_ascii hb bs
      rw [hfirst] at ih ⊢
      rw [Piece.lenient, scalarOf_ascii hb]
      exact .ascii hb ih
    · obtain ⟨hcode, hstretch⟩ := firstPiece_beyond (Nat.le_of_not_lt hb) bs
      have h := Blurs.beyond hcode hstretch ih
      rwa [List.take_append_drop] at h

namespace Blurs

variable {codes word : List Nat} {bytes : Bytes}

theorem word_begins (h : Blurs codes bytes) (hword : ∀ c ∈ word, c < 0x80) :
    (word <+: codes ↔ word <+: bytes.map UInt8.toNat) ∧
      (word <+: codes → Blurs (codes.drop word.length) (bytes.drop word.length)) := by
  induction word generalizing codes bytes with
  | nil => exact ⟨⟨fun _ => List.nil_prefix, fun _ => List.nil_prefix⟩, fun _ => h⟩
  | cons c word ih =>
    obtain ⟨hc, hword⟩ := List.forall_mem_cons.1 hword
    cases h with
    | nil => simp
    | ascii hb h =>
      obtain ⟨hiff, hdrop⟩ := ih h hword
      rw [List.map_cons, List.cons_prefix_cons, List.cons_prefix_cons, hiff]
      exact ⟨Iff.rfl, fun hp => hdrop (hiff.2 hp.2)⟩
    | @beyond code b codes stretch bytes hcode hstretch h =>
      have hb : 0x80 ≤ b.toNat := hstretch b List.mem_cons_self
      have hne : c ≠ code := by omega
      have hne' : c ≠ b.toNat := by omega
      simp [List.cons_prefix_cons, hne, hne']

theorem takeWhile (h : Blurs codes bytes) {p : Nat → Bool} (hp : ∀ c, 0x80 ≤ c → p c = false) :
    codes.takeWhile p = (bytes.map UInt8.toNat).takeWhile p := by
  induction h with
  | nil => rfl
  | ascii hb h ih => rw [List.map_cons, List.takeWhile_cons, List.takeWhile_cons, ih]
  | @beyond code b codes stretch bytes hcode hstretch h ih =>
    have hb : 0x80 ≤ b.toNat := hstretch b List.mem_cons_self
    rw [List.map_cons, List.takeWhile_cons, List.takeWhile_cons, hp code hcode, hp _ hb]
    rfl

end Blurs

end CodeSurvey.Text.Utf8
