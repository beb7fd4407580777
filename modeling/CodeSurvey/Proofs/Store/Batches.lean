import CodeSurvey.Proofs.Store.History
import CodeSurvey.Proofs.Store.Intake
import Mathlib.Data.Finset.Card

/-! Batches of repositories. -/

namespace CodeSurvey.Store

def newIds (s : Store) (rs : List Repository) : Finset Int :=
  (rs.map Repository.id).toFinset.filter (fun id => s.knows id = false)

def first? (rs : List Repository) (id : Int) : Option Repository :=
  rs.find? (fun r => r.id == id)

variable {s t u : Store} {r : Repository} {rs : List Repository}

theorem mem_newIds {id : Int} :
    id ∈ s.newIds rs ↔ s.knows id = false ∧ ∃ r ∈ rs, r.id = id := by
  simp [newIds, and_comm]

theorem first?_cons (r : Repository) (rs : List Repository) (id : Int) :
    first? (r :: rs) id = (first? [r] id).or (first? rs id) := by
  have happend : r :: rs = [r] ++ rs := rfl
  rw [happend]
  exact List.find?_append

theorem knows_eq_isSome (s : Store) (id : Int) : s.knows id = (s.repository? id).isSome := by
  rw [Bool.eq_iff_iff, repository?, List.find?_isSome, knows, List.any_eq_true]

theorem newIds_cons_of_knows (h : s.knows r.id = true) : s.newIds (r :: rs) = s.newIds rs := by
  ext id
  simp only [mem_newIds, List.exists_mem_cons_iff]
  refine and_congr_right fun hid => or_iff_right ?_
  rintro rfl
  simp [h] at hid

theorem newIds_cons_of_new (h : s.knows r.id = false) :
    s.newIds (r :: rs) =
      insert r.id (newIds { s with repositories := s.repositories ++ [r] } rs) := by
  ext id
  by_cases hid : r.id = id
  · simp [mem_newIds, ← hid, h]
  · have hne : id ≠ r.id := fun he => hid he.symm
    simp [mem_newIds, knows, hid, hne]

structure TakesIn (s : Store) (rs : List Repository) (n : Nat) (t : Store) : Prop where
  lookup : ∀ id, t.repository? id = (s.repository? id).or (first? rs id)
  rest : t = { s with repositories := t.repositories }
  kept : s.repositories <+: t.repositories
  new : n = (s.newIds rs).card
  grown : t.repositories.length = s.repositories.length + n

theorem insertRepository_lookup {isNew : Bool} (h : s.insertRepository r = .ok (isNew, u))
    (id : Int) : u.repository? id = (s.repository? id).or (first? [r] id) := by
  obtain ⟨-, ⟨hk, -, rfl⟩ | ⟨-, -, rfl⟩⟩ := insertRepository_eq_ok h
  · by_cases hid : r.id = id
    · rw [knows_eq_isSome, hid] at hk
      obtain ⟨q, hq⟩ := Option.isSome_iff_exists.1 hk
      rw [hq, Option.some_or]
    · simp [first?, hid]
  · simp only [repository?, first?, List.find?_append]

theorem insertRepository_newIds {isNew : Bool} (h : s.insertRepository r = .ok (isNew, u)) :
    (s.newIds (r :: rs)).card = (u.newIds rs).card + if isNew then 1 else 0 := by
  obtain ⟨-, ⟨hk, rfl, rfl⟩ | ⟨hk, rfl, rfl⟩⟩ := insertRepository_eq_ok h
  · rw [newIds_cons_of_knows hk]
    rfl
  · have hmem : r.id ∉ newIds { s with repositories := s.repositories ++ [r] } rs := by
      simp [mem_newIds, knows]
    rw [newIds_cons_of_new hk, Finset.card_insert_of_notMem hmem]
    rfl

theorem insertRepositories_lookup {n : Nat} (h : s.insertRepositories rs = .ok (n, t)) (id : Int) :
    t.repository? id = (s.repository? id).or (first? rs id) := by
  induction rs generalizing s n with
  | nil =>
    cases h
    exact Option.or_none.symm
  | cons r rs ih =>
    obtain ⟨isNew, u, k, hr, hrs, -⟩ := insertRepositories_cons_eq_ok h
    rw [ih hrs, insertRepository_lookup hr, first?_cons r rs, Option.or_assoc]

theorem insertRepositories_newIds {n : Nat} (h : s.insertRepositories rs = .ok (n, t)) :
    n = (s.newIds rs).card := by
  induction rs generalizing s n with
  | nil =>
    cases h
    rfl
  | cons r rs ih =>
    obtain ⟨isNew, u, k, hr, hrs, rfl⟩ := insertRepositories_cons_eq_ok h
    rw [insertRepository_newIds hr, ← ih hrs]
    split <;> rfl

theorem insertRepositories_takesIn {n : Nat} (h : s.insertRepositories rs = .ok (n, t)) :
    s.TakesIn rs n t where
  lookup := insertRepositories_lookup h
  rest := insertRepositories_rest h
  kept := (insertRepositories_grows h).1
  new := insertRepositories_newIds h
  grown := (insertRepositories_grows h).2

theorem insertRepositories_append (s : Store) (xs ys : List Repository) :
    s.insertRepositories (xs ++ ys) =
      match s.insertRepositories xs with
      | .error e => .error e
      | .ok (m, u) =>
        match u.insertRepositories ys with
        | .error e => .error e
        | .ok (n, t) => .ok (m + n, t) := by
  induction xs generalizing s with
  | nil =>
    simp only [List.nil_append, insertRepositories, Nat.zero_add]
    cases s.insertRepositories ys <;> rfl
  | cons r rs ih =>
    simp only [List.cons_append, insertRepositories]
    cases s.insertRepository r with
    | error e => rfl
    | ok result =>
      obtain ⟨isNew, u⟩ := result
      simp only [ih]
      cases u.insertRepositories rs with
      | error e => rfl
      | ok result =>
        obtain ⟨m, v⟩ := result
        dsimp only
        cases v.insertRepositories ys with
        | error e => rfl
        | ok result =>
          cases isNew with
          | false => rfl
          | true => simp only [if_true, Nat.add_right_comm]

/-- A batch is refused as a whole or taken in as a whole. Two batches that are taken in lead to the
very store that they lead to as one, and so to the same rows and the same lowest star count. -/
theorem insertRepositories_batch (s : Store) :
    (∀ rs, (∃ r ∈ rs, s.refusals.repository r = true) →
        (∃ e, s.insertRepositories rs = .error e) ∧ s.perform (.insert rs) = s) ∧
      (∀ rs, (∀ r ∈ rs, s.refusals.repository r = false) →
        ∃ n t, s.insertRepositories rs = .ok (n, t) ∧ s.perform (.insert rs) = t ∧
          s.TakesIn rs n t) ∧
      ∀ xs ys, (∀ r ∈ xs ++ ys, s.refusals.repository r = false) →
        ∃ m n u t, s.insertRepositories xs = .ok (m, u) ∧ u.insertRepositories ys = .ok (n, t) ∧
          s.insertRepositories (xs ++ ys) = .ok (m + n, t) := by
  refine ⟨fun rs hrefused => ?_, fun rs haccepted => ?_, fun xs ys haccepted => ?_⟩
  · obtain ⟨r, hr, hrefused⟩ := hrefused
    obtain ⟨e, he⟩ := insertRepositories_of_refused hr hrefused
    exact ⟨⟨e, he⟩, by simp [perform, settled, he]⟩
  · obtain ⟨n, t, ht, -⟩ := insertRepositories_of_accepted haccepted
    exact ⟨n, t, ht, by simp [perform, settled, ht], insertRepositories_takesIn ht⟩
  · -- The two as one are accepted, so that neither of them can fail.
    obtain ⟨k, t, ht, -⟩ := insertRepositories_of_accepted haccepted
    rw [insertRepositories_append] at ht ⊢
    cases hxs : s.insertRepositories xs with
    | error e => simp [hxs] at ht
    | ok result =>
      obtain ⟨m, u⟩ := result
      cases hys : u.insertRepositories ys with
      | error e => simp [hxs, hys] at ht
      | ok result => exact ⟨m, result.1, u, result.2, rfl, hys, by simp only [hys]⟩

def oneKnown : Store :=
  (blank ⟨fun r => r.name == "boom", fun _ => false, .refused⟩).performAll
    [.insert [⟨1, "a/one", "u1", 900⟩]]

def fourFound : List Repository :=
  [⟨2, "b/two", "u2", 800⟩, ⟨1, "x/else", "v1", 5⟩, ⟨2, "y/other", "v2", 7⟩,
    ⟨3, "c/three", "u3", 700⟩]

theorem insertRepositories_batch_fourFound :
    oneKnown.perform (.insert (fourFound ++ [⟨4, "boom", "u4", 1⟩])) = oneKnown ∧
      (∃ t, oneKnown.insertRepositories fourFound = .ok (2, t) ∧
        t.repository? 1 = some ⟨1, "a/one", "u1", 900⟩ ∧
        t.repository? 2 = some ⟨2, "b/two", "u2", 800⟩ ∧ t.repositories.length = 3) ∧
      ∃ m n u t, oneKnown.insertRepositories (fourFound.take 2) = .ok (m, u) ∧
        u.insertRepositories (fourFound.drop 2) = .ok (n, t) ∧
        oneKnown.insertRepositories fourFound = .ok (m + n, t) := by
  obtain ⟨hrefused, haccepted, hsplit⟩ := insertRepositories_batch oneKnown
  have hall : ∀ r ∈ fourFound, oneKnown.refusals.repository r = false := by decide +kernel
  refine ⟨(hrefused _ ⟨_, List.mem_concat_self, by decide +kernel⟩).2, ?_, ?_⟩
  · obtain ⟨n, t, ht, -, h⟩ := haccepted fourFound hall
    have hn : n = 2 := h.new.trans (by decide +kernel)
    have hlength : oneKnown.repositories.length = 1 := by decide +kernel
    have hgrown := h.grown
    rw [hn, hlength] at hgrown
    rw [hn] at ht
    exact ⟨t, ht, (h.lookup 1).trans (by decide +kernel), (h.lookup 2).trans (by decide +kernel),
      hgrown⟩
  · exact hsplit (fourFound.take 2) (fourFound.drop 2) (by rwa [List.take_append_drop])

end CodeSurvey.Store
