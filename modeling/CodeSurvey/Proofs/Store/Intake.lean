import CodeSurvey.Store.Queue
import Mathlib.Data.List.Nodup

/-! What a search asks of a store. -/

namespace CodeSurvey.Store

variable {s t : Store}

theorem insertRepository_grows {r : Repository} {isNew : Bool}
    (h : s.insertRepository r = .ok (isNew, t)) :
    s.repositories <+: t.repositories ∧
      t.repositories.length = s.repositories.length + if isNew then 1 else 0 := by
  obtain ⟨-, ⟨-, rfl, rfl⟩ | ⟨-, rfl, rfl⟩⟩ := insertRepository_eq_ok h
  · exact ⟨List.prefix_rfl, rfl⟩
  · exact ⟨List.prefix_append _ _, List.length_append⟩

theorem insertRepository_rest {r : Repository} {isNew : Bool}
    (h : s.insertRepository r = .ok (isNew, t)) :
    t = { s with repositories := t.repositories } := by
  obtain ⟨-, ⟨-, -, rfl⟩ | ⟨-, -, rfl⟩⟩ := insertRepository_eq_ok h <;> rfl

theorem insertRepositories_grows {rs : List Repository} {n : Nat}
    (h : s.insertRepositories rs = .ok (n, t)) :
    s.repositories <+: t.repositories ∧
      t.repositories.length = s.repositories.length + n := by
  induction rs generalizing s n with
  | nil =>
    cases h
    exact ⟨List.prefix_rfl, rfl⟩
  | cons r rs ih =>
    obtain ⟨isNew, u, k, hr, hrs, rfl⟩ := insertRepositories_cons_eq_ok h
    obtain ⟨hfirst, hone⟩ := insertRepository_grows hr
    obtain ⟨hrest, hmany⟩ := ih hrs
    refine ⟨hfirst.trans hrest, ?_⟩
    rw [hmany, hone]
    split <;> omega

theorem insertRepositories_rest {rs : List Repository} {n : Nat}
    (h : s.insertRepositories rs = .ok (n, t)) :
    t = { s with repositories := t.repositories } := by
  induction rs generalizing s n with
  | nil =>
    cases h
    rfl
  | cons r rs ih =>
    obtain ⟨isNew, u, k, hr, hrs, -⟩ := insertRepositories_cons_eq_ok h
    calc t = { u with repositories := t.repositories } := ih hrs
      _ = { s with repositories := t.repositories } := by rw [insertRepository_rest hr]

theorem insertRepositories_le_length {rs : List Repository} {n : Nat}
    (h : s.insertRepositories rs = .ok (n, t)) : n ≤ rs.length := by
  induction rs generalizing s n with
  | nil =>
    cases h
    exact Nat.le_refl _
  | cons r rs ih =>
    obtain ⟨isNew, u, k, hr, hrs, rfl⟩ := insertRepositories_cons_eq_ok h
    have hle := ih hrs
    rw [List.length_cons]
    split <;> omega

theorem knows_of_isPrefix (h : s.repositories <+: t.repositories) {id : Int}
    (hk : s.knows id = true) : t.knows id = true := by
  obtain ⟨r, hr, hid⟩ := knows_iff.1 hk
  exact knows_iff.2 ⟨r, h.subset hr, hid⟩

theorem insertRepository_of_accepted {r : Repository} (h : s.refusals.repository r = false) :
    ∃ isNew t, s.insertRepository r = .ok (isNew, t) ∧ t.refusals = s.refusals ∧
      t.knows r.id = true := by
  cases hk : s.knows r.id with
  | true => exact ⟨false, s, by simp [insertRepository, h, hk], rfl, hk⟩
  | false =>
    refine ⟨true, { s with repositories := s.repositories ++ [r] },
      by simp [insertRepository, h, hk], rfl, knows_iff.2 ⟨r, by simp, rfl⟩⟩

theorem insertRepositories_of_accepted {rs : List Repository}
    (h : ∀ r ∈ rs, s.refusals.repository r = false) :
    ∃ n t, s.insertRepositories rs = .ok (n, t) ∧ ∀ r ∈ rs, t.knows r.id = true := by
  induction rs generalizing s with
  | nil => exact ⟨0, s, rfl, by simp⟩
  | cons r rs ih =>
    obtain ⟨hr, hrs⟩ := List.forall_mem_cons.1 h
    obtain ⟨isNew, u, hu, hrefusals, hk⟩ := insertRepository_of_accepted hr
    rw [← hrefusals] at hrs
    obtain ⟨n, t, ht, hknown⟩ := ih hrs
    refine ⟨if isNew then n + 1 else n, t, by simp [insertRepositories, hu, ht], ?_⟩
    exact List.forall_mem_cons.2 ⟨knows_of_isPrefix (insertRepositories_grows ht).1 hk, hknown⟩

theorem insertRepositories_of_refused {rs : List Repository} {r : Repository} (hr : r ∈ rs)
    (h : s.refusals.repository r = true) : ∃ e, s.insertRepositories rs = .error e := by
  induction rs generalizing s with
  | nil => cases hr
  | cons q rs ih =>
    cases hq : s.insertRepository q with
    | error e => exact ⟨e, by simp [insertRepositories, hq]⟩
    | ok result =>
      obtain ⟨isNew, u⟩ := result
      have haccepted := (insertRepository_eq_ok hq).1
      have hrefusals : u.refusals = s.refusals := by rw [insertRepository_rest hq]
      have hne : r ≠ q := by
        rintro rfl
        simp [h] at haccepted
      obtain ⟨e, he⟩ := ih ((List.mem_cons.1 hr).resolve_left hne) (by rw [hrefusals, h])
      exact ⟨e, by simp [insertRepositories, hq, he]⟩

theorem insertRepositories_segment {all known page : List Repository}
    (hids : (all.map Repository.id).Nodup) (hs : s.repositories <+: all)
    (hknown : known <+: s.repositories) (hpage : known ++ page <+: all)
    (hr : ∀ r ∈ page, s.refusals.repository r = false) :
    ∃ n t, s.insertRepositories page = .ok (n, t) ∧ t.refusals = s.refusals ∧
      t.repositories <+: all ∧ known ++ page <+: t.repositories := by
  induction page generalizing known s with
  | nil => exact ⟨0, s, rfl, rfl, hs, by simpa using hknown⟩
  | cons r rs ih =>
    have hsplit : known ++ r :: rs = known ++ [r] ++ rs := by simp
    rw [hsplit] at hpage ⊢
    have hfirst : known ++ [r] <+: all := (List.prefix_append _ rs).trans hpage
    have haccepted := hr r List.mem_cons_self
    have hrest : ∀ q ∈ rs, s.refusals.repository q = false :=
      fun q hq => hr q (List.mem_cons_of_mem _ hq)
    by_cases hin : known ++ [r] <+: s.repositories
    · have hk : s.knows r.id = true :=
        knows_iff.2 ⟨r, hin.subset (by simp), rfl⟩
      obtain ⟨n, t, ht, href, hall, hseg⟩ := ih hs hin hpage hrest
      refine ⟨n, t, ?_, href, hall, hseg⟩
      simp [insertRepositories, insertRepository, haccepted, hk, ht]
    · have hend : s.repositories = known := by
        have hle : s.repositories <+: known ++ [r] :=
          (List.prefix_or_prefix_of_prefix hfirst hs).resolve_left hin
        rcases List.prefix_concat_iff.1 hle with he | hle
        · exact absurd (he ▸ List.prefix_rfl) hin
        · exact hle.eq_of_length_le hknown.length_le
      have hk : s.knows r.id = false := by
        rw [Bool.eq_false_iff, Ne, knows_iff, hend]
        rintro ⟨q, hq, hid⟩
        have hn := hids.sublist (hfirst.sublist.map Repository.id)
        rw [List.map_append, List.nodup_append] at hn
        exact hn.2.2 q.id (List.mem_map_of_mem hq) r.id (by simp) hid
      have happend : known ++ [r] = s.repositories ++ [r] := by rw [hend]
      obtain ⟨n, t, ht, href, hall, hseg⟩ :=
        ih (s := { s with repositories := s.repositories ++ [r] }) (happend ▸ hfirst)
          (happend ▸ List.prefix_rfl) hpage hrest
      refine ⟨n + 1, t, ?_, href, hall, hseg⟩
      simp [insertRepositories, insertRepository, haccepted, hk, ht]

theorem leastStars_eq_none_iff {rs : List Repository} : leastStars rs = none ↔ rs = [] := by
  cases rs with
  | nil => simp [leastStars]
  | cons r rs =>
    simp only [leastStars, reduceCtorEq, iff_false]
    split <;> simp

theorem leastStars_mem {rs : List Repository} {n : Int} (h : leastStars rs = some n) :
    ∃ r ∈ rs, r.stars = n := by
  induction rs generalizing n with
  | nil => cases h
  | cons r rs ih =>
    simp only [leastStars] at h
    split at h
    · cases h
      exact ⟨r, List.mem_cons_self, rfl⟩
    · rename_i m hm
      cases h
      rcases Int.le_total r.stars m with hle | hle
      · exact ⟨r, List.mem_cons_self, by omega⟩
      · obtain ⟨q, hq, rfl⟩ := ih hm
        exact ⟨q, List.mem_cons_of_mem _ hq, by omega⟩

theorem minStarsSeen_cases (s : Store) :
    s.repositories = [] ∧ s.minStarsSeen = noStarsSeen ∨
      ∃ r ∈ s.repositories, r.stars = s.minStarsSeen := by
  unfold minStarsSeen
  cases h : leastStars s.repositories with
  | none => exact Or.inl ⟨leastStars_eq_none_iff.1 h, rfl⟩
  | some n => exact Or.inr (leastStars_mem h)

end CodeSurvey.Store
