import CodeSurvey.Store.Basic
import CodeSurvey.Text.Numeral

/-! The repositories of a store, and those without a marker in ascending order of ids. -/

namespace CodeSurvey.Store

/-- Inserts a repository unless its id is known, and says whether it did. The database's refusal
comes before the look at the id. -/
def insertRepository (s : Store) (r : Repository) : Except StoreError (Bool × Store) :=
  if s.refusals.repository r then .error s.refusals.reason
  else if s.knows r.id then .ok (false, s)
  else .ok (true, { s with repositories := s.repositories ++ [r] })

def insertRepositories (s : Store) : List Repository → Except StoreError (Nat × Store)
  | [] => .ok (0, s)
  | r :: rs =>
    match s.insertRepository r with
    | .error e => .error e
    | .ok (isNew, s) =>
      match s.insertRepositories rs with
      | .error e => .error e
      | .ok (n, s) => .ok (if isNew then n + 1 else n, s)

theorem insertRepository_eq_ok {s t : Store} {r : Repository} {isNew : Bool}
    (h : s.insertRepository r = .ok (isNew, t)) :
    s.refusals.repository r = false ∧
      (s.knows r.id = true ∧ isNew = false ∧ t = s ∨
        s.knows r.id = false ∧ isNew = true ∧
          t = { s with repositories := s.repositories ++ [r] }) := by
  unfold insertRepository at h
  split at h
  · cases h
  rename_i haccepted
  refine ⟨by simpa using haccepted, ?_⟩
  split at h
  · rename_i hk
    cases h
    exact Or.inl ⟨hk, rfl, rfl⟩
  · rename_i hk
    cases h
    exact Or.inr ⟨by simpa using hk, rfl, rfl⟩

theorem insertRepositories_cons_eq_ok {s t : Store} {r : Repository} {rs : List Repository}
    {n : Nat} (h : s.insertRepositories (r :: rs) = .ok (n, t)) :
    ∃ isNew u k, s.insertRepository r = .ok (isNew, u) ∧ u.insertRepositories rs = .ok (k, t) ∧
      n = if isNew then k + 1 else k := by
  simp only [insertRepositories] at h
  split at h
  · cases h
  rename_i isNew u hr
  split at h
  · cases h
  rename_i k v hrs
  cases h
  exact ⟨isNew, u, k, hr, hrs, rfl⟩

/-- Stands for the lowest star count while no repository is known. -/
def noStarsSeen : Int := 10000000

def leastStars : List Repository → Option Int
  | [] => none
  | r :: rs =>
    match leastStars rs with
    | none => some r.stars
    | some n => some (min r.stars n)

def minStarsSeen (s : Store) : Int :=
  (leastStars s.repositories).getD noStarsSeen

def unmined (s : Store) : List Repository :=
  s.repositories.filter (fun r => !s.isMarked r.id)

def leastId : List Repository → Option Repository
  | [] => none
  | r :: rs =>
    match leastId rs with
    | none => some r
    | some m => if m.id < r.id then some m else some r

/-- The unmined repository with the lowest id above `after`; without `after`, above the least word
of 64 bits. -/
def nextUnminedAfter (s : Store) (after : Option Int) : Option Repository :=
  leastId (s.unmined.filter (fun r => after.getD Text.Numeral.minInt64 < r.id))

def nextUnmined (s : Store) : Option Repository :=
  s.nextUnminedAfter none

def countUnmined (s : Store) : Nat :=
  s.unmined.length

theorem leastId_mem {rs : List Repository} {m : Repository} (h : leastId rs = some m) :
    m ∈ rs := by
  induction rs generalizing m with
  | nil => cases h
  | cons r rs ih =>
    simp only [leastId] at h
    split at h
    · cases h
      exact List.mem_cons_self
    · rename_i n hn
      split at h
      · cases h
        exact List.mem_cons_of_mem _ (ih hn)
      · cases h
        exact List.mem_cons_self

theorem leastId_eq_none_iff {rs : List Repository} : leastId rs = none ↔ rs = [] := by
  cases rs with
  | nil => simp [leastId]
  | cons r rs =>
    simp only [leastId, reduceCtorEq, iff_false]
    split
    · simp
    · split <;> simp

theorem leastId_le {rs : List Repository} {m : Repository} (h : leastId rs = some m) :
    ∀ r ∈ rs, m.id ≤ r.id := by
  induction rs generalizing m with
  | nil => cases h
  | cons r rs ih =>
    simp only [leastId] at h
    intro q hq
    split at h
    · rename_i hn
      cases h
      rw [leastId_eq_none_iff.1 hn] at hq
      simp only [List.mem_singleton] at hq
      subst hq
      exact Int.le_refl _
    · rename_i n hn
      have hle := ih hn
      split at h
      · rename_i hlt
        cases h
        rcases List.mem_cons.1 hq with rfl | hq
        · omega
        · exact hle q hq
      · rename_i hge
        cases h
        rcases List.mem_cons.1 hq with rfl | hq
        · exact Int.le_refl _
        · have := hle q hq
          omega

theorem nextUnminedAfter_mem {s : Store} {after : Option Int} {r : Repository}
    (h : s.nextUnminedAfter after = some r) :
    r ∈ s.repositories ∧ s.isMarked r.id = false ∧
      after.getD Text.Numeral.minInt64 < r.id := by
  have hm := leastId_mem h
  simp only [unmined, List.mem_filter, Bool.not_eq_true', decide_eq_true_eq] at hm
  exact ⟨hm.1.1, hm.1.2, hm.2⟩

end CodeSurvey.Store
