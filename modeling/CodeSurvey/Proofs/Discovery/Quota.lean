import CodeSurvey.Proofs.Discovery.Accounts

/-! The quota of a walk. -/

namespace CodeSurvey.Discovery

open Walk (Open Stepped Fetched pageSize requestFor)

def Answer.items : Answer → List Repository
  | .failed _ => []
  | .response r => r.items.getD []

def Exchange.Fits (e : Exchange) : Prop :=
  e.answer.items.length ≤ e.request.perPage

instance (e : Exchange) : Decidable e.Fits :=
  inferInstanceAs (Decidable (_ ≤ _))

theorem Exchange.items_of_final {started : Moment} {e : Exchange}
    {items : Option (List Repository)} (h : e.reading started = .final items) :
    e.answer.items = items.getD [] := by
  obtain ⟨r, hr, -, -, rfl⟩ := Answer.reading_eq_final h
  rw [hr]
  rfl

structure Rationed (options : Options) (w : Walk) : Prop where
  quota : w.tally.found ≤ options.maxRepositories
  earlier : ∀ e ∈ w.trace, e.found ≤ w.tally.found
  wanted : ∀ e ∈ w.trace, e.found < options.maxRepositories
  sizes : ∀ e ∈ w.trace, e.request.perPage =
    min options.perPage (options.maxRepositories - e.found)
  rising : w.trace.Pairwise (fun e e' => e.found ≤ e'.found)

variable {options : Options} {window : Window} {w v : Walk}

theorem pageSize_of_lt {found : Nat} (h : found < options.maxRepositories) :
    pageSize options found = min options.perPage (options.maxRepositories - found) := by
  unfold pageSize
  omega

namespace Rationed

theorem fetched {tries : List Exchange} {last : Exchange} (h : Rationed options w)
    (hopen : Open options window w)
    (hf : Fetched (requestFor options window w.tally.found) options.maxRetries w v tries last) :
    Rationed options v where
  quota := hf.found ▸ h.quota
  earlier := by
    intro e he
    rw [hf.found]
    rcases hf.mem_trace.1 he with he | he
    · exact h.earlier e he
    · exact Nat.le_of_eq (hf.founds e he)
  wanted := by
    intro e he
    rcases hf.mem_trace.1 he with he | he
    · exact h.wanted e he
    · rw [hf.founds e he]
      exact hopen.1
  sizes := by
    intro e he
    rcases hf.mem_trace.1 he with he | he
    · exact h.sizes e he
    · rw [hf.requests e he, hf.founds e he]
      exact pageSize_of_lt hopen.1
  rising := by
    rw [hf.trace, List.pairwise_append]
    refine ⟨h.rising, List.pairwise_of_forall_mem_list fun e he e' he' => ?_, fun e he e' he' => ?_⟩
    · exact Nat.le_of_eq ((hf.founds e he).trans (hf.founds e' he').symm)
    · rw [hf.founds e' he']
      exact h.earlier e he

theorem inserted (h : Rationed options w) {page : List Repository}
    (hpage : page.length ≤ options.maxRepositories - w.tally.found) :
    Rationed options (w.insert page) := by
  unfold Walk.insert
  cases hi : w.store.insertRepositories page with
  | error e => exact ⟨h.quota, h.earlier, h.wanted, h.sizes, h.rising⟩
  | ok result =>
    obtain ⟨n, t⟩ := result
    have hn := Store.insertRepositories_le_length hi
    have hquota := h.quota
    refine ⟨?_, fun e he => Nat.le_add_right_of_le (h.earlier e he), h.wanted, h.sizes, h.rising⟩
    show w.tally.found + n ≤ options.maxRepositories
    omega

theorem closed (h : Rationed options w) (window : Window) :
    Rationed options (Walk.close options window w).2 := by
  simp only [Walk.close]
  split <;> exact ⟨h.quota, h.earlier, h.wanted, h.sizes, h.rising⟩

theorem stepped {result : Except Fault Window} (h : Rationed options w)
    (hopen : Open options window w) (hd : Stepped options window w (result, v))
    (hfits : ∀ e ∈ v.trace, e.Fits) : Rationed options v := by
  cases hd with
  | faulted hf hk => exact h.fetched hopen hf
  | @turned u tries last items hf hr hne =>
    have hu := h.fetched hopen hf
    have hlast : last ∈ u.trace := List.mem_of_getLast? hf.getLast?
    rw [Walk.insert_trace] at hfits
    refine hu.inserted ?_
    calc (items.getD []).length
        = last.answer.items.length := by rw [Exchange.items_of_final hr]
      _ ≤ last.request.perPage := hfits last hlast
      _ = min options.perPage (options.maxRepositories - last.found) := hu.sizes last hlast
      _ ≤ options.maxRepositories - last.found := Nat.min_le_right _ _
      _ = options.maxRepositories - u.tally.found := by
        rw [hf.found, hf.found_last]
  | closed hf hr hnil => exact (h.fetched hopen hf).closed window

end Rationed

theorem Rationed.run (h : Rationed options w)
    (hfits : ∀ e ∈ (Walk.run options window w).2.trace, e.Fits) :
    Rationed options (Walk.run options window w).2 := by
  refine Walk.run_induction_of_trace (fun _ e => e.Fits) (fun _ w => Rationed options w)
    (fun d => Rationed options d.2) ?_ ?_ (fun _ _ h _ => h) h hfits
  · intro window w fault v h hopen hd hfits
    exact h.stepped hopen hd hfits
  · intro window w next v h hopen hd hfits
    exact h.stepped hopen hd hfits

theorem discover_quota (options : Options) (hp : 0 < options.perPage) (s : Store)
    (service : Service) (started : Moment)
    (hfits : ∀ e ∈ (discover options s service started).2.trace, e.Fits) :
    let walked := discover options s service started
    let trace := walked.2.trace
    (∀ e ∈ trace, e.found ≤ options.maxRepositories ∧ 1 ≤ e.request.perPage ∧
      e.request.perPage ≤ min options.perPage (options.maxRepositories - e.found)) ∧
    trace.Pairwise (fun e e' => e'.request.perPage ≤ e.request.perPage) ∧
    trace.Pairwise (fun e e' => e.found ≤ e'.found) ∧
    walked.2.tally.found ≤ options.maxRepositories ∧
    ∀ last, walked.1 = .ok last →
      walked.2.tally.found = options.maxRepositories ∨ last.exhausted = true := by
  intro walked trace
  have hstart : Rationed options (Walk.start s service started) :=
    ⟨Nat.zero_le _, by simp [Walk.start], by simp [Walk.start], by simp [Walk.start], .nil⟩
  have h : Rationed options walked.2 := hstart.run hfits
  refine ⟨fun e he => ?_, ?_, h.rising, h.quota, fun last hok => ?_⟩
  · have hwanted := h.wanted e he
    have hsize := h.sizes e he
    omega
  · refine h.rising.imp_of_mem fun {e e'} he he' hle => ?_
    have hsize := h.sizes e he
    have hsize' := h.sizes e' he'
    omega
  · have hrest : ¬ Open options last walked.2 := Walk.run_rested hok
    cases hx : last.exhausted with
    | true => exact Or.inr rfl
    | false => exact Or.inl (Nat.le_antisymm h.quota (Nat.not_lt.1 fun hlt => hrest ⟨hlt, hx⟩))

def sixAnswered : Service where
  upcoming := [
    .response ⟨200, .silent, some [⟨1, "a/one", "u1", 900⟩, ⟨2, "b/two", "u2", 5⟩]⟩,
    .response ⟨429, ⟨some 7, none, none⟩, none⟩,
    .response ⟨200, .silent, some [⟨3, "c/three", "u3", 4⟩, ⟨4, "b/refused", "u4", 4⟩]⟩,
    .response ⟨200, .silent, some []⟩,
    .response ⟨200, .silent, some [⟨2, "b/two", "u2", 5⟩, ⟨5, "e/five", "u5", 4⟩]⟩,
    .response ⟨200, .silent, some [⟨6, "f/six", "u6", 4⟩]⟩]
  tail := .drained

theorem discover_quota_sixAnswered :
    let walked := discover ⟨"c", 3, 3, 2, .zero, 0⟩ knownOne sixAnswered ⟨0⟩
    (∀ e ∈ walked.2.trace, e.Fits) ∧ walked.1 = .ok ⟨3, 5, 3⟩ ∧
      walked.2.trace.map (fun e => (e.found, e.request.perPage)) =
        [(0, 2), (1, 2), (1, 2), (1, 2), (1, 2), (2, 1)] ∧
      walked.2.trace.Pairwise (fun e e' => e'.request.perPage ≤ e.request.perPage) ∧
      walked.2.tally.found = 3 := by
  intro walked
  have hfits : ∀ e ∈ walked.2.trace, e.Fits := by decide +kernel
  have hok : walked.1 = .ok ⟨3, 5, 3⟩ := by decide +kernel
  have h := discover_quota ⟨"c", 3, 3, 2, .zero, 0⟩ Nat.two_pos knownOne sixAnswered ⟨0⟩ hfits
  exact ⟨hfits, hok, by decide +kernel, h.2.1, (h.2.2.2.2 _ hok).resolve_right (by decide)⟩

end CodeSurvey.Discovery
