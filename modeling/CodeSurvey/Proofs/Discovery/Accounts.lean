import CodeSurvey.Proofs.Discovery.Steps
import CodeSurvey.Proofs.Store.History
import CodeSurvey.Proofs.Store.Intake

/-! What a walk counts. -/

namespace CodeSurvey.Discovery

open Walk (Fetched Stepped)

structure Accounted (before : Store) (ks : List Kind) (w : Walk) : Prop where
  rows : before.repositories <+: w.store.repositories
  found : w.store.repositories.length = before.repositories.length + w.tally.found
  pages : w.tally.pages = ks.count .page
  windows : w.tally.windows = ks.count .drained
  waits : w.tally.rateLimited = ks.count .wait

@[simp] theorem Walk.insert_kinds (w : Walk) (page : List Repository) :
    (w.insert page).kinds = w.kinds := by
  simp [kinds]

@[simp] theorem Walk.close_kinds (options : Options) (window : Window) (w : Walk) :
    (close options window w).2.kinds = w.kinds := by
  simp [kinds]

variable {before : Store} {ks : List Kind} {options : Options} {window : Window} {w v : Walk}

namespace Accounted

theorem fetched {request : Request} {retries : Nat} {tries : List Exchange} {last : Exchange}
    (h : Accounted before ks w) (hf : Fetched request retries w v tries last) :
    Accounted before (ks ++ tries.map (Exchange.kind w.started)) v where
  rows := hf.store ▸ h.rows
  found := by rw [hf.store, hf.found, h.found]
  pages := by
    rw [List.count_append, hf.count_tries (by decide) (by decide), Nat.add_zero, hf.pages, h.pages]
  windows := by
    rw [List.count_append, hf.count_tries (by decide) (by decide), Nat.add_zero, hf.windows,
      h.windows]
  waits := by rw [List.count_append, hf.waits, h.waits]

theorem faulted {k : Kind} (h : Accounted before ks w) (hk : k = .failure ∨ k = .tooLong) :
    Accounted before (ks ++ [k]) w := by
  rcases hk with rfl | rfl <;>
    exact ⟨h.rows, h.found, by simp [h.pages], by simp [h.windows], by simp [h.waits]⟩

theorem turned (h : Accounted before ks w) (page : List Repository) :
    Accounted before (ks ++ [.page]) (w.insert page) := by
  have hpages : w.tally.pages + 1 = (ks ++ [Kind.page]).count .page := by simp [h.pages]
  have hwindows : w.tally.windows = (ks ++ [Kind.page]).count .drained := by simp [h.windows]
  have hwaits : w.tally.rateLimited = (ks ++ [Kind.page]).count .wait := by simp [h.waits]
  unfold Walk.insert
  cases hi : w.store.insertRepositories page with
  | error e => exact ⟨h.rows, h.found, hpages, hwindows, hwaits⟩
  | ok result =>
    obtain ⟨hrows, hlength⟩ := Store.insertRepositories_grows hi
    refine ⟨h.rows.trans hrows, ?_, hpages, hwindows, hwaits⟩
    rw [hlength, h.found, Nat.add_assoc]

theorem closed (h : Accounted before ks w) (options : Options) (window : Window) :
    Accounted before (ks ++ [.drained]) (Walk.close options window w).2 := by
  have hpages : w.tally.pages = (ks ++ [Kind.drained]).count .page := by simp [h.pages]
  have hwindows : w.tally.windows + 1 = (ks ++ [Kind.drained]).count .drained := by
    simp [h.windows]
  have hwaits : w.tally.rateLimited = (ks ++ [Kind.drained]).count .wait := by simp [h.waits]
  simp only [Walk.close]
  split <;> exact ⟨h.rows, h.found, hpages, hwindows, hwaits⟩

theorem stepped {result : Except Fault Window} (h : Accounted before w.kinds w)
    (hd : Stepped options window w (result, v)) : Accounted before v.kinds v := by
  cases hd with
  | faulted hf hk =>
    rw [hf.kinds, ← List.append_assoc]
    exact (h.fetched hf).faulted hk
  | turned hf hr hne =>
    rw [Walk.insert_kinds, hf.kinds, ← List.append_assoc, Exchange.kind_of_final hr, if_neg hne]
    exact (h.fetched hf).turned _
  | closed hf hr hnil =>
    rw [Walk.close_kinds, hf.kinds, ← List.append_assoc, Exchange.kind_of_final hr, if_pos hnil]
    exact (h.fetched hf).closed _ _

end Accounted

theorem Walk.Stepped.count_tooLong {next : Window} (h : Stepped options window w (.ok next, v)) :
    v.kinds.count .tooLong = w.kinds.count .tooLong := by
  cases h with
  | turned hf hr hne =>
    rw [insert_kinds, hf.kinds, List.count_append, List.count_append,
      hf.count_tries (by decide) (by decide), Exchange.kind_of_final hr, if_neg hne]
    rfl
  | closed hf hr hnil =>
    rw [close_kinds, hf.kinds, List.count_append, List.count_append,
      hf.count_tries (by decide) (by decide), Exchange.kind_of_final hr, if_pos hnil]
    rfl

theorem Accounted.run (h : Accounted before w.kinds w) :
    Accounted before (Walk.run options window w).2.kinds (Walk.run options window w).2 :=
  Walk.run_induction (fun _ w => Accounted before w.kinds w)
    (fun d => Accounted before d.2.kinds d.2)
    (fun _ _ _ _ h _ hd => h.stepped hd) (fun _ _ _ _ h _ hd => h.stepped hd)
    (fun _ _ h _ => h) h

theorem Walk.run_count_tooLong {last : Window} (h : (run options window w).1 = .ok last) :
    (run options window w).2.kinds.count .tooLong = w.kinds.count .tooLong :=
  run_induction (fun _ v => v.kinds.count .tooLong = w.kinds.count .tooLong)
    (fun d => d.1 = .ok last → d.2.kinds.count .tooLong = w.kinds.count .tooLong)
    (fun _ _ _ _ _ _ _ herror => nomatch herror)
    (fun _ _ _ _ hcount _ hd => hd.count_tooLong.trans hcount)
    (fun _ _ hcount _ _ => hcount) rfl h

theorem discover_accounts (options : Options) (s : Store) (service : Service) (started : Moment) :
    let walked := discover options s service started
    s.repositories <+: walked.2.store.repositories ∧
      walked.2.store.repositories.length = s.repositories.length + walked.2.tally.found ∧
      walked.2.tally.pages = walked.2.kinds.count .page ∧
      walked.2.tally.windows = walked.2.kinds.count .drained ∧
      walked.2.tally.rateLimited = walked.2.kinds.count .wait ∧
      ∀ last, walked.1 = .ok last →
        walked.2.trace.length = walked.2.tally.pages + walked.2.tally.windows +
          walked.2.tally.rateLimited + walked.2.kinds.count .failure := by
  intro walked
  have hstart : Accounted s [] (Walk.start s service started) :=
    ⟨List.prefix_rfl, rfl, rfl, rfl, rfl⟩
  have h : Accounted s walked.2.kinds walked.2 := Accounted.run hstart
  refine ⟨h.rows, h.found, h.pages, h.windows, h.waits, fun last hok => ?_⟩
  have hnone : walked.2.kinds.count .tooLong = 0 := Walk.run_count_tooLong hok
  have hall := length_eq_counts walked.2.kinds
  rw [hnone, Nat.add_zero, ← h.pages, ← h.windows, ← h.waits] at hall
  rw [← hall]
  exact (List.length_map _).symm

def knownOne : Store :=
  (Store.blank ⟨fun r => r.name == "b/refused", fun _ => false, .refused⟩).performAll
    [.insert [⟨1, "a/one", "u1", 900⟩]]

def fiveAnswered : Service where
  upcoming := [.response ⟨429, ⟨some 7, none, none⟩, none⟩, .failed (.search "timeout"),
    .response ⟨200, .silent, some [⟨1, "a/one", "u1", 7⟩, ⟨2, "b/two", "u2", 5⟩,
      ⟨2, "b/two", "u2", 5⟩]⟩,
    .response ⟨200, .silent, some [⟨3, "c/three", "u3", 4⟩, ⟨4, "b/refused", "u4", 4⟩]⟩,
    .response ⟨502, .silent, none⟩]
  tail := .drained

theorem discover_accounts_fiveAnswered :
    let walked := discover ⟨"c", 3, 10, 2, .zero, 1⟩ knownOne fiveAnswered ⟨0⟩
    walked.1 = .ok ⟨3, 3, 1⟩ ∧ walked.2.tally = ⟨1, 2, 3, 1⟩ ∧
      walked.2.kinds.count .failure = 2 ∧ walked.2.store.repositories.length = 1 + 1 ∧
      walked.2.trace.length = 2 + 3 + 1 + 2 := by
  intro walked
  have hok : walked.1 = .ok ⟨3, 3, 1⟩ := by decide +kernel
  have htally : walked.2.tally = ⟨1, 2, 3, 1⟩ := by decide +kernel
  have hfailures : walked.2.kinds.count .failure = 2 := by decide +kernel
  have h := discover_accounts ⟨"c", 3, 10, 2, .zero, 1⟩ knownOne fiveAnswered ⟨0⟩
  refine ⟨hok, htally, hfailures, ?_, ?_⟩
  · have hfound : walked.2.store.repositories.length = 1 + walked.2.tally.found := h.2.1
    rw [hfound, htally]
  · have hsent := h.2.2.2.2.2 _ hok
    rw [htally, hfailures] at hsent
    exact hsent

end CodeSurvey.Discovery
