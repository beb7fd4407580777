import CodeSurvey.Proofs.Discovery.Steps
import CodeSurvey.Proofs.Mining.Stages
import CodeSurvey.Proofs.Store.History
import CodeSurvey.Proofs.Store.Intake
import CodeSurvey.Mining.Run

/-! All that can happen to a store. -/

namespace CodeSurvey

namespace Store

def Operation.Inserts : Operation → Prop
  | .insert _ => True
  | _ => False

def Operation.Mines : Operation → Prop
  | .mark _ => True
  | .recordReport _ _ => True
  | _ => False

def Performs (kind : Operation → Prop) (s t : Store) : Prop :=
  ∃ history : List Operation, (∀ o ∈ history, kind o) ∧ s.performAll history = t

namespace Performs

variable {kind : Operation → Prop} {s t u : Store}

theorem refl (s : Store) : s.Performs kind s :=
  ⟨[], by simp, rfl⟩

theorem one {o : Operation} (h : kind o) : s.Performs kind (s.perform o) :=
  ⟨[o], by simpa using h, rfl⟩

theorem trans (h : s.Performs kind t) (h' : t.Performs kind u) : s.Performs kind u := by
  obtain ⟨first, hfirst, rfl⟩ := h
  obtain ⟨second, hsecond, rfl⟩ := h'
  refine ⟨first ++ second, List.forall_mem_append.2 ⟨hfirst, hsecond⟩, ?_⟩
  simp [performAll, List.foldl_append]

theorem preserves {P : Store → Prop} (h : s.Performs kind t)
    (hstep : ∀ u o, kind o → P u → P (u.perform o)) (hs : P s) : P t := by
  obtain ⟨history, hkind, rfl⟩ := h
  induction history generalizing s with
  | nil => exact hs
  | cons o history ih =>
    obtain ⟨ho, hrest⟩ := List.forall_mem_cons.1 hkind
    exact ih (hstep s o ho hs) hrest

theorem consistent (h : s.Performs kind t) (hs : s.Consistent) : t.Consistent :=
  h.preserves (fun _ o _ hu => hu.perform o) hs

end Performs

theorem perform_of_mark {s t : Store} {m : Marker} (h : s.mark m = .ok t) :
    s.perform (.mark m) = t := by
  simp [perform, settled, h, Except.map]

theorem perform_of_recordReport {s t : Store} {repository : Int} {report : Text.Utf8.Bytes}
    {r : Recording} (h : s.recordReport repository report = .ok (r, t)) :
    s.perform (.recordReport repository report) = t := by
  simp [perform, settled, h]

end Store

namespace Discovery

open Store (Operation)

theorem Walk.insert_store (w : Walk) (page : List Repository) :
    (w.insert page).store = w.store.perform (.insert page) := by
  simp only [Walk.insert, Store.perform]
  cases w.store.insertRepositories page <;> rfl

variable {options : Options} {window : Window} {w v : Walk}

theorem Walk.Stepped.performs {result : Except Fault Window}
    (h : Walk.Stepped options window w (result, v)) :
    w.store.Performs Operation.Inserts v.store := by
  cases h with
  | faulted hf hk =>
    rw [hf.store]
    exact .refl _
  | turned hf hr hne =>
    rw [Walk.insert_store, hf.store]
    exact .one trivial
  | closed hf hr hnil =>
    rw [Walk.close_store, hf.store]
    exact .refl _

theorem Walk.run_performs (options : Options) (window : Window) (w : Walk) :
    w.store.Performs Operation.Inserts (Walk.run options window w).2.store :=
  Walk.run_induction (fun _ v => w.store.Performs Operation.Inserts v.store)
    (fun d => w.store.Performs Operation.Inserts d.2.store)
    (fun _ _ _ _ h _ hd => h.trans hd.performs) (fun _ _ _ _ h _ hd => h.trans hd.performs)
    (fun _ _ h _ => h) (.refl _)

end Discovery

namespace Mining

open Store (Operation)

variable {σ : Type} {shop : Workshop σ} {removing : Bool} {r : Repository} {s : Shift σ}

theorem Prepares.performs {p : Prepared × Shift σ} (h : Prepares shop r s p) :
    s.store.Performs Operation.Mines p.2.store := by
  cases h with
  | uncloned ho => exact .refl _
  | unanalyzed ho ha => exact .refl _
  | stuck ho ha hr => exact .refl _
  | @interned copy run _ _ _ _ ho ha hr =>
    have hrecord : Operation.Mines (.recordReport r.id run.report) := trivial
    rw [← Store.perform_of_recordReport hr]
    exact .one hrecord

theorem mineOne_performs (shop : Workshop σ) (removing : Bool) (r : Repository) (s : Shift σ) :
    s.store.Performs Operation.Mines (mineOne shop removing r s).2.store := by
  rw [mineOne_eq]
  have hp := (prepares shop r s).performs
  rcases (concludes shop removing (prepare shop r s)).store with h | ⟨marker, _, _, _, -, hm⟩
  · rw [h]
    exact hp
  · have hmark : Operation.Mines (.mark marker) := trivial
    rw [← Store.perform_of_mark hm]
    exact hp.trans (.one hmark)

theorem runAfter_performs (shop : Workshop σ) (removing : Bool) (after : Option Int)
    (summary : Summary) (s : Shift σ) :
    s.store.Performs Operation.Mines (runAfter shop removing after summary s).2.store := by
  fun_induction runAfter shop removing after summary s with
  | case1 => exact .refl _
  | case2 after summary s r hr mined ih => exact (mineOne_performs shop removing r s).trans ih

end Mining

inductive Event : Type 1 where
  | operation (o : Store.Operation)
  | walk (options : Discovery.Options) (service : Discovery.Service) (started : Discovery.Moment)
  | mine {σ : Type} (shop : Mining.Workshop σ) (removing : Bool) (memory : σ)
  | refuse (refusals : Refusals)

namespace Store

def undergo (s : Store) : Event → Store
  | .operation o => s.perform o
  | .walk options service started => (Discovery.discover options s service started).2.store
  | .mine shop removing memory => (Mining.run shop removing ⟨s, memory, []⟩).2.store
  | .refuse refusals => { s with refusals := refusals }

def undergoAll (s : Store) (events : List Event) : Store :=
  events.foldl undergo s

variable {s : Store}

theorem undergo_walk_performs (s : Store) (options : Discovery.Options)
    (service : Discovery.Service) (started : Discovery.Moment) :
    s.Performs Operation.Inserts (s.undergo (.walk options service started)) :=
  Discovery.Walk.run_performs options (Discovery.startingWindow options s)
    (Discovery.Walk.start s service started)

theorem undergo_mine_performs {σ : Type} (s : Store) (shop : Mining.Workshop σ) (removing : Bool)
    (memory : σ) : s.Performs Operation.Mines (s.undergo (.mine shop removing memory)) :=
  Mining.runAfter_performs shop removing none .zero ⟨s, memory, []⟩

theorem Consistent.undergo (hs : s.Consistent) (e : Event) : (s.undergo e).Consistent := by
  cases e with
  | operation o => exact hs.perform o
  | walk options service started =>
    exact (s.undergo_walk_performs options service started).consistent hs
  | mine shop removing memory => exact (s.undergo_mine_performs shop removing memory).consistent hs
  | refuse refusals => exact { hs with }

theorem Consistent.undergoAll (hs : s.Consistent) (events : List Event) :
    (s.undergoAll events).Consistent := by
  induction events generalizing s with
  | nil => exact hs
  | cons e events ih => exact ih (hs.undergo e)

end Store

end CodeSurvey
