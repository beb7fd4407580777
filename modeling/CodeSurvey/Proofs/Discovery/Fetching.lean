import CodeSurvey.Discovery.Walk
import Mathlib.Algebra.GroupWithZero.Nat
import Mathlib.Data.List.Basic

/-! What fetching a page adds to a walk. -/

namespace CodeSurvey.Discovery

inductive Kind where
  | wait
  | tooLong
  | failure
  | page
  | drained
deriving DecidableEq, Repr

def Response.kind (r : Response) (now : Moment) : Kind :=
  match r.limit.backoff now with
  | .wait _ => .wait
  | .tooLong => .tooLong
  | .proceed =>
    if r.isServerError then .failure else if r.items.getD [] = [] then .drained else .page

def Answer.kind (now : Moment) : Answer → Kind
  | .failed _ => .failure
  | .response r => r.kind now

def Reading.kind : Reading → Kind
  | .wait _ => .wait
  | .failure _ => .failure
  | .final items => if items.getD [] = [] then .drained else .page
  | .stop _ => .tooLong

def Answer.demand (now : Moment) : Answer → Duration
  | .failed _ => .zero
  | .response r =>
    match r.limit.backoff now with
    | .wait d => d
    | _ => .zero

def Reading.demand : Reading → Duration
  | .wait d => d
  | _ => .zero

@[simp] theorem Answer.demand_reading (a : Answer) (request : Request) (now : Moment) :
    (a.reading request now).demand = a.demand now := by
  cases a with
  | failed fault => rfl
  | response r =>
    simp only [Answer.reading, Answer.demand]
    cases r.limit.backoff now with
    | proceed => cases r.isServerError <;> rfl
    | wait d => rfl
    | tooLong => rfl

@[simp] theorem Answer.kind_reading (a : Answer) (request : Request) (now : Moment) :
    (a.reading request now).kind = a.kind now := by
  cases a with
  | failed fault => rfl
  | response r =>
    simp only [Answer.reading, Answer.kind, Response.kind]
    cases r.limit.backoff now with
    | proceed => cases r.isServerError <;> rfl
    | wait d => rfl
    | tooLong => rfl

namespace Exchange

def reading (started : Moment) (e : Exchange) : Reading :=
  e.answer.reading e.request (started.after e.slept)

def kind (started : Moment) (e : Exchange) : Kind :=
  e.answer.kind (started.after e.slept)

def demand (started : Moment) (e : Exchange) : Duration :=
  e.answer.demand (started.after e.slept)

theorem demand_eq (started : Moment) (e : Exchange) :
    e.demand started = (e.reading started).demand :=
  (e.answer.demand_reading e.request (started.after e.slept)).symm

theorem kind_eq (started : Moment) (e : Exchange) :
    e.kind started = (e.reading started).kind :=
  (e.answer.kind_reading e.request (started.after e.slept)).symm

theorem kind_of_final {started : Moment} {e : Exchange} {items : Option (List Repository)}
    (h : e.reading started = .final items) :
    e.kind started = if items.getD [] = [] then .drained else .page := by
  rw [kind_eq, h]
  rfl

end Exchange

theorem length_eq_counts (ks : List Kind) :
    ks.length = ks.count .page + ks.count .drained + ks.count .wait + ks.count .failure +
      ks.count .tooLong := by
  induction ks with
  | nil => rfl
  | cons k ks ih =>
    cases k <;> simp only [List.length_cons, List.count_cons, ih] <;> simp <;> omega

namespace Service

def Serves (s : Service) : List Answer → Service → Prop
  | [], t => t = s
  | a :: as, t => s.next.1 = a ∧ s.next.2.Serves as t

theorem Serves.append {s t u : Service} {as bs : List Answer} (h : s.Serves as t)
    (h' : t.Serves bs u) : s.Serves (as ++ bs) u := by
  induction as generalizing s with
  | nil =>
    obtain rfl : t = s := h
    exact h'
  | cons a as ih => exact ⟨h.1, ih h.2⟩

end Service

namespace Walk

def kinds (w : Walk) : List Kind :=
  w.trace.map (Exchange.kind w.started)

/-- What a walk gained by a fetch: exchanges that were tried again, and the one that settled it. -/
structure Fetched (request : Request) (retries : Nat) (w v : Walk) (tries : List Exchange)
    (last : Exchange) : Prop where
  store : v.store = w.store
  started : v.started = w.started
  found : v.tally.found = w.tally.found
  pages : v.tally.pages = w.tally.pages
  windows : v.tally.windows = w.tally.windows
  waits : v.tally.rateLimited =
    w.tally.rateLimited + (tries.map (Exchange.kind w.started)).count .wait
  trace : v.trace = w.trace ++ (tries ++ [last])
  requests : ∀ e ∈ tries ++ [last], e.request = request
  founds : ∀ e ∈ tries ++ [last], e.found = w.tally.found
  retried : ∀ e ∈ tries, e.kind w.started = .wait ∨ e.kind w.started = .failure
  budget : (tries.map (Exchange.kind w.started)).count .failure ≤ retries
  served : w.service.Serves ((tries ++ [last]).map Exchange.answer) v.service

inductive Settled (started : Moment) (retries : Nat) (tries : List Exchange) (last : Exchange) :
    Except Fault (Option (List Repository)) → Prop where
  | given {items : Option (List Repository)} (h : last.reading started = .final items) :
    Settled started retries tries last (.ok items)
  | failed {fault : Fault} (h : last.reading started = .failure fault)
    (hb : (tries.map (Exchange.kind started)).count .failure = retries) :
    Settled started retries tries last (.error fault)
  | stopped {fault : Fault} (h : last.reading started = .stop fault) :
    Settled started retries tries last (.error fault)

variable {request : Request} {retries : Nat} {w v : Walk} {tries : List Exchange} {last : Exchange}

def exchange (w : Walk) (request : Request) : Exchange :=
  ⟨w.slept, w.tally.found, request, (w.ask request).1⟩

theorem ask_fetched (request : Request) (retries : Nat) (w : Walk) :
    Fetched request retries w (w.ask request).2 [] (w.exchange request) where
  store := rfl
  started := rfl
  found := rfl
  pages := rfl
  windows := rfl
  waits := rfl
  trace := rfl
  requests := by simp [exchange]
  founds := by simp [exchange]
  retried := by simp
  budget := Nat.zero_le _
  served := ⟨rfl, rfl⟩

theorem Fetched.again {k : Kind} {left : Nat} {u : Walk} (h : Fetched request left u v tries last)
    (hk : (w.exchange request).kind w.started = k) (hagain : k = .wait ∨ k = .failure)
    (hleft : left + (if k == .failure then 1 else 0) = retries) (hstore : u.store = w.store)
    (hstarted : u.started = w.started)
    (htally : u.tally = { w.tally with
      rateLimited := w.tally.rateLimited + (if k == .wait then 1 else 0) })
    (htrace : u.trace = w.trace ++ [w.exchange request])
    (hservice : u.service = w.service.next.2) :
    Fetched request retries w v (w.exchange request :: tries) last where
  store := h.store.trans hstore
  started := h.started.trans hstarted
  found := by rw [h.found, htally]
  pages := by rw [h.pages, htally]
  windows := by rw [h.windows, htally]
  waits := by
    rw [h.waits, htally, hstarted, List.map_cons, hk, List.count_cons, Nat.add_assoc,
      Nat.add_comm (List.count _ _)]
  trace := by rw [h.trace, htrace, List.append_assoc, List.singleton_append, List.cons_append]
  requests := List.forall_mem_cons.2 ⟨rfl, h.requests⟩
  founds := by
    have hfound : u.tally.found = w.tally.found := by rw [htally]
    exact List.forall_mem_cons.2 ⟨rfl, hfound ▸ h.founds⟩
  retried := List.forall_mem_cons.2 ⟨hk ▸ hagain, hstarted ▸ h.retried⟩
  budget := by
    rw [List.map_cons, hk, List.count_cons, ← hleft]
    exact Nat.add_le_add_right (hstarted ▸ h.budget) _
  served := ⟨rfl, hservice ▸ h.served⟩

theorem Settled.again {started : Moment} {k : Kind} {left : Nat} {e : Exchange}
    {result : Except Fault (Option (List Repository))} (h : Settled started left tries last result)
    (hk : e.kind started = k) (hleft : left + (if k == .failure then 1 else 0) = retries) :
    Settled started retries (e :: tries) last result := by
  cases h with
  | given h => exact .given h
  | failed h hb =>
    refine .failed h ?_
    rw [List.map_cons, hk, List.count_cons, hb]
    exact hleft
  | stopped h => exact .stopped h

theorem Settled.ok {started : Moment} {items : Option (List Repository)}
    (h : Settled started retries tries last (.ok items)) :
    last.reading started = .final items := by
  cases h with
  | given h => exact h

theorem Settled.error {started : Moment} {fault : Fault}
    (h : Settled started retries tries last (.error fault)) :
    last.kind started = .failure ∨ last.kind started = .tooLong := by
  rw [Exchange.kind_eq]
  cases h with
  | failed h hb =>
    rw [h]
    exact Or.inl rfl
  | stopped h =>
    rw [h]
    exact Or.inr rfl

theorem Fetched.kinds (h : Fetched request retries w v tries last) :
    v.kinds = w.kinds ++ (tries.map (Exchange.kind w.started) ++ [last.kind w.started]) := by
  simp only [Walk.kinds, h.trace, h.started, List.map_append, List.map_cons, List.map_nil]

theorem Fetched.count_tries (h : Fetched request retries w v tries last) {k : Kind}
    (hwait : k ≠ .wait) (hfailure : k ≠ .failure) :
    (tries.map (Exchange.kind w.started)).count k = 0 := by
  refine List.count_eq_zero_of_not_mem fun hk => ?_
  obtain ⟨e, he, rfl⟩ := List.mem_map.1 hk
  rcases h.retried e he with hw | hf
  · exact hwait hw
  · exact hfailure hf

def sleepAfter (cut : Duration → Duration) (pause : Duration) (started : Moment)
    (es : List Exchange) : Nat :=
  (es.map (fun e => (cut (e.demand started)).nanos)).sum +
    (es.map (Exchange.kind started)).count .failure * (cut pause).nanos

structure Paced (options : Options) (request : Request) (retries : Nat) (w v : Walk)
    (tries : List Exchange) (last : Exchange) : Prop
    extends Fetched request retries w v tries last where
  moments : ∀ before e after, tries ++ [last] = before ++ e :: after → e.slept.nanos =
    w.slept.nanos + sleepAfter (fun d => d.min longestPause) options.pause w.started before
  slept : v.slept.nanos =
    w.slept.nanos + sleepAfter (fun d => d.min longestPause) options.pause w.started tries

variable {options : Options}

@[simp] theorem sleepAfter_nil (cut : Duration → Duration) (pause : Duration) (started : Moment) :
    sleepAfter cut pause started [] = 0 := by
  simp [sleepAfter]

theorem sleepAfter_cons (cut : Duration → Duration) (pause : Duration) (started : Moment)
    (e : Exchange) (es : List Exchange) :
    sleepAfter cut pause started (e :: es) =
      sleepAfter cut pause started [e] + sleepAfter cut pause started es := by
  simp only [sleepAfter, List.map_cons, List.map_nil, List.sum_cons, List.sum_nil, List.count_cons,
    List.count_nil, Nat.add_mul]
  omega

theorem sleepAfter_wait {pause d : Duration} {started : Moment} {e : Exchange}
    (h : e.reading started = .wait d) :
    sleepAfter (fun d => d.min longestPause) pause started [e] = (d.min longestPause).nanos := by
  simp [sleepAfter, Exchange.demand_eq, Exchange.kind_eq, h, Reading.demand, Reading.kind]

theorem sleepAfter_failure {pause : Duration} {started : Moment} {e : Exchange} {fault : Fault}
    (h : e.reading started = .failure fault) :
    sleepAfter (fun d => d.min longestPause) pause started [e] =
      (pause.min longestPause).nanos := by
  have hzero : (Duration.zero.min longestPause).nanos = 0 := rfl
  simp [sleepAfter, Exchange.demand_eq, Exchange.kind_eq, h, Reading.demand, Reading.kind, hzero]

theorem ask_paced (options : Options) (request : Request) (retries : Nat) (w : Walk) :
    Paced options request retries w (w.ask request).2 [] (w.exchange request) where
  toFetched := ask_fetched request retries w
  moments := by
    intro before e after heq
    cases before with
    | nil =>
      obtain ⟨rfl, -⟩ := List.cons.inj heq
      simp [exchange]
    | cons x before => simp at heq
  slept := by
    rw [sleepAfter_nil]
    rfl

theorem Paced.again {left : Nat} {u : Walk} (h : Paced options request left u v tries last)
    (hf : Fetched request retries w v (w.exchange request :: tries) last)
    (hstarted : u.started = w.started)
    (hslept : u.slept.nanos = w.slept.nanos +
      sleepAfter (fun d => d.min longestPause) options.pause w.started [w.exchange request]) :
    Paced options request retries w v (w.exchange request :: tries) last where
  toFetched := hf
  moments := by
    intro before e after heq
    cases before with
    | nil =>
      obtain ⟨rfl, -⟩ := List.cons.inj heq
      rw [sleepAfter_nil]
      rfl
    | cons x before =>
      obtain ⟨rfl, htail⟩ := List.cons.inj heq
      rw [h.moments before e after htail, hslept, hstarted, Nat.add_assoc, ← sleepAfter_cons]
  slept := by
    rw [h.slept, hslept, hstarted, Nat.add_assoc, ← sleepAfter_cons]

theorem paced (options : Options) (request : Request) (retries : Nat) (w : Walk) :
    ∃ tries last,
      Paced options request retries w (fetch options request retries w).2 tries last ∧
        Settled w.started retries tries last (fetch options request retries w).1 := by
  have hreading : ∀ w : Walk, (w.exchange request).reading w.started =
      (w.ask request).1.reading request w.now := fun w => rfl
  fun_induction fetch options request retries w with
  | case1 retries w asked items hr =>
    exact ⟨[], _, ask_paced options request retries w, .given hr⟩
  | case2 retries w asked fault hr =>
    exact ⟨[], _, ask_paced options request retries w, .stopped hr⟩
  | case3 retries w asked d hr ih =>
    obtain ⟨tries, last, hp, hs⟩ := ih
    rw [← hreading] at hr
    have hk : (w.exchange request).kind w.started = .wait := by
      rw [Exchange.kind_eq, hr]
      rfl
    have hf := hp.toFetched.again hk (Or.inl rfl) rfl rfl rfl rfl rfl rfl
    exact ⟨_, last, hp.again hf rfl (sleepAfter_wait hr ▸ rfl), hs.again hk rfl⟩
  | case4 w asked fault hr => exact ⟨[], _, ask_paced options request 0 w, .failed hr rfl⟩
  | case5 w asked fault hr retries ih =>
    obtain ⟨tries, last, hp, hs⟩ := ih
    rw [← hreading] at hr
    have hk : (w.exchange request).kind w.started = .failure := by
      rw [Exchange.kind_eq, hr]
      rfl
    have hf := hp.toFetched.again hk (Or.inr rfl) rfl rfl rfl rfl rfl rfl
    exact ⟨_, last, hp.again hf rfl (sleepAfter_failure hr ▸ rfl), hs.again hk rfl⟩

theorem fetched (options : Options) (request : Request) (retries : Nat) (w : Walk) :
    ∃ tries last, Fetched request retries w (fetch options request retries w).2 tries last ∧
      Settled w.started retries tries last (fetch options request retries w).1 := by
  obtain ⟨tries, last, hp, hs⟩ := paced options request retries w
  exact ⟨tries, last, hp.toFetched, hs⟩

end Walk

end CodeSurvey.Discovery
