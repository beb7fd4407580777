import CodeSurvey.Proofs.Discovery.Accounts

/-! The order of the requests of a walk. -/

namespace CodeSurvey.Discovery

def Window.Precedes (a b : Window) : Prop :=
  b.upper < a.upper ∨ b.upper = a.upper ∧ a.page < b.page

theorem Window.Precedes.trans {a b c : Window} (h : a.Precedes b) (h' : b.Precedes c) :
    a.Precedes c := by
  unfold Precedes at *
  omega

theorem Window.Precedes.ne {a b : Window} (h : a.Precedes b) : a ≠ b := by
  rintro rfl
  unfold Precedes at h
  omega

inductive Exchange.Leads (started : Moment) (e : Exchange) : Window → Prop where
  | turned (hk : e.kind started = .page) : Leads started e e.request.window.nextPage
  | lowered {upper : Int} (hk : e.kind started = .drained)
    (hupper : upper < e.request.window.upper) :
    Leads started e ⟨e.request.window.lower, upper, 1⟩

theorem Exchange.Leads.precedes {started : Moment} {e : Exchange} {next : Window}
    (h : e.Leads started next) : e.request.window.Precedes next := by
  cases h with
  | turned hk => exact Or.inr ⟨rfl, Nat.lt_succ_self _⟩
  | lowered hk hupper => exact Or.inl hupper

theorem Exchange.Leads.lower {started : Moment} {e : Exchange} {next : Window}
    (h : e.Leads started next) : next.lower = e.request.window.lower := by
  cases h with
  | turned hk => rfl
  | lowered hk hupper => rfl

def failures (started : Moment) (trace : List Exchange) (request : Request) : Nat :=
  ((trace.filter (fun e => e.request = request)).map (Exchange.kind started)).count .failure

/-- How one exchange may follow another; `before` is what was exchanged before them. -/
inductive Succeeds (retries : Nat) (started : Moment) (before : List Exchange) (e e' : Exchange) :
    Prop where
  | again (hsame : e'.request = e.request)
    (hk : e.kind started = .wait ∨ e.kind started = .failure)
    (hbudget : failures started (before ++ [e]) e.request ≤ retries)
  | onward (h : e.Leads started e'.request.window)

def Orderly (retries : Nat) (started : Moment) (trace : List Exchange) : Prop :=
  ∀ before e e' after, trace = before ++ e :: e' :: after → Succeeds retries started before e e'

variable {retries : Nat} {started : Moment} {trace tried tries : List Exchange} {last : Exchange}
  {request : Request} {options : Options} {window next : Window} {w v : Walk}

theorem failures_append (hnew : ∀ e ∈ trace, e.request ≠ request)
    (hsame : ∀ e ∈ tried, e.request = request) :
    failures started (trace ++ tried) request =
      (tried.map (Exchange.kind started)).count .failure := by
  have htrace : trace.filter (fun e => e.request = request) = [] :=
    List.filter_eq_nil_iff.2 (by simpa using hnew)
  have htried : tried.filter (fun e => e.request = request) = tried :=
    List.filter_eq_self.2 (by simpa using hsame)
  rw [failures, List.filter_append, htrace, htried, List.nil_append]

theorem Walk.Fetched.succeeds (hf : Fetched request retries w v tries last)
    (hnew : ∀ e ∈ w.trace, e.request ≠ request) {e e' : Exchange} {after : List Exchange}
    (hblock : tries ++ [last] = tried ++ e :: e' :: after) :
    Succeeds retries w.started (w.trace ++ tried) e e' := by
  have hbegins : tried ++ [e] <+: tries := by
    have hconcat : tried ++ [e] <+: tries ++ [last] := ⟨e' :: after, by simp [hblock]⟩
    refine (List.prefix_concat_iff.1 hconcat).resolve_left fun hall => ?_
    have hlength := congrArg List.length (hall.trans hblock)
    simp at hlength
  have htried : ∀ x ∈ tried ++ [e], x.request = request := fun x hx =>
    hf.requests x (List.mem_append_left _ (hbegins.subset hx))
  have he : e.request = request := htried e (by simp)
  have he' : e'.request = request := hf.requests e' (by simp [hblock])
  have hcount := (hbegins.sublist.map (Exchange.kind w.started)).count_le Kind.failure
  refine .again (he'.trans he.symm) (hf.retried e (hbegins.subset (by simp))) ?_
  -- what the trace held before is of other requests, so only the failures of this fetch count
  rw [he, List.append_assoc, failures_append hnew htried]
  exact Nat.le_trans hcount hf.budget

theorem Orderly.fetched (h : Orderly retries w.started w.trace)
    (hf : Walk.Fetched request retries w v tries last)
    (hnew : ∀ e ∈ w.trace, e.request ≠ request)
    (hleads : ∀ e, w.trace.getLast? = some e → e.Leads w.started request.window) :
    Orderly retries w.started v.trace := by
  intro before e e' after heq
  rw [hf.trace] at heq
  -- both exchanges are of this fetch, or the second is its first, or both are earlier
  rcases List.append_eq_append_iff.1 heq with ⟨tried, rfl, hblock⟩ | ⟨rest, hrest, hafter⟩
  · exact hf.succeeds hnew hblock
  · match rest with
    | [] =>
      rw [List.append_nil] at hrest
      have hs : Succeeds retries w.started (w.trace ++ []) e e' := hf.succeeds hnew hafter.symm
      rwa [List.append_nil, hrest] at hs
    | [x] =>
      simp only [List.cons_append, List.nil_append, List.cons.injEq] at hafter
      obtain ⟨rfl, hblock⟩ := hafter
      have hmem : e' ∈ tries ++ [last] := hblock ▸ List.mem_cons_self
      refine .onward ?_
      rw [hf.requests e' hmem]
      exact hleads e (by simp [hrest])
    | x :: y :: rest =>
      simp only [List.cons_append, List.cons.injEq] at hafter
      obtain ⟨rfl, rfl, -⟩ := hafter
      exact h before e e' rest hrest

structure Ordered (options : Options) (first : Window) (started : Moment) (trace : List Exchange) :
    Prop where
  language : ∀ e ∈ trace, e.request.language = options.language
  bounds : ∀ e ∈ trace, e.request.window.lower = options.minStars ∧
    options.minStars < e.request.window.upper
  head : ∀ e after, trace = e :: after → e.request.window = first
  orderly : Orderly options.maxRetries started trace

structure Bound (options : Options) (first window : Window) (started : Moment)
    (trace : List Exchange) : Prop extends Ordered options first started trace where
  lower : window.lower = options.minStars
  unsent : trace = [] → window = first
  earlier : ∀ e ∈ trace, e.request.window.Precedes window
  leads : ∀ e, trace.getLast? = some e → e.Leads started window

namespace Walk

variable {first : Window} {found : Nat}

theorem Fetched.ordered (hf : Fetched (requestFor options window found) options.maxRetries w v tries
    last) (hw : window.exhausted = false) (h : Bound options first window w.started w.trace) :
    Ordered options first w.started v.trace where
  language := by
    intro e he
    rcases hf.mem_trace.1 he with he | he
    · exact h.language e he
    · rw [hf.requests e he]
      rfl
  bounds := by
    intro e he
    rcases hf.mem_trace.1 he with he | he
    · exact h.bounds e he
    · rw [hf.requests e he]
      exact ⟨h.lower, h.lower ▸ Window.not_exhausted_iff.1 hw⟩
  head := by
    intro e after heq
    cases ht : w.trace with
    | nil =>
      have he : e ∈ tries ++ [last] := by
        have hmem : e ∈ v.trace := heq ▸ List.mem_cons_self
        simpa [ht] using hf.mem_trace.1 hmem
      rw [hf.requests e he]
      exact h.unsent ht
    | cons x rest =>
      rw [hf.trace, ht, List.cons_append, List.cons.injEq] at heq
      exact heq.1 ▸ h.head x rest ht
  orderly := h.orderly.fetched hf
    (fun e he hsame => (h.earlier e he).ne (congrArg Request.window hsame)) h.leads

theorem windowBelow_leads {e : Exchange} (store : Store) (hk : e.kind started = .drained) :
    e.Leads started (windowBelow store e.request.window) := by
  unfold windowBelow
  split
  · exact .lowered hk (Window.shrink_upper_lt _ _)
  · exact .lowered hk (Window.shrink_upper_lt _ _)

theorem Stepped.onward (h : Stepped options window w (.ok next, v)) :
    ∃ u tries last,
      Fetched (requestFor options window w.tally.found) options.maxRetries w u tries last ∧
        v.trace = u.trace ∧ v.started = u.started ∧ last.Leads w.started next := by
  cases h with
  | @turned u tries last items hf hr hne =>
    have hk : last.kind w.started = .page := by rw [Exchange.kind_of_final hr, if_neg hne]
    have hleads : last.Leads w.started last.request.window.nextPage := .turned hk
    rw [hf.request_last] at hleads
    exact ⟨u, tries, last, hf, insert_trace _ _, insert_started _ _, hleads⟩
  | @closed u tries last items hf hr hnil =>
    have hk : last.kind w.started = .drained := by rw [Exchange.kind_of_final hr, if_pos hnil]
    have hleads := windowBelow_leads u.store hk
    rw [hf.request_last] at hleads
    exact ⟨u, tries, last, hf, close_trace _ _ _, close_started _ _ _, hleads⟩

theorem Stepped.bound (hd : Stepped options window w (.ok next, v))
    (hw : window.exhausted = false) (h : Bound options first window w.started w.trace) :
    Bound options first next v.started v.trace := by
  obtain ⟨u, tries, last, hf, htrace, hstarted, hleads⟩ := hd.onward
  rw [htrace, hstarted, hf.started]
  have hlast : last.request.window = window := congrArg Request.window hf.request_last
  have hprecedes : window.Precedes next := hlast ▸ hleads.precedes
  refine ⟨hf.ordered hw h, ?_, ?_, ?_, ?_⟩
  · rw [hleads.lower, hlast]
    exact h.lower
  · intro hnil
    simp [hf.trace] at hnil
  · intro e he
    rcases hf.mem_trace.1 he with he | he
    · exact (h.earlier e he).trans hprecedes
    · rw [hf.requests e he]
      exact hprecedes
  · intro e he
    rw [hf.getLast?, Option.some.injEq] at he
    exact he ▸ hleads

theorem Stepped.ordered {result : Except Fault Window}
    (hd : Stepped options window w (result, v)) (hw : window.exhausted = false)
    (h : Bound options first window w.started w.trace) :
    Ordered options first v.started v.trace := by
  obtain ⟨u, tries, last, hf, htrace, hstarted, -⟩ := hd.fetched
  rw [htrace, hstarted, hf.started]
  exact hf.ordered hw h

theorem Stepped.gave_up {fault : Fault} (hd : Stepped options window w (.error fault, v)) :
    ∃ e, v.trace.getLast? = some e ∧
      (e.kind v.started = .failure ∨ e.kind v.started = .tooLong) := by
  cases hd with
  | @faulted _ tries last _ hf hk =>
    rw [hf.started]
    exact ⟨last, hf.getLast?, hk⟩

structure Ended (options : Options) (first : Window) (d : Except Fault Window × Walk) : Prop
    extends Ordered options first d.2.started d.2.trace where
  rested : ∀ last, d.1 = .ok last → ¬ Open options last d.2 ∧
    Bound options first last d.2.started d.2.trace
  faulted : ∀ fault, d.1 = .error fault → ∃ e, d.2.trace.getLast? = some e ∧
    (e.kind d.2.started = .failure ∨ e.kind d.2.started = .tooLong)

theorem run_ended (h : Bound options first window w.started w.trace) :
    Ended options first (run options window w) := by
  refine run_induction (fun window w => Bound options first window w.started w.trace)
    (Ended options first) ?_ ?_ ?_ h
  · intro window w fault v h hgo hd
    exact ⟨hd.ordered hgo.2 h, (fun _ hok => nomatch hok), fun _ _ => hd.gave_up⟩
  · intro window w next v h hgo hd
    exact hd.bound hgo.2 h
  · intro window w h hrest
    refine ⟨h.toOrdered, fun last hok => ?_, fun fault herror => nomatch herror⟩
    cases hok
    exact ⟨hrest, h⟩

end Walk

theorem discover_succession (options : Options) (hmin : Text.Numeral.minInt64 ≤ options.minStars)
    (s : Store) (service : Service) (started : Moment) :
    let walked := discover options s service started
    let trace := walked.2.trace
    (∀ e ∈ trace, e.request.language = options.language ∧
      e.request.window.lower = options.minStars ∧ options.minStars < e.request.window.upper ∧
      Text.Numeral.minInt64 ≤ e.request.window.upper - 1) ∧
    (∀ e after, trace = e :: after → e.request.window = .start options.minStars s.minStarsSeen) ∧
    (∀ before e e' after, trace = before ++ e :: e' :: after →
      Succeeds options.maxRetries started before e e') ∧
    (∀ last, walked.1 = .ok last → ¬ Walk.Open options last walked.2 ∧
      (trace = [] → last = .start options.minStars s.minStarsSeen) ∧
      ∀ e, trace.getLast? = some e → e.Leads started last) ∧
    ∀ fault, walked.1 = .error fault → ∃ e, trace.getLast? = some e ∧
      (e.kind started = .failure ∨ e.kind started = .tooLong) := by
  intro walked trace
  have hstart : Bound options (startingWindow options s) (startingWindow options s) started [] :=
    ⟨⟨by simp, by simp, by simp, by simp [Orderly]⟩, rfl, fun _ => rfl, by simp, by simp⟩
  have h : Walk.Ended options (startingWindow options s) walked :=
    Walk.run_ended (w := Walk.start s service started) hstart
  have hstarted : walked.2.started = started := Walk.run_started _ _ _
  have horderly := h.orderly
  have hrested := h.rested
  have hfaulted := h.faulted
  rw [hstarted] at horderly hrested hfaulted
  refine ⟨fun e he => ?_, h.head, horderly, fun last hok => ?_, hfaulted⟩
  · obtain ⟨hlower, hupper⟩ := h.bounds e he
    exact ⟨h.language e he, hlower, hupper, by omega⟩
  · obtain ⟨hrest, hbound⟩ := hrested last hok
    exact ⟨hrest, hbound.unsent, hbound.leads⟩

theorem discover_succession_fiveAnswered :
    let trace := (discover ⟨"c", 3, 10, 2, .zero, 1⟩ knownOne fiveAnswered ⟨0⟩).2.trace
    Text.Numeral.minInt64 ≤ 3 ∧ trace.map (fun e => e.request.window) =
      [⟨3, 900, 1⟩, ⟨3, 900, 1⟩, ⟨3, 900, 1⟩, ⟨3, 900, 2⟩, ⟨3, 900, 3⟩, ⟨3, 900, 3⟩, ⟨3, 5, 1⟩,
        ⟨3, 4, 1⟩] ∧
      ∀ before e e' after, trace = before ++ e :: e' :: after → Succeeds 1 ⟨0⟩ before e e' := by
  intro trace
  have hmin : Text.Numeral.minInt64 ≤ 3 := by decide
  have h := discover_succession ⟨"c", 3, 10, 2, .zero, 1⟩ hmin knownOne fiveAnswered ⟨0⟩
  have hwindows : trace.map (fun e => e.request.window) =
      [⟨3, 900, 1⟩, ⟨3, 900, 1⟩, ⟨3, 900, 1⟩, ⟨3, 900, 2⟩, ⟨3, 900, 3⟩, ⟨3, 900, 3⟩, ⟨3, 5, 1⟩,
        ⟨3, 4, 1⟩] := by decide +kernel
  exact ⟨hmin, hwindows, h.2.2.1⟩

end CodeSurvey.Discovery
