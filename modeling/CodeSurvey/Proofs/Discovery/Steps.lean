import CodeSurvey.Proofs.Discovery.Fetching

/-! What one step of the walk does. -/

namespace CodeSurvey.Discovery.Walk

variable {options : Options} {request : Request} {retries : Nat} {window : Window} {w v : Walk}
  {tries : List Exchange} {last : Exchange}

theorem Fetched.mem_trace (h : Fetched request retries w v tries last) {e : Exchange} :
    e ∈ v.trace ↔ e ∈ w.trace ∨ e ∈ tries ++ [last] := by
  rw [h.trace, List.mem_append]

theorem Fetched.getLast? (h : Fetched request retries w v tries last) :
    v.trace.getLast? = some last := by
  rw [h.trace, ← List.append_assoc, List.getLast?_concat]

theorem Fetched.request_last (h : Fetched request retries w v tries last) :
    last.request = request :=
  h.requests last (List.mem_append_right _ (List.mem_singleton.2 rfl))

theorem Fetched.found_last (h : Fetched request retries w v tries last) :
    last.found = w.tally.found :=
  h.founds last (List.mem_append_right _ (List.mem_singleton.2 rfl))

theorem Fetched.trace_prefix (h : Fetched request retries w v tries last) :
    w.trace <+: v.trace := by
  rw [h.trace]
  exact List.prefix_append _ _

inductive Stepped (options : Options) (window : Window) (w : Walk) :
    Except Fault Window × Walk → Prop where
  | faulted {v : Walk} {tries : List Exchange} {last : Exchange} {fault : Fault}
    (hf : Fetched (requestFor options window w.tally.found) options.maxRetries w v tries last)
    (hk : last.kind w.started = .failure ∨ last.kind w.started = .tooLong) :
    Stepped options window w (.error fault, v)
  | turned {v : Walk} {tries : List Exchange} {last : Exchange} {items : Option (List Repository)}
    (hf : Fetched (requestFor options window w.tally.found) options.maxRetries w v tries last)
    (hr : last.reading w.started = .final items) (hne : items.getD [] ≠ []) :
    Stepped options window w (.ok window.nextPage, v.insert (items.getD []))
  | closed {v : Walk} {tries : List Exchange} {last : Exchange} {items : Option (List Repository)}
    (hf : Fetched (requestFor options window w.tally.found) options.maxRetries w v tries last)
    (hr : last.reading w.started = .final items) (hnil : items.getD [] = []) :
    Stepped options window w (.ok (close options window v).1, (close options window v).2)

theorem stepped (options : Options) (window : Window) (w : Walk) :
    Stepped options window w (advance options window w) := by
  obtain ⟨tries, last, hf, hs⟩ :=
    fetched options (requestFor options window w.tally.found) options.maxRetries w
  unfold advance
  split <;> rename_i h <;> rw [h] at hf hs
  · exact .faulted hf hs.error
  · exact .turned hf hs.ok (List.cons_ne_nil _ _)
  · exact .closed hf hs.ok rfl
  · exact .closed hf hs.ok rfl

def Open (options : Options) (window : Window) (w : Walk) : Prop :=
  w.tally.found < options.maxRepositories ∧ window.exhausted = false

theorem run_of_advance {next : Window} (hopen : Open options window w)
    (h : advance options window w = (.ok next, v)) :
    run options window w = run options next v := by
  rw [run, dif_pos (show _ ∧ _ from hopen)]
  split <;> rename_i hstep <;> rw [h] at hstep <;> cases hstep
  rfl

theorem run_of_not_open (h : ¬ Open options window w) : run options window w = (.ok window, w) := by
  rw [run, dif_neg (show ¬ (_ ∧ _) from h)]

theorem run_induction (before : Window → Walk → Prop) (after : Except Fault Window × Walk → Prop)
    (fault : ∀ window w fault v, before window w → Open options window w →
      Stepped options window w (.error fault, v) → after (.error fault, v))
    (turn : ∀ window w next v, before window w → Open options window w →
      Stepped options window w (.ok next, v) → before next v)
    (rest : ∀ window w, before window w → ¬ Open options window w → after (.ok window, w))
    (h : before window w) : after (run options window w) := by
  fun_induction run options window w with
  | case1 window w hgo e v hstep =>
    have hd := stepped options window w
    rw [hstep] at hd
    exact fault window w e v h hgo hd
  | case2 window w hgo next v hstep ih =>
    have hd := stepped options window w
    rw [hstep] at hd
    exact ih (turn window w next v h hgo hd)
  | case3 window w hrest => exact rest window w h hrest

theorem Stepped.fetched {result : Except Fault Window} (h : Stepped options window w (result, v)) :
    ∃ u tries last,
      Fetched (requestFor options window w.tally.found) options.maxRetries w u tries last ∧
        v.trace = u.trace ∧ v.started = u.started ∧ v.service = u.service := by
  cases h with
  | faulted hf hk => exact ⟨_, _, _, hf, rfl, rfl, rfl⟩
  | turned hf hr hne =>
    exact ⟨_, _, _, hf, insert_trace _ _, insert_started _ _, insert_service _ _⟩
  | closed hf hr hnil =>
    exact ⟨_, _, _, hf, close_trace _ _ _, close_started _ _ _, close_service _ _ _⟩

theorem Stepped.started {result : Except Fault Window}
    (h : Stepped options window w (result, v)) : v.started = w.started := by
  obtain ⟨u, tries, last, hf, -, hstarted, -⟩ := h.fetched
  exact hstarted.trans hf.started

theorem Stepped.trace {result : Except Fault Window} (h : Stepped options window w (result, v)) :
    w.trace <+: v.trace := by
  obtain ⟨u, tries, last, hf, htrace, -⟩ := h.fetched
  rw [htrace]
  exact hf.trace_prefix

theorem Stepped.getLast? {result : Except Fault Window}
    (h : Stepped options window w (result, v)) :
    ∃ e, v.trace.getLast? = some e ∧ e.request.window = window := by
  obtain ⟨u, tries, last, hf, htrace, -⟩ := h.fetched
  exact ⟨last, htrace ▸ hf.getLast?, congrArg Request.window hf.request_last⟩

theorem run_rested {last : Window} (h : (run options window w).1 = .ok last) :
    ¬ Open options last (run options window w).2 :=
  run_induction (fun _ _ => True) (fun d => d.1 = .ok last → ¬ Open options last d.2)
    (fun _ _ _ _ _ _ _ herror => nomatch herror) (fun _ _ _ _ _ _ _ => trivial)
    (fun _ _ _ hrest hok => Except.ok.inj hok ▸ hrest) trivial h

theorem exhausted_of_run {last : Window} (h : (run options window w).1 = .ok last)
    (hlt : (run options window w).2.tally.found < options.maxRepositories) :
    last.exhausted = true := by
  by_contra hw
  exact run_rested h ⟨hlt, by simpa using hw⟩

theorem run_started (options : Options) (window : Window) (w : Walk) :
    (run options window w).2.started = w.started :=
  run_induction (fun _ v => v.started = w.started) (fun d => d.2.started = w.started)
    (fun _ _ _ _ h _ hd => hd.started.trans h) (fun _ _ _ _ h _ hd => hd.started.trans h)
    (fun _ _ h _ => h) rfl

-- What is known of the whole trace is known of it at every step.
theorem run_induction_of_trace (known : Moment → Exchange → Prop)
    (before : Window → Walk → Prop) (after : Except Fault Window × Walk → Prop)
    (fault : ∀ window w fault v, before window w → Open options window w →
      Stepped options window w (.error fault, v) → (∀ e ∈ v.trace, known v.started e) →
        after (.error fault, v))
    (turn : ∀ window w next v, before window w → Open options window w →
      Stepped options window w (.ok next, v) → (∀ e ∈ v.trace, known v.started e) →
        before next v)
    (rest : ∀ window w, before window w → ¬ Open options window w → after (.ok window, w))
    (h : before window w) (hknown : ∀ e ∈ (run options window w).2.trace, known w.started e) :
    after (run options window w) := by
  have hearlier : ∀ {window w result v}, Stepped options window w (result, v) →
      (∀ e ∈ v.trace, known v.started e) → ∀ e ∈ w.trace, known w.started e :=
    fun hd hv e he => hd.started ▸ hv e (hd.trace.subset he)
  rw [← run_started options window w] at hknown
  refine run_induction (fun window w => (∀ e ∈ w.trace, known w.started e) → before window w)
    (fun d => (∀ e ∈ d.2.trace, known d.2.started e) → after d) ?_ ?_ ?_ (fun _ => h) hknown
  · intro window w e v h hopen hd hv
    exact fault window w e v (h (hearlier hd hv)) hopen hd hv
  · intro window w next v h hopen hd hv
    exact turn window w next v (h (hearlier hd hv)) hopen hd hv
  · intro window w h hrest hw
    exact rest window w (h hw) hrest

end CodeSurvey.Discovery.Walk
