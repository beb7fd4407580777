import CodeSurvey.Proofs.Discovery.Accounts

/-! How much a walk asks for. -/

namespace CodeSurvey.Discovery

def Answer.Drains (a : Answer) : Prop :=
  ∀ now, a.kind now = .drained

theorem Response.drains {status : Nat} {items : Option (List Repository)} (hstatus : status < 500)
    (hitems : items.getD [] = []) : (Answer.response ⟨status, .silent, items⟩).Drains := by
  intro now
  have hserver : Response.isServerError ⟨status, .silent, items⟩ = false := by
    simpa [Response.isServerError] using hstatus
  simp [Answer.kind, Response.kind, hserver, hitems]

namespace Service

theorem Serves.drains {calm as : List Answer} {s : Service} (hc : ∀ a ∈ calm, a.Drains)
    (h : Service.Serves ⟨calm, .drained⟩ as s) : ∀ a ∈ as, a.Drains := by
  induction as generalizing calm with
  | nil => simp
  | cons a as ih =>
    obtain ⟨ha, has⟩ := h
    cases calm with
    | nil => exact List.forall_mem_cons.2 ⟨ha ▸ Response.drains (by decide) rfl, ih hc has⟩
    | cons b calm =>
      obtain ⟨hb, hcalm⟩ := List.forall_mem_cons.1 hc
      exact List.forall_mem_cons.2 ⟨ha ▸ hb, ih hcalm has⟩

theorem Serves.drop_drains {script calm as : List Answer} {s : Service}
    (hc : ∀ a ∈ calm, a.Drains) (h : Service.Serves ⟨script ++ calm, .drained⟩ as s) :
    ∀ a ∈ as.drop script.length, a.Drains := by
  induction script generalizing as with
  | nil => exact Serves.drains hc h
  | cons b script ih =>
    cases as with
    | nil => simp
    | cons a as => exact ih h.2

end Service

namespace Walk

variable {options : Options} {window next : Window} {w v : Walk} {service : Service}

def Answered (service : Service) (w : Walk) : Prop :=
  service.Serves (w.trace.map Exchange.answer) w.service

theorem Stepped.answered {result : Except Fault Window} (h : Stepped options window w (result, v))
    (ha : Answered service w) : Answered service v := by
  obtain ⟨u, tries, last, hf, htrace, -, hservice⟩ := h.fetched
  unfold Answered
  rw [htrace, hservice, hf.trace, List.map_append]
  exact ha.append hf.served

theorem run_answered (h : Answered service w) : Answered service (run options window w).2 :=
  run_induction (fun _ w => Answered service w) (fun d => Answered service d.2)
    (fun _ _ _ _ h _ hd => hd.answered h) (fun _ _ _ _ h _ hd => hd.answered h)
    (fun _ _ h _ => h) h

theorem Stepped.windows_width (hw : window.exhausted = false)
    (h : Stepped options window w (.ok next, v)) :
    v.tally.windows + next.width ≤ w.tally.windows + window.width := by
  cases h with
  | turned hf hr hne =>
    simp [hf.windows, Window.width, Window.nextPage]
  | @closed u _ _ _ hf hr hnil =>
    rw [close_windows, hf.windows, Nat.add_assoc, Nat.add_comm 1]
    exact Nat.add_le_add_left (width_windowBelow_lt u.store hw) _

theorem Stepped.windows_of_error {fault : Fault} (h : Stepped options window w (.error fault, v)) :
    v.tally.windows = w.tally.windows := by
  cases h with
  | faulted hf hk => exact hf.windows

theorem run_windows (options : Options) (window : Window) (w : Walk) :
    (run options window w).2.tally.windows ≤ w.tally.windows + window.width := by
  refine run_induction
    (fun x v => v.tally.windows + x.width ≤ w.tally.windows + window.width)
    (fun d => d.2.tally.windows ≤ w.tally.windows + window.width) ?_ ?_ ?_ (Nat.le_refl _)
  · intro x u fault v h _ hd
    calc v.tally.windows = u.tally.windows := hd.windows_of_error
      _ ≤ u.tally.windows + x.width := Nat.le_add_right _ _
      _ ≤ w.tally.windows + window.width := h
  · intro x u next v h hgo hd
    exact Nat.le_trans (hd.windows_width hgo.2) h
  · intro x u h _
    exact Nat.le_trans (Nat.le_add_right _ _) h

/-- The loop comes to its end after so many turns. -/
inductive Turns (options : Options) : Nat → Window → Walk → Except Fault Window × Walk → Prop where
  | rest {window : Window} {w : Walk} (h : ¬ Open options window w) :
    Turns options 0 window w (.ok window, w)
  | fault {window : Window} {w v : Walk} {fault : Fault} (h : Open options window w)
    (hs : advance options window w = (.error fault, v)) :
    Turns options 1 window w (.error fault, v)
  | turn {n : Nat} {window next : Window} {w v : Walk} {d : Except Fault Window × Walk}
    (h : Open options window w) (hs : advance options window w = (.ok next, v))
    (hn : Turns options n next v d) : Turns options (n + 1) window w d

theorem Stepped.asks {result : Except Fault Window} (h : Stepped options window w (result, v)) :
    w.trace.length < v.trace.length := by
  obtain ⟨u, tries, last, hf, htrace, -⟩ := h.fetched
  simp [htrace, hf.trace]

theorem run_turns (options : Options) (window : Window) (w : Walk) :
    ∃ n, Turns options n window w (run options window w) ∧
      w.trace.length + n ≤ (run options window w).2.trace.length := by
  fun_induction run options window w with
  | case1 window w hgo fault v hstep =>
    have hd := stepped options window w
    rw [hstep] at hd
    exact ⟨1, .fault hgo hstep, hd.asks⟩
  | case2 window w hgo next v hstep ih =>
    have hd := stepped options window w
    rw [hstep] at hd
    obtain ⟨n, hn, hlength⟩ := ih
    have hasks : w.trace.length < v.trace.length := hd.asks
    exact ⟨n + 1, .turn hgo hstep hn, by omega⟩
  | case3 window w hrest => exact ⟨0, .rest hrest, Nat.le_refl _⟩

theorem length_le_of_drains {n : Nat} (h : ∀ e ∈ w.trace.drop n, e.answer.Drains) :
    w.trace.length ≤ n + w.kinds.count .drained := by
  have hall : ∀ k ∈ w.kinds.drop n, Kind.drained = k := by
    intro k hk
    rw [kinds, ← List.map_drop] at hk
    obtain ⟨e, he, rfl⟩ := List.mem_map.1 hk
    exact (h e he _).symm
  have hcount : (w.kinds.drop n).count .drained = (w.kinds.drop n).length :=
    List.count_eq_length.2 hall
  have hdrop : (w.kinds.drop n).count .drained ≤ w.kinds.count .drained :=
    (List.drop_sublist n _).count_le _
  have hlength : w.kinds.length = w.trace.length := List.length_map _
  rw [hcount, List.length_drop, hlength] at hdrop
  omega

end Walk

theorem discover_effort (options : Options) (s : Store) (script calm : List Answer)
    (hc : ∀ a ∈ calm, a.Drains) (started : Moment) :
    let service : Service := ⟨script ++ calm, .drained⟩
    let walked := discover options s service started
    walked.2.trace.length ≤ script.length + (s.minStarsSeen - options.minStars).toNat ∧
      ∃ n ≤ walked.2.trace.length, Walk.Turns options n (startingWindow options s)
        (Walk.start s service started) walked := by
  intro service walked
  have hanswered : Walk.Answered service walked.2 :=
    Walk.run_answered (w := Walk.start s service started) rfl
  have hdrains : ∀ e ∈ walked.2.trace.drop script.length, e.answer.Drains := by
    intro e he
    have ha : e.answer ∈ (walked.2.trace.map Exchange.answer).drop script.length := by
      rw [← List.map_drop]
      exact List.mem_map_of_mem he
    exact hanswered.drop_drains hc _ ha
  have haccounted : Accounted s walked.2.kinds walked.2 :=
    Accounted.run (w := Walk.start s service started) ⟨List.prefix_rfl, rfl, rfl, rfl, rfl⟩
  have hwindows : walked.2.tally.windows ≤ 0 + (s.minStarsSeen - options.minStars).toNat :=
    Walk.run_windows options (startingWindow options s) (Walk.start s service started)
  refine ⟨?_, ?_⟩
  · calc walked.2.trace.length
        ≤ script.length + walked.2.kinds.count .drained := Walk.length_le_of_drains hdrains
      _ = script.length + walked.2.tally.windows := by rw [haccounted.windows]
      _ ≤ script.length + (s.minStarsSeen - options.minStars).toNat := by omega
  · obtain ⟨n, hn, hlength⟩ :=
      Walk.run_turns options (startingWindow options s) (Walk.start s service started)
    have hasked : 0 + n ≤ walked.2.trace.length := hlength
    exact ⟨n, by omega, hn⟩

def threeScripted : List Answer :=
  [.response ⟨403, ⟨none, some 0, none⟩, none⟩, .response ⟨503, .silent, none⟩,
    .response ⟨200, .silent, some [⟨2, "b/two", "u2", 900⟩]⟩]

theorem discover_effort_threeScripted :
    let walked := discover ⟨"c", 897, 10, 2, .zero, 1⟩ knownOne
      ⟨threeScripted ++ [.response ⟨404, .silent, some []⟩], .drained⟩ ⟨0⟩
    walked.2.trace.length ≤ 3 + (900 - 897 : Int).toNat ∧ walked.2.trace.length = 6 := by
  intro walked
  have hc : ∀ a ∈ [Answer.response ⟨404, .silent, some []⟩], a.Drains :=
    List.forall_mem_singleton.2 (Response.drains (by decide) rfl)
  have hseen : knownOne.minStarsSeen = 900 := by decide +kernel
  have hle : walked.2.trace.length ≤ 3 + (knownOne.minStarsSeen - 897).toNat :=
    (discover_effort ⟨"c", 897, 10, 2, .zero, 1⟩ knownOne threeScripted _ hc ⟨0⟩).1
  rw [hseen] at hle
  have hsix : walked.2.trace.length = 6 := by decide +kernel
  exact ⟨hle, hsix⟩

end CodeSurvey.Discovery
