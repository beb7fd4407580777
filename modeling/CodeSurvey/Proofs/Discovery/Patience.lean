import CodeSurvey.Proofs.Discovery.Accounts

/-! How long a walk keeps asking for one page. -/

namespace CodeSurvey.Discovery

open Walk (Fetched Paced Settled Stepped fetch advance requestFor sleepAfter)

inductive Settles (started : Moment) (request : Request) (retries : Nat) (tries : List Exchange)
    (last : Exchange) : Except Fault (Option (List Repository)) → Prop where
  | items {r : Response} (ha : last.answer = .response r)
    (hl : r.limit.backoff (started.after last.slept) = .proceed) (hs : r.status < 500) :
    Settles started request retries tries last (.ok r.items)
  | unreachable {fault : Fault} (ha : last.answer = .failed fault)
    (hb : (tries.map (Exchange.kind started)).count .failure = retries) :
    Settles started request retries tries last (.error fault)
  | broken {r : Response} (ha : last.answer = .response r)
    (hl : r.limit.backoff (started.after last.slept) = .proceed) (hs : 500 ≤ r.status)
    (hb : (tries.map (Exchange.kind started)).count .failure = retries) :
    Settles started request retries tries last
      (.error (.search ("status " ++ toString r.status ++ " for " ++ request.query)))
  | endless {r : Response} (ha : last.answer = .response r)
    (hl : r.limit.backoff (started.after last.slept) = .tooLong) :
    Settles started request retries tries last (.error .waitTooLong)

variable {options : Options} {request : Request} {retries : Nat} {window : Window} {w v : Walk}
  {tries : List Exchange} {last : Exchange}

theorem Walk.Settled.settles {started : Moment} {result : Except Fault (Option (List Repository))}
    (h : Settled started retries tries last result) (hrequest : last.request = request) :
    Settles started request retries tries last result := by
  subst hrequest
  cases h with
  | given h =>
    obtain ⟨r, ha, hl, hs, rfl⟩ := Answer.reading_eq_final h
    exact .items ha hl hs
  | failed h hb =>
    rcases Answer.reading_eq_failure h with ha | ⟨r, ha, hl, hs, rfl⟩
    · exact .unreachable ha hb
    · exact .broken ha hl hs hb
  | stopped h =>
    obtain ⟨r, ha, hl, rfl⟩ := Answer.reading_eq_stop h
    exact .endless ha hl

theorem advance_of_fetch_error {fault : Fault}
    (h : (fetch options (requestFor options window w.tally.found) options.maxRetries w).1 =
      .error fault) :
    advance options window w = (.error fault,
      (fetch options (requestFor options window w.tally.found) options.maxRetries w).2) := by
  unfold advance
  split <;> rename_i hf <;> rw [hf] at h ⊢ <;> cases h
  rfl

theorem fetch_patience (options : Options) (w : Walk) :
    (∀ request retries, ∃ tries last,
      Paced options request retries w (fetch options request retries w).2 tries last ∧
        Settles w.started request retries tries last (fetch options request retries w).1) ∧
    ∀ window fault,
      (fetch options (requestFor options window w.tally.found) options.maxRetries w).1 =
        .error fault →
      let stepped := advance options window w
      stepped.1 = .error fault ∧ stepped.2.store = w.store ∧
        stepped.2.tally.found = w.tally.found ∧ stepped.2.tally.pages = w.tally.pages ∧
        stepped.2.tally.windows = w.tally.windows := by
  constructor
  · intro request retries
    obtain ⟨tries, last, hp, hs⟩ := Walk.paced options request retries w
    exact ⟨tries, last, hp, hs.settles hp.request_last⟩
  · intro window fault h
    obtain ⟨tries, last, hf, -⟩ :=
      Walk.fetched options (requestFor options window w.tally.found) options.maxRetries w
    simp only [advance_of_fetch_error h]
    exact ⟨trivial, hf.store, hf.found, hf.pages, hf.windows⟩

def thriceDenied : Walk :=
  -- the first server error names a wait, and so costs no retry
  .start knownOne ⟨[.response ⟨503, ⟨some 7, none, none⟩, none⟩, .failed (.search "timeout"),
    .response ⟨502, .silent, none⟩], .drained⟩ ⟨0⟩

theorem fetch_patience_thriceDenied :
    let options : Options := ⟨"c", 3, 10, 2, .ofSeconds 5, 1⟩
    let fault : Fault :=
      .search "status 502 for q=language:c+stars:3..900&sort=stars&order=desc&per_page=2&page=1"
    let stepped := advance options ⟨3, 900, 1⟩ thriceDenied
    (fetch options (requestFor options ⟨3, 900, 1⟩ 0) 1 thriceDenied).1 = .error fault ∧
      stepped.1 = .error fault ∧ stepped.2.store = thriceDenied.store ∧
      stepped.2.slept = .ofSeconds 12 ∧ stepped.2.tally = ⟨0, 0, 0, 1⟩ := by
  intro options fault stepped
  have hgiven : (fetch options (requestFor options ⟨3, 900, 1⟩ 0) 1 thriceDenied).1 =
    .error fault := by decide +kernel
  have h := (fetch_patience options thriceDenied).2 ⟨3, 900, 1⟩ fault hgiven
  exact ⟨hgiven, h.1, h.2.1, by decide +kernel, by decide +kernel⟩

def patienceTried : Walk :=
  -- the wait is one second longer than the longest pause
  .start knownOne ⟨[.response ⟨429, ⟨some 946080001, none, none⟩, none⟩], .drained⟩ ⟨0⟩

theorem fetch_patience_not_uncut :
    ¬ ∀ options request retries (w : Walk), ∃ tries last,
      (fetch options request retries w).2.trace = w.trace ++ (tries ++ [last]) ∧
        (fetch options request retries w).2.slept.nanos =
          w.slept.nanos + sleepAfter id options.pause w.started tries := by
  intro h
  let request : Request := ⟨"c", ⟨500, 1000, 1⟩, 100⟩
  let fetched := fetch ⟨"c", 500, 10, 100, .zero, 0⟩ request 0 patienceTried
  obtain ⟨tries, last, htrace, hslept⟩ : ∃ tries last,
    fetched.2.trace = patienceTried.trace ++ (tries ++ [last]) ∧ fetched.2.slept.nanos =
      patienceTried.slept.nanos + sleepAfter id .zero ⟨0⟩ tries := h _ request 0 patienceTried
  have hdrop : fetched.2.trace.dropLast = tries := by
    rw [htrace]
    simp [patienceTried, Walk.start]
  have htries : tries = [⟨.zero, 0, request,
      .response ⟨429, ⟨some 946080001, none, none⟩, none⟩⟩] := by
    rw [← hdrop]
    decide +kernel
  have hcut : fetched.2.slept = .ofSeconds 946080000 := by decide +kernel
  rw [htries, hcut] at hslept
  revert hslept
  decide +kernel

end CodeSurvey.Discovery
