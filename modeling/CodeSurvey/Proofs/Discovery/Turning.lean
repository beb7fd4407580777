import CodeSurvey.Proofs.Discovery.Accounts
import CodeSurvey.Proofs.Store.Intake

/-! What a walk keeps of a page before it turns to the next one. -/

namespace CodeSurvey.Discovery

namespace Walk

variable {options : Options} {window : Window} {w v : Walk} {page : List Repository}

theorem insert_of_accepted (h : ∀ r ∈ page, w.store.refusals.repository r = false) :
    ∀ r ∈ page, (w.insert page).store.knows r.id = true := by
  obtain ⟨n, t, ht, hknown⟩ := Store.insertRepositories_of_accepted h
  rw [insert, ht]
  exact hknown

theorem insert_of_refused {r : Repository} (hr : r ∈ page)
    (h : w.store.refusals.repository r = true) :
    (w.insert page).store = w.store ∧ (w.insert page).tally.found = w.tally.found := by
  obtain ⟨e, he⟩ := Store.insertRepositories_of_refused hr h
  rw [insert, he]
  exact ⟨rfl, rfl⟩

end Walk

open Walk (Stepped)

variable {options : Options} {window : Window} {w v : Walk}

theorem advance_turned (h : Walk.advance options window w = (.ok window.nextPage, v)) :
    ∃ e page, v.trace.getLast? = some e ∧ e.request.window = window ∧
      e.reading w.started = .final (some page) ∧ page ≠ [] ∧
      ((∀ r ∈ page, w.store.refusals.repository r = false) →
        ∀ r ∈ page, v.store.knows r.id = true) ∧
      ((∃ r ∈ page, w.store.refusals.repository r = true) →
        v.store = w.store ∧ v.tally.found = w.tally.found) := by
  have hd := Walk.stepped options window w
  rw [h] at hd
  generalize hnext : window.nextPage = next at hd
  cases hd with
  | @turned u tries last items hf hr hne =>
    obtain ⟨page, rfl⟩ : ∃ page, items = some page :=
      Option.ne_none_iff_exists'.1 fun hnone => hne (by rw [hnone]; rfl)
    refine ⟨last, page, Walk.insert_trace u page ▸ hf.getLast?,
      congrArg Request.window hf.request_last, hr, hne, fun haccepted => ?_, ?_⟩
    · exact Walk.insert_of_accepted (hf.store ▸ haccepted)
    · rintro ⟨r, hpage, hrefused⟩
      rw [← hf.store, ← hf.found]
      exact Walk.insert_of_refused hpage (hf.store ▸ hrefused)
  | @closed u tries last items hf hr hnil =>
    -- closing a window lowers its upper bound, and turning the page does not
    have hlt := Walk.windowBelow_upper_lt u.store window
    have heq : window.nextPage.upper = (Walk.windowBelow u.store window).upper := by
      rw [hnext]
      rfl
    exact absurd heq.symm (Int.ne_of_lt hlt)

def beforePage (page : List Repository) : Walk :=
  .start knownOne ⟨[.response ⟨200, .silent, some page⟩], .drained⟩ ⟨0⟩

def acceptedPage : List Repository :=
  [⟨1, "a/one", "u1", 700⟩, ⟨2, "b/two", "u2", 600⟩]

def refusedPage : List Repository :=
  [⟨2, "b/two", "u2", 700⟩, ⟨3, "b/refused", "u3", 600⟩]

theorem advance_turned_acceptedPage :
    let walked := Walk.advance ⟨"c", 500, 10, 2, .zero, 0⟩ ⟨500, 1000, 1⟩ (beforePage acceptedPage)
    walked.1 = .ok ⟨500, 1000, 2⟩ ∧ (beforePage acceptedPage).store.knows 2 = false ∧
      walked.2.store.knows 1 = true ∧ walked.2.store.knows 2 = true := by
  intro walked
  have hok : walked.1 = .ok (Window.nextPage ⟨500, 1000, 1⟩) := by decide +kernel
  obtain ⟨e, page, he, -, hr, -, hstored, -⟩ := advance_turned (Prod.ext hok rfl : walked = (_, _))
  have hlast : walked.2.trace.getLast?.map (Exchange.reading ⟨0⟩) =
    some (.final (some acceptedPage)) := by decide +kernel
  rw [he, Option.map_some, Option.some_inj] at hlast
  obtain rfl : page = acceptedPage := by simpa using hr.symm.trans hlast
  have hall := hstored (by decide)
  exact ⟨hok, by decide, hall _ (List.mem_cons_self), hall ⟨2, "b/two", "u2", 600⟩ (by decide)⟩

theorem advance_turned_loses :
    ¬ ∀ (options : Options) (window : Window) (w v : Walk) (e : Exchange)
      (page : List Repository), Walk.advance options window w = (.ok window.nextPage, v) →
        v.trace.getLast? = some e → e.reading w.started = .final (some page) →
          ∀ r ∈ page, v.store.knows r.id = true := by
  intro h
  let walked := Walk.advance ⟨"c", 500, 10, 2, .zero, 0⟩ ⟨500, 1000, 1⟩ (beforePage refusedPage)
  have hok : walked.1 = .ok (Window.nextPage ⟨500, 1000, 1⟩) := by decide +kernel
  have hlast : walked.2.trace.getLast? = some ⟨.zero, 0, ⟨"c", ⟨500, 1000, 1⟩, 2⟩,
    .response ⟨200, .silent, some refusedPage⟩⟩ := by decide +kernel
  have hknown := h _ _ _ _ _ refusedPage (Prod.ext hok rfl : walked = (_, _)) hlast
    (by decide +kernel) ⟨2, "b/two", "u2", 700⟩ (by decide)
  have hlost : walked.2.store.knows 2 = false := by decide +kernel
  exact Bool.false_ne_true (hlost.symm.trans hknown)

end CodeSurvey.Discovery
