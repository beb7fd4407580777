import CodeSurvey.Discovery.Answer
import CodeSurvey.Store.Queue

/-! The walk through the windows of star counts; its exchanges stay in the trace. -/

namespace CodeSurvey.Discovery

structure Options where
  language : String
  minStars : Int
  maxRepositories : Nat
  perPage : Nat
  pause : Duration
  maxRetries : Nat
deriving DecidableEq, Repr

def Options.standard : Options := ⟨"c", 500, 40000, 100, .ofSeconds 5, 3⟩

structure Tally where
  found : Nat
  pages : Nat
  windows : Nat
  rateLimited : Nat
deriving DecidableEq, Repr

def Tally.zero : Tally := ⟨0, 0, 0, 0⟩

structure Exchange where
  slept : Duration
  found : Nat
  request : Request
  answer : Answer
deriving DecidableEq, Repr

structure Walk where
  store : Store
  service : Service
  started : Moment
  slept : Duration
  tally : Tally
  trace : List Exchange

namespace Walk

def start (store : Store) (service : Service) (started : Moment) : Walk :=
  ⟨store, service, started, .zero, .zero, []⟩

def now (w : Walk) : Moment := w.started.after w.slept

/-- No single pause is longer than thirty years of 365 days. -/
def longestPause : Duration := .ofSeconds (30 * 365 * 86400)

def sleep (w : Walk) (d : Duration) : Walk :=
  { w with slept := w.slept.add (d.min longestPause) }

def countWait (w : Walk) : Walk :=
  { w with tally := { w.tally with rateLimited := w.tally.rateLimited + 1 } }

def ask (w : Walk) (request : Request) : Answer × Walk :=
  let answer := w.service.next.1
  (answer,
    { w with
      service := w.service.next.2
      trace := w.trace ++ [⟨w.slept, w.tally.found, request, answer⟩] })

@[simp] theorem ask_upcoming (w : Walk) (request : Request) :
    (w.ask request).2.service.upcoming = w.service.upcoming.tail := by
  cases w with
  | mk store service started slept tally trace =>
    obtain ⟨upcoming, tail⟩ := service
    cases upcoming <;> rfl

theorem ask_upcoming_le (w : Walk) (request : Request) :
    (w.ask request).2.service.upcoming.length ≤ w.service.upcoming.length := by
  simp

theorem ask_of_upcoming_nil {w : Walk} (request : Request) (h : w.service.upcoming = []) :
    (w.ask request).1 = w.service.tail.answer := by
  simp [ask, Service.next, h]

theorem ask_wait_upcoming_lt {w : Walk} {request : Request} {d : Duration}
    (h : (w.ask request).1.reading request w.now = .wait d) :
    (w.ask request).2.service.upcoming.length < w.service.upcoming.length := by
  rw [ask_upcoming]
  cases hu : w.service.upcoming with
  | nil =>
    rw [ask_of_upcoming_nil request hu] at h
    rcases w.service.tail.answer_reading request w.now with hr | ⟨fault, hr⟩ <;> simp [hr] at h
  | cons a rest => simp

def fetch (options : Options) (request : Request) (retries : Nat) (w : Walk) :
    Except Fault (Option (List Repository)) × Walk :=
  let asked := (w.ask request).2
  match _h : (w.ask request).1.reading request w.now with
  | .final items => (.ok items, asked)
  | .stop fault => (.error fault, asked)
  | .wait d => fetch options request retries (asked.countWait.sleep d)
  | .failure fault =>
    match retries with
    | 0 => (.error fault, asked)
    | retries + 1 => fetch options request retries (asked.sleep options.pause)
termination_by w.service.upcoming.length + retries
decreasing_by
  · exact Nat.add_lt_add_right (ask_wait_upcoming_lt _h) retries
  · exact Nat.add_lt_add_of_le_of_lt (ask_upcoming_le w request) (Nat.lt_succ_self _)

/-- Queues a page; a page that the store refuses adds nothing. -/
def insert (w : Walk) (page : List Repository) : Walk :=
  match w.store.insertRepositories page with
  | .error _ => { w with tally := { w.tally with pages := w.tally.pages + 1 } }
  | .ok (n, store) =>
    { w with
      store := store
      tally := { w.tally with found := w.tally.found + n, pages := w.tally.pages + 1 } }

@[simp] theorem insert_service (w : Walk) (page : List Repository) :
    (w.insert page).service = w.service := by
  unfold insert
  split <;> rfl

@[simp] theorem insert_windows (w : Walk) (page : List Repository) :
    (w.insert page).tally.windows = w.tally.windows := by
  unfold insert
  split <;> rfl

@[simp] theorem insert_trace (w : Walk) (page : List Repository) :
    (w.insert page).trace = w.trace := by
  unfold insert
  split <;> rfl

@[simp] theorem insert_started (w : Walk) (page : List Repository) :
    (w.insert page).started = w.started := by
  unfold insert
  split <;> rfl

def windowBelow (store : Store) (window : Window) : Window :=
  if store.minStarsSeen = Store.noStarsSeen then window.shrink window.lower
  else window.shrink store.minStarsSeen

@[simp] theorem windowBelow_lower (store : Store) (window : Window) :
    (windowBelow store window).lower = window.lower := by
  unfold windowBelow
  split <;> rfl

@[simp] theorem windowBelow_page (store : Store) (window : Window) :
    (windowBelow store window).page = 1 := by
  unfold windowBelow
  split <;> rfl

theorem windowBelow_upper_lt (store : Store) (window : Window) :
    (windowBelow store window).upper < window.upper := by
  unfold windowBelow
  split <;> exact Window.shrink_upper_lt _ _

def close (options : Options) (window : Window) (w : Walk) : Window × Walk :=
  let next := windowBelow w.store window
  let closed := { w with tally := { w.tally with windows := w.tally.windows + 1 } }
  (next, if next.exhausted then closed else closed.sleep options.pause)

@[simp] theorem close_fst (options : Options) (window : Window) (w : Walk) :
    (close options window w).1 = windowBelow w.store window := rfl

@[simp] theorem close_service (options : Options) (window : Window) (w : Walk) :
    (close options window w).2.service = w.service := by
  simp only [close]
  split <;> rfl

@[simp] theorem close_store (options : Options) (window : Window) (w : Walk) :
    (close options window w).2.store = w.store := by
  simp only [close]
  split <;> rfl

@[simp] theorem close_found (options : Options) (window : Window) (w : Walk) :
    (close options window w).2.tally.found = w.tally.found := by
  simp only [close]
  split <;> rfl

@[simp] theorem close_windows (options : Options) (window : Window) (w : Walk) :
    (close options window w).2.tally.windows = w.tally.windows + 1 := by
  simp only [close]
  split <;> rfl

@[simp] theorem close_trace (options : Options) (window : Window) (w : Walk) :
    (close options window w).2.trace = w.trace := by
  simp only [close]
  split <;> rfl

@[simp] theorem close_started (options : Options) (window : Window) (w : Walk) :
    (close options window w).2.started = w.started := by
  simp only [close]
  split <;> rfl

def pageSize (options : Options) (found : Nat) : Nat :=
  min options.perPage (max 1 (options.maxRepositories - found))

def requestFor (options : Options) (window : Window) (found : Nat) : Request :=
  ⟨options.language, window, pageSize options found⟩

def advance (options : Options) (window : Window) (w : Walk) : Except Fault Window × Walk :=
  match fetch options (requestFor options window w.tally.found) options.maxRetries w with
  | (.error fault, w) => (.error fault, w)
  | (.ok (some (r :: rs)), w) => (.ok window.nextPage, w.insert (r :: rs))
  | (.ok (some []), w) =>
    let closed := close options window w
    (.ok closed.1, closed.2)
  | (.ok none, w) =>
    let closed := close options window w
    (.ok closed.1, closed.2)

theorem fetch_upcoming_le (options : Options) (request : Request) (retries : Nat) (w : Walk) :
    (fetch options request retries w).2.service.upcoming.length ≤ w.service.upcoming.length := by
  fun_induction fetch options request retries w with
  | case1 _ w => exact ask_upcoming_le w request
  | case2 _ w => exact ask_upcoming_le w request
  | case3 _ w _ _ _ ih => exact Nat.le_trans ih (ask_upcoming_le w request)
  | case4 w => exact ask_upcoming_le w request
  | case5 w _ _ _ _ ih => exact Nat.le_trans ih (ask_upcoming_le w request)

theorem fetch_items_upcoming_lt {options : Options} {request : Request} {retries : Nat} {w : Walk}
    {page : List Repository} (h : (fetch options request retries w).1 = .ok (some page)) :
    (fetch options request retries w).2.service.upcoming.length < w.service.upcoming.length := by
  fun_induction fetch options request retries w with
  | case1 _ w asked items hr =>
    simp only [Except.ok.injEq] at h
    subst h
    simp only [asked, ask_upcoming]
    cases hu : w.service.upcoming with
    | nil =>
      rw [ask_of_upcoming_nil request hu] at hr
      rcases w.service.tail.answer_reading request w.now with hf | ⟨fault, hf⟩ <;> simp [hf] at hr
    | cons a rest => simp
  | case2 => simp at h
  | case3 _ w _ _ _ ih => exact Nat.lt_of_lt_of_le (ih h) (ask_upcoming_le w request)
  | case4 => simp at h
  | case5 w _ _ _ _ ih => exact Nat.lt_of_lt_of_le (ih h) (ask_upcoming_le w request)

theorem width_windowBelow_lt (store : Store) {window : Window} (h : window.exhausted = false) :
    (windowBelow store window).width < window.width := by
  unfold windowBelow
  split <;> exact Window.width_shrink_lt h _

theorem advance_decreases {options : Options} {window next : Window} {w v : Walk}
    (hw : window.exhausted = false) (h : advance options window w = (.ok next, v)) :
    v.service.upcoming.length + next.width < w.service.upcoming.length + window.width := by
  unfold advance at h
  have hle := fetch_upcoming_le options (requestFor options window w.tally.found)
    options.maxRetries w
  split at h
  · simp at h
  · rename_i r rs u hf
    have hlt := fetch_items_upcoming_lt (congrArg Prod.fst hf)
    simp only [hf] at hlt
    simp only [Prod.mk.injEq, Except.ok.injEq] at h
    rw [← h.1, ← h.2, insert_service]
    exact Nat.add_lt_add_right hlt window.width
  · rename_i u hf
    simp only [hf] at hle
    simp only [Prod.mk.injEq, Except.ok.injEq] at h
    rw [← h.1, ← h.2, close_service]
    exact Nat.add_lt_add_of_le_of_lt hle (width_windowBelow_lt u.store hw)
  · rename_i u hf
    simp only [hf] at hle
    simp only [Prod.mk.injEq, Except.ok.injEq] at h
    rw [← h.1, ← h.2, close_service]
    exact Nat.add_lt_add_of_le_of_lt hle (width_windowBelow_lt u.store hw)

def run (options : Options) (window : Window) (w : Walk) : Except Fault Window × Walk :=
  if _h : w.tally.found < options.maxRepositories ∧ window.exhausted = false then
    match _step : advance options window w with
    | (.error fault, v) => (.error fault, v)
    | (.ok next, v) => run options next v
  else (.ok window, w)
termination_by w.service.upcoming.length + window.width
decreasing_by exact advance_decreases _h.2 _step

end Walk

def startingWindow (options : Options) (store : Store) : Window :=
  .start options.minStars store.minStarsSeen

def discover (options : Options) (store : Store) (service : Service) (started : Moment) :
    Except Fault Window × Walk :=
  (Walk.start store service started).run options (startingWindow options store)

def disconnected (options : Options) (service token : String) (store : Store) : Service :=
  let first := Walk.requestFor options (startingWindow options store) 0
  ⟨[], .failing (.request (refusal (first.url service) token))⟩

end CodeSurvey.Discovery
