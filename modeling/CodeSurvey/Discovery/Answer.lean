import CodeSurvey.Discovery.RateLimit
import CodeSurvey.Discovery.Page
import CodeSurvey.Fault
import CodeSurvey.Record

/-! Answers of the search service, and the service as the sequence of its answers. -/

namespace CodeSurvey.Discovery

structure Response where
  status : Nat
  limit : RateLimit
  items : Option (List Repository)
deriving DecidableEq, Repr

inductive Answer where
  | failed (fault : Fault)
  | response (r : Response)
deriving DecidableEq, Repr

def Response.isServerError (r : Response) : Bool := 500 ≤ r.status

inductive Reading where
  | wait (d : Duration)
  | failure (fault : Fault)
  | final (items : Option (List Repository))
  | stop (fault : Fault)
deriving DecidableEq, Repr

def serverFault (status : Nat) (request : Request) : Fault :=
  .search ("status " ++ toString status ++ " for " ++ request.query)

def Answer.reading (request : Request) (now : Moment) : Answer → Reading
  | .failed fault => .failure fault
  | .response r =>
    match r.limit.backoff now with
    | .wait d => .wait d
    | .tooLong => .stop .waitTooLong
    | .proceed =>
      if r.isServerError then .failure (serverFault r.status request) else .final r.items

/-- What the service says to every request once the answers to come are used up. -/
inductive Tail where
  | drained
  | failing (fault : Fault)
deriving DecidableEq, Repr

def drainedAnswer : Answer := .response ⟨422, .silent, none⟩

def Tail.answer : Tail → Answer
  | .drained => drainedAnswer
  | .failing fault => .failed fault

structure Service where
  upcoming : List Answer
  tail : Tail
deriving DecidableEq, Repr

def Service.next (s : Service) : Answer × Service :=
  match s.upcoming with
  | [] => (s.tail.answer, s)
  | a :: rest => (a, { s with upcoming := rest })

theorem Answer.reading_eq_final {a : Answer} {request : Request} {now : Moment}
    {items : Option (List Repository)} (h : a.reading request now = .final items) :
    ∃ r, a = .response r ∧ r.limit.backoff now = .proceed ∧ r.status < 500 ∧ r.items = items := by
  cases a with
  | failed fault => cases h
  | response r =>
    simp only [reading] at h
    split at h
    · cases h
    · cases h
    rename_i hproceed
    split at h
    · cases h
    rename_i hstatus
    cases h
    exact ⟨r, rfl, hproceed, by simpa [Response.isServerError] using hstatus, rfl⟩

theorem Answer.reading_eq_failure {a : Answer} {request : Request} {now : Moment} {fault : Fault}
    (h : a.reading request now = .failure fault) :
    a = .failed fault ∨ ∃ r, a = .response r ∧ r.limit.backoff now = .proceed ∧ 500 ≤ r.status ∧
      fault = serverFault r.status request := by
  cases a with
  | failed f =>
    cases h
    exact Or.inl rfl
  | response r =>
    simp only [reading] at h
    split at h
    · cases h
    · cases h
    rename_i hproceed
    split at h
    · rename_i hstatus
      cases h
      exact Or.inr ⟨r, rfl, hproceed, by simpa [Response.isServerError] using hstatus, rfl⟩
    · cases h

theorem Answer.reading_eq_stop {a : Answer} {request : Request} {now : Moment} {fault : Fault}
    (h : a.reading request now = .stop fault) :
    ∃ r, a = .response r ∧ r.limit.backoff now = .tooLong ∧ fault = .waitTooLong := by
  cases a with
  | failed f => cases h
  | response r =>
    simp only [reading] at h
    split at h
    · cases h
    · rename_i htoo
      cases h
      exact ⟨r, rfl, htoo, rfl⟩
    · split at h <;> cases h

theorem Tail.answer_reading (t : Tail) (request : Request) (now : Moment) :
    t.answer.reading request now = .final none ∨
      ∃ fault, t.answer.reading request now = .failure fault := by
  cases t with
  | drained => exact Or.inl rfl
  | failing fault => exact Or.inr ⟨fault, rfl⟩

end CodeSurvey.Discovery
