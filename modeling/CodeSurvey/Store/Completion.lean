import CodeSurvey.Store.Basic

/-! Writing, reading and clearing completion markers. -/

namespace CodeSurvey

def Marker.row (m : Marker) : MarkerRow :=
  ⟨m.repository, m.successes, m.errors, m.elapsed.stored, m.outcome.text⟩

def MarkerRow.marker (row : MarkerRow) : Except StoreError Marker :=
  match Outcome.ofText? row.outcome with
  | some outcome => .ok ⟨row.repository, row.successes, row.errors, row.elapsed, outcome⟩
  | none => .error (.unreadableOutcome row.outcome)

def MarkerRow.saysAnalyzed (row : MarkerRow) : Bool :=
  row.outcome == Outcome.analyzed.text

theorem Marker.row_marker (m : Marker) :
    m.row.marker = .ok { m with elapsed := m.elapsed.stored } := by
  simp [Marker.row, MarkerRow.marker]

namespace Store

/-- Writes a marker. Of several faults the database's refusal comes first, then a time that is not
a number, a marker that is there already, and an unknown repository. -/
def mark (s : Store) (m : Marker) : Except StoreError Store :=
  if s.refusals.marker m then .error s.refusals.reason
  else if m.elapsed.isNaN then .error .missingElapsed
  else if s.isMarked m.repository then .error .alreadyMarked
  else if s.knows m.repository = false then .error .unknownReference
  else .ok { s with markers := s.markers ++ [m.row] }

def markerRow? (s : Store) (repository : Int) : Option MarkerRow :=
  s.markers.find? (fun row => row.repository == repository)

def marker? (s : Store) (repository : Int) : Except StoreError (Option Marker) :=
  match s.markerRow? repository with
  | none => .ok none
  | some row => row.marker.map some

def resetFailed (s : Store) : Nat × Store :=
  (s.markers.countP (fun row => !row.saysAnalyzed),
    { s with markers := s.markers.filter MarkerRow.saysAnalyzed })

def overwriteOutcome (s : Store) (repository : Int) (text : String) : Nat × Store :=
  (s.markers.countP (fun row => row.repository == repository),
    { s with
      markers := s.markers.map
        (fun row => if row.repository = repository then { row with outcome := text } else row) })

theorem isMarked_eq_isSome (s : Store) (id : Int) : s.isMarked id = (s.markerRow? id).isSome := by
  rw [Bool.eq_iff_iff, markerRow?, List.find?_isSome, isMarked, List.any_eq_true]

theorem mark_eq_ok_iff {s t : Store} {m : Marker} :
    s.mark m = .ok t ↔
      s.refusals.marker m = false ∧ m.elapsed.isNaN = false ∧ s.isMarked m.repository = false ∧
        s.knows m.repository = true ∧ t = { s with markers := s.markers ++ [m.row] } := by
  unfold mark
  cases s.refusals.marker m <;> cases m.elapsed.isNaN <;> cases s.isMarked m.repository <;>
    cases s.knows m.repository <;> simp [eq_comm]

theorem markerRow?_mark {s t : Store} {m : Marker} (h : s.mark m = .ok t) :
    t.markerRow? m.repository = some m.row := by
  obtain ⟨-, -, hu, -, rfl⟩ := mark_eq_ok_iff.1 h
  have hnone : s.markerRow? m.repository = none := by
    simpa [isMarked_eq_isSome] using hu
  simp only [markerRow?] at hnone
  simp [markerRow?, List.find?_append, hnone, Marker.row]

theorem marker?_mark {s t : Store} {m : Marker} (h : s.mark m = .ok t) :
    t.marker? m.repository = .ok (some { m with elapsed := m.elapsed.stored }) := by
  rw [marker?, markerRow?_mark h]
  simp only [Marker.row_marker, Except.map]

theorem markerRow?_mark_of_ne {s t : Store} {m : Marker} {id : Int} (h : s.mark m = .ok t)
    (hid : id ≠ m.repository) : t.markerRow? id = s.markerRow? id := by
  obtain ⟨-, -, -, -, rfl⟩ := mark_eq_ok_iff.1 h
  have hrow : m.row.repository ≠ id := hid.symm
  simp [markerRow?, List.find?_append, hrow]

@[grind →] theorem mark_repositories {s t : Store} {m : Marker} (h : s.mark m = .ok t) :
    t.repositories = s.repositories := by
  rw [(mark_eq_ok_iff.1 h).2.2.2.2]

end Store

end CodeSurvey
