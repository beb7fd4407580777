import CodeSurvey.Store.Basic
import CodeSurvey.Report.Line

/-! Files and matches; a row that is there already uses up an id, one refused does not. -/

namespace CodeSurvey.Store

def file? (s : Store) (repository : Int) (path : String) : Option FileRow :=
  s.files.find? (fun f => f.repository == repository && f.path == path)

def hasFile (s : Store) (id : Int) : Bool :=
  s.files.any (fun f => f.id == id)

def ensureFile (s : Store) (repository : Int) (path : String) : Except StoreError (Int × Store) :=
  match s.file? repository path with
  | some f => .ok (f.id, { s with lastFile := s.lastFile + 1 })
  | none =>
    if s.knows repository then
      let id : Int := (s.lastFile + 1 : Nat)
      .ok (id,
        { s with files := s.files ++ [⟨id, repository, path⟩], lastFile := s.lastFile + 1 })
    else .error .unknownReference

def hasMatch (s : Store) (file : Int) (site : Site) : Bool :=
  s.matchRows.any (fun m => m.file == file && m.site == site)

def recordMatch (s : Store) (file : Int) (site : Site) : Except StoreError (Option Int × Store) :=
  if s.hasMatch file site then .ok (none, { s with lastMatch := s.lastMatch + 1 })
  else if s.hasFile file then
    let id : Int := (s.lastMatch + 1 : Nat)
    .ok (some id,
      { s with matchRows := s.matchRows ++ [⟨id, file, site⟩], lastMatch := s.lastMatch + 1 })
  else .error .unknownReference

def filesOf (s : Store) (repository : Int) : List FileRow :=
  s.files.filter (fun f => f.repository == repository)

def matchesOf (s : Store) (file : Int) : List MatchRow :=
  s.matchRows.filter (fun m => m.file == file)

structure Writer where
  base : Store
  draft : Store

namespace Writer

def ensureFile (w : Writer) (repository : Int) (path : String) :
    Except StoreError (Int × Writer) :=
  (w.draft.ensureFile repository path).map (fun r => (r.1, { w with draft := r.2 }))

def recordMatch (w : Writer) (file : Int) (site : Site) :
    Except StoreError (Option Int × Writer) :=
  (w.draft.recordMatch file site).map (fun r => (r.1, { w with draft := r.2 }))

def commit (w : Writer) : Store := w.draft

def drop (w : Writer) : Store := w.base

end Writer

def writer (s : Store) : Writer := ⟨s, s⟩

structure Recording where
  findings : Nat
  files : Nat
  newMatches : Nat
  duplicates : Nat
deriving DecidableEq, Repr

structure Progress where
  writer : Writer
  files : List Int
  newMatches : Nat
  duplicates : Nat

namespace Progress

def meet (p : Progress) (file : Int) : List Int :=
  if p.files.contains file then p.files else file :: p.files

def record (p : Progress) (repository : Int) (f : Finding) : Except StoreError Progress :=
  match p.writer.ensureFile repository f.path with
  | .error e => .error e
  | .ok (file, writer) =>
    match writer.recordMatch file f.site with
    | .error e => .error e
    | .ok (some _, writer) => .ok ⟨writer, p.meet file, p.newMatches + 1, p.duplicates⟩
    | .ok (none, writer) => .ok ⟨writer, p.meet file, p.newMatches, p.duplicates + 1⟩

def recordAll (p : Progress) (repository : Int) : List Finding → Except StoreError Progress
  | [] => .ok p
  | f :: fs =>
    match p.record repository f with
    | .error e => .error e
    | .ok p => p.recordAll repository fs

end Progress

def recordFindings (s : Store) (repository : Int) (findings : List Finding) :
    Except StoreError (Recording × Store) :=
  match Progress.recordAll ⟨s.writer, [], 0, 0⟩ repository findings with
  | .error e => .error e
  | .ok p =>
    .ok (⟨findings.length, p.files.length, p.newMatches, p.duplicates⟩, p.writer.commit)

def recordReport (s : Store) (repository : Int) (report : Text.Utf8.Bytes) :
    Except StoreError (Recording × Store) :=
  s.recordFindings repository (Report.parse report)

theorem ensureFile_repositories {s t : Store} {repository id : Int} {path : String}
    (h : s.ensureFile repository path = .ok (id, t)) : t.repositories = s.repositories := by
  unfold ensureFile at h
  split at h
  · cases h; rfl
  · split at h
    · cases h; rfl
    · cases h

theorem recordMatch_repositories {s t : Store} {file : Int} {site : Site} {id : Option Int}
    (h : s.recordMatch file site = .ok (id, t)) : t.repositories = s.repositories := by
  unfold recordMatch at h
  split at h
  · cases h; rfl
  · split at h
    · cases h; rfl
    · cases h

theorem Writer.ensureFile_ok {w v : Writer} {repository id : Int} {path : String}
    (h : w.ensureFile repository path = .ok (id, v)) :
    w.draft.ensureFile repository path = .ok (id, v.draft) := by
  unfold Writer.ensureFile at h
  cases hd : w.draft.ensureFile repository path with
  | error e => simp [hd, Except.map] at h
  | ok r =>
    simp only [hd, Except.map, Except.ok.injEq, Prod.mk.injEq] at h
    obtain ⟨h1, h2⟩ := h
    simp [← h1, ← h2]

theorem Writer.recordMatch_ok {w v : Writer} {file : Int} {site : Site} {id : Option Int}
    (h : w.recordMatch file site = .ok (id, v)) :
    w.draft.recordMatch file site = .ok (id, v.draft) := by
  unfold Writer.recordMatch at h
  cases hd : w.draft.recordMatch file site with
  | error e => simp [hd, Except.map] at h
  | ok r =>
    simp only [hd, Except.map, Except.ok.injEq, Prod.mk.injEq] at h
    obtain ⟨h1, h2⟩ := h
    simp [← h1, ← h2]

theorem Progress.record_repositories {p q : Progress} {repository : Int} {f : Finding}
    (h : p.record repository f = .ok q) :
    q.writer.draft.repositories = p.writer.draft.repositories := by
  unfold Progress.record at h
  split at h
  · cases h
  · rename_i file w hw
    have hf := ensureFile_repositories (Writer.ensureFile_ok hw)
    split at h
    · cases h
    · rename_i id v hv
      cases h
      rw [recordMatch_repositories (Writer.recordMatch_ok hv), hf]
    · rename_i v hv
      cases h
      rw [recordMatch_repositories (Writer.recordMatch_ok hv), hf]

theorem Progress.recordAll_repositories {p q : Progress} {repository : Int} {fs : List Finding}
    (h : p.recordAll repository fs = .ok q) :
    q.writer.draft.repositories = p.writer.draft.repositories := by
  induction fs generalizing p with
  | nil => cases h; rfl
  | cons f fs ih =>
    simp only [Progress.recordAll] at h
    split at h
    · cases h
    · rename_i r hr
      rw [ih h, Progress.record_repositories hr]

theorem recordReport_repositories {s t : Store} {repository : Int} {report : Text.Utf8.Bytes}
    {r : Recording} (h : s.recordReport repository report = .ok (r, t)) :
    t.repositories = s.repositories := by
  unfold recordReport recordFindings at h
  split at h
  · cases h
  · rename_i p hp
    cases h
    exact Progress.recordAll_repositories hp

@[simp] theorem recordFindings_nil (s : Store) (repository : Int) :
    s.recordFindings repository [] = .ok (⟨0, 0, 0, 0⟩, s) := rfl

end CodeSurvey.Store
