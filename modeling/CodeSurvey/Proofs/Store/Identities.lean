import CodeSurvey.Proofs.Store.Turns

/-! The ids that files and matches are given over a history. -/

namespace CodeSurvey.Store

variable {s t : Store}

theorem ensureFile_of_row (hs : s.Consistent) {f : FileRow} (hf : f ∈ s.files) :
    ∃ t, s.ensureFile f.repository f.path = .ok (f.id, t) := by
  unfold ensureFile
  cases hrow : s.file? f.repository f.path with
  | none => exact absurd rfl (file?_eq_none hrow f hf)
  | some g =>
    obtain ⟨hg, hkey⟩ := file?_eq_some hrow
    obtain rfl : g = f := hs.file_eq_of_key hg hf hkey
    exact ⟨_, rfl⟩

theorem ensureFile_key (hs : s.Consistent) {f : FileRow} (hf : f ∈ s.files) {repository : Int}
    {path : String} (h : s.ensureFile repository path = .ok (f.id, t)) :
    (repository, path) = f.key := by
  obtain ⟨g, hg, hkey, hid⟩ := ensureFile_row h
  have hsame := (hs.ensureFile h).file_unique hg ((ResultsGrow.ensureFile h).files.subset hf) hid
  exact hkey.symm.trans (congrArg FileRow.key hsame)

def listed (s : Store) (file : Int) (site : Site) : List Int :=
  ((s.matchesOf file).filter (fun m => m.site == site)).map MatchRow.id

theorem filter_key_eq {α β : Type} [DecidableEq β] {key : α → β} {rows : List α} {row : α}
    (h : (rows.map key).Nodup) (hr : row ∈ rows) :
    rows.filter (fun r => key r = key row) = [row] := by
  refine List.perm_singleton.1 ((List.perm_ext_iff_of_nodup (h.of_map.filter _) (by simp)).2 ?_)
  intro r
  simp only [List.mem_filter, decide_eq_true_eq, List.mem_singleton]
  constructor
  · rintro ⟨hmem, hkey⟩
    exact List.inj_on_of_nodup_map h hmem hr hkey
  · rintro rfl
    exact ⟨hr, rfl⟩

theorem Consistent.listed_eq (hs : s.Consistent) {m : MatchRow} (hm : m ∈ s.matchRows) :
    s.listed m.file m.site = [m.id] := by
  have hkey : (s.matchesOf m.file).filter (fun r => r.site == m.site) = [m] := by
    rw [matchesOf, List.filter_filter, ← filter_key_eq hs.matchKeys hm]
    refine List.filter_congr fun r _ => ?_
    rw [Bool.eq_iff_iff]
    simp [MatchRow.key, Prod.ext_iff, and_comm]
  rw [listed, hkey, List.map_singleton]

theorem recordMatch_new (hs : s.Consistent) {file : Int} {site : Site}
    (hf : s.hasFile file = true) (hm : s.hasMatch file site = false) :
    ∃ m t, s.recordMatch file site = .ok (some m.id, t) ∧ m.key = (file, site) ∧
      m ∈ t.matchRows ∧ ∀ row ∈ s.matchRows, row.id < m.id := by
  let m : MatchRow := ⟨(s.lastMatch + 1 : Nat), file, site⟩
  let t : Store := { s with matchRows := s.matchRows ++ [m], lastMatch := s.lastMatch + 1 }
  have hmem : m ∈ t.matchRows := List.mem_append_right _ (List.mem_singleton.2 rfl)
  refine ⟨m, t, ?_, rfl, hmem, lt_of_given hs.matchesGiven⟩
  simp only [recordMatch, hm, hf, if_true, Bool.false_eq_true, if_false]
  rfl

theorem recordMatch_known {file : Int} {site : Site} (hm : s.hasMatch file site = true) :
    ∃ t, s.recordMatch file site = .ok (none, t) ∧ t.matchRows = s.matchRows := by
  refine ⟨{ s with lastMatch := s.lastMatch + 1 }, ?_, rfl⟩
  simp only [recordMatch, hm, if_true]

theorem recordMatch_some {file id : Int} {site : Site}
    (h : s.recordMatch file site = .ok (some id, t)) : ⟨id, file, site⟩ ∈ t.matchRows := by
  unfold recordMatch at h
  split at h
  · cases h
  split at h
  · cases h
    exact List.mem_append_right _ (List.mem_singleton.2 rfl)
  · cases h

namespace Turn.Over

variable {m : Turn} {repository file id : Int} {path : String} {site : Site}

theorem row_of_file (h : m.Over s) (he : m.entry = .file repository path)
    (ha : m.answer = .ok (.file id)) : ⟨id, repository, path⟩ ∈ m.left.files := by
  have hanswer := h.answered
  rw [he, ha, respond] at hanswer
  cases hf : m.seen.ensureFile repository path with
  | error e => simp [hf, given] at hanswer
  | ok r =>
    simp only [hf, given, Prod.mk.injEq, Except.ok.injEq, Given.file.injEq] at hanswer
    obtain ⟨f, hmem, hkey, hid⟩ := ensureFile_row hf
    obtain ⟨rfl, rfl⟩ := Prod.mk.inj hkey
    rw [← hanswer.1, ← hid, ← hanswer.2]
    exact hmem

theorem row_of_site (h : m.Over s) (he : m.entry = .site file site)
    (ha : m.answer = .ok (.site (some id))) : ⟨id, file, site⟩ ∈ m.left.matchRows := by
  have hanswer := h.answered
  rw [he, ha, respond] at hanswer
  cases hr : m.seen.recordMatch file site with
  | error e => simp [hr, given] at hanswer
  | ok r =>
    obtain ⟨found, t⟩ := r
    simp only [hr, given, Prod.mk.injEq, Except.ok.injEq, Given.site.injEq] at hanswer
    obtain ⟨rfl, rfl⟩ := hanswer
    exact recordMatch_some hr

theorem answer_file (h : m.Over s) (hrow : ⟨id, repository, path⟩ ∈ m.seen.files) :
    (m.entry = .file repository path → m.answer = .ok (.file id)) ∧
      ∀ other name, m.entry = .file other name → m.answer = .ok (.file id) →
        other = repository ∧ name = path := by
  refine ⟨fun he => ?_, fun other name he ha => ?_⟩
  · obtain ⟨t, ht⟩ := ensureFile_of_row h.consistent hrow
    have hanswer := h.answered
    rw [he, respond, ht] at hanswer
    exact (Prod.mk.inj hanswer).1.symm
  · have hanswer := h.answered
    rw [he, ha, respond] at hanswer
    cases hr : m.seen.ensureFile other name with
    | error e => simp [hr, given] at hanswer
    | ok r =>
      simp only [hr, given, Prod.mk.injEq, Except.ok.injEq, Given.file.injEq] at hanswer
      obtain ⟨given, t⟩ := r
      obtain ⟨rfl, -⟩ := hanswer
      exact Prod.mk.inj (ensureFile_key h.consistent hrow hr)

theorem answer_site_new (h : m.Over s) (he : m.entry = .site file site)
    (hf : m.seen.hasFile file = true) (hm : m.seen.hasMatch file site = false) :
    ∃ id, m.answer = .ok (.site (some id)) ∧ (∀ row ∈ m.seen.matchRows, row.id < id) ∧
      ⟨id, file, site⟩ ∈ m.left.matchRows ∧ m.left.Consistent := by
  obtain ⟨row, t, ht, hkey, hmem, hlt⟩ := recordMatch_new h.consistent hf hm
  obtain ⟨rfl, rfl⟩ := Prod.mk.inj hkey
  have hanswer := h.answered
  rw [he, respond, ht] at hanswer
  obtain ⟨ha, hleft⟩ := Prod.mk.inj hanswer
  rw [← hleft]
  exact ⟨row.id, ha.symm, hlt, hmem, h.consistent.recordMatch ht⟩

theorem answer_site_known (h : m.Over s) (he : m.entry = .site file site)
    (hm : m.seen.hasMatch file site = true) :
    m.answer = .ok (.site none) ∧ m.left.matchRows = m.seen.matchRows := by
  obtain ⟨t, ht, hrows⟩ := recordMatch_known hm
  have hanswer := h.answered
  rw [he, respond, ht] at hanswer
  obtain ⟨ha, hleft⟩ := Prod.mk.inj hanswer
  exact ⟨ha.symm, hleft ▸ hrows⟩

end Turn.Over

/-- A file keeps the id that was kept with it, and no other file is given it. A site is given an id
exactly where its file does not hold it: one above all that were kept before, and the only one that
it is listed under from then on. -/
theorem performAll_identities (refusals : Refusals) (past later after : List Operation)
    (o next : Operation) :
    let s := (blank refusals).performAll past
    let u := (s.perform o).performAll later
    (∀ m ∈ s.turns o, s.Keeps o → ∀ repository path id, m.entry = .file repository path →
      m.answer = .ok (.file id) → ∀ n ∈ u.turns next,
        (n.entry = .file repository path → n.answer = .ok (.file id)) ∧
        ∀ other name, n.entry = .file other name → n.answer = .ok (.file id) →
          other = repository ∧ name = path) ∧
    ∀ n ∈ u.turns next, ∀ file site, n.entry = .site file site → n.seen.hasFile file = true →
      (n.seen.hasMatch file site = false → ∃ id, n.answer = .ok (.site (some id)) ∧
        (∀ row ∈ u.matchRows, row.id < id) ∧
        (∀ m ∈ s.turns o, s.Keeps o → ∀ file' site' id', m.entry = .site file' site' →
          m.answer = .ok (.site (some id')) → id' < id) ∧
        n.left.listed file site = [id] ∧
        (u.Keeps next → ((u.perform next).performAll after).listed file site = [id])) ∧
      (n.seen.hasMatch file site = true →
        n.answer = .ok (.site none) ∧ n.left.matchRows = n.seen.matchRows) := by
  intro s u
  have hs : s.Consistent := (Consistent.blank refusals).performAll past
  have hu : u.Consistent := (hs.perform o).performAll later
  have hsu : (s.perform o).Extends u := performAll_extends _ later
  refine ⟨fun m hm hk repository path id he ha n hn => ?_, fun n hn file site he hf => ?_⟩
  · obtain ⟨hover, hleft⟩ := turns_over hs o m hm
    obtain ⟨hnext, -⟩ := turns_over hu next n hn
    have hgrown := ((hleft hk).trans hsu).trans hnext.grown
    exact hnext.answer_file (hgrown.files.subset (hover.row_of_file he ha))
  · obtain ⟨hnext, hkept⟩ := turns_over hu next n hn
    refine ⟨fun hm => ?_, hnext.answer_site_known he⟩
    obtain ⟨id, ha, hlt, hrow, hleft⟩ := hnext.answer_site_new he hf hm
    refine ⟨id, ha, fun row hr => hlt row (hnext.grown.matchRows.subset hr), ?_,
      hleft.listed_eq hrow, fun hk => ?_⟩
    · intro m hm hk file' site' id' he' ha'
      obtain ⟨hover, hend⟩ := turns_over hs o m hm
      have hgrown := ((hend hk).trans hsu).trans hnext.grown
      exact hlt _ (hgrown.matchRows.subset (hover.row_of_site he' ha'))
    · have hgrown := (hkept hk).trans (performAll_extends _ after)
      exact ((hu.perform next).performAll after).listed_eq (hgrown.matchRows.subset hrow)

def twoQueued : List Operation :=
  [.insert [⟨1, "a/one", "u1", 5⟩, ⟨2, "b/two", "u2", 4⟩], .write [.file 2 "y.c"] false]

def oneKept : Operation := .write [.file 1 "x.c", .site 1 ⟨1, 1, 0, 4, 0⟩, .file 9 "x.c"] true

def fourBetween : List Operation :=
  [.insert [⟨1, "a/one", "u1", 5⟩], .ensureFile 9 "x.c", .write [.file 2 "x.c"] false,
    .recordReport 2 (Text.Utf8.encode "y.c,9,3,1,8,1\n")]

def fourEntered : Operation :=
  .write [.file 1 "x.c", .file 2 "x.c", .site 1 ⟨9, 3, 1, 8, 1⟩, .site 1 ⟨1, 1, 0, 4, 0⟩] true

theorem performAll_identities_fourEntered :
    let s := (blank .none).performAll twoQueued
    let u := (s.perform oneKept).performAll fourBetween
    ∃ m ∈ s.turns oneKept, m.entry = .file 1 "x.c" ∧ m.answer = .ok (.file 1) ∧
      ∃ n ∈ u.turns fourEntered, n.entry = .file 1 "x.c" ∧ n.answer = .ok (.file 1) ∧
        ∃ k ∈ u.turns fourEntered, k.entry = .site 1 ⟨9, 3, 1, 8, 1⟩ ∧
          k.seen.hasMatch 1 ⟨9, 3, 1, 8, 1⟩ = false ∧
          ∃ id, k.answer = .ok (.site (some id)) ∧
            (u.perform fourEntered).listed 1 ⟨9, 3, 1, 8, 1⟩ = [id] := by
  intro s u
  obtain ⟨hfiles, hsites⟩ :=
    performAll_identities .none twoQueued fourBetween [] oneKept fourEntered
  let m := (s.turns oneKept).get ⟨0, by decide +kernel⟩
  let n := (u.turns fourEntered).get ⟨0, by decide +kernel⟩
  let k := (u.turns fourEntered).get ⟨2, by decide +kernel⟩
  have hkind : m.entry = .file 1 "x.c" ∧ m.answer = .ok (.file 1) := by decide +kernel
  have hnew : k.seen.hasMatch 1 ⟨9, 3, 1, 8, 1⟩ = false := by decide +kernel
  obtain ⟨id, ha, -, -, -, hlisted⟩ :=
    (hsites k (List.get_mem _ _) 1 ⟨9, 3, 1, 8, 1⟩ rfl (by decide +kernel)).1 hnew
  exact ⟨m, List.get_mem _ _, hkind.1, hkind.2, n, List.get_mem _ _, rfl,
    (hfiles m (List.get_mem _ _) rfl 1 "x.c" 1 hkind.1 hkind.2 n (List.get_mem _ _)).1 rfl,
    k, List.get_mem _ _, rfl, hnew, id, ha, hlisted rfl⟩

end CodeSurvey.Store
