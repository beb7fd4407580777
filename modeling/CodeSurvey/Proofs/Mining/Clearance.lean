import CodeSurvey.Proofs.Mining.Confinement

/-! What a failed clone leaves. -/

namespace CodeSurvey.Mining.Cloner

open CodeSurvey.FileTree (Above Grounded Makes place)
open CodeSurvey.Path (Component components ofComponents segments)

variable {c : Cloner} {name p url : String} {m m₁ m₂ m' : Machine} {l k : Location} {e : Fault}
  {r : Except SystemError Unit}

def Remains (name p : String) (m : Machine) : Prop :=
  m.isFile p = true ∨ m.isDirectory p = true ∧ (segments name).getLast? = some "."

def Spoils (c : Cloner) (url name p : String) (m : Machine) : Prop :=
  ∃ output m', m.run c.program (c.arguments url p) = (.ok output, m') ∧
    output.succeeded = false ∧ Remains name p m'

theorem segments_path (hp : c.path? name = .ok p) :
    (segments p).getLast? = (segments name).getLast? ∧
      (".." ∉ segments c.root → ".." ∉ segments p) := by
  obtain ⟨hname, rfl⟩ := path?_eq_ok_iff.1 hp
  obtain ⟨front, hsegments, hfront⟩ := Path.segments_join c.root hname.first_ne_empty
  rw [hsegments]
  refine ⟨List.getLast?_append_of_ne_nil _ (Path.segments_ne_nil name), fun hroot hm => ?_⟩
  rcases List.mem_append.1 hm with hm | hm
  · rcases hfront with hfront | hfront
    · exact hroot (hfront ▸ hm)
    · exact hroot (hfront ▸ List.mem_append_left _ hm)
  · exact (hname.segment _ hm).2 rfl

theorem Remains.doesExist (h : Remains name p m) : m.doesExist p = true := by
  rcases h with h | ⟨h, -⟩
  · obtain ⟨l, bytes, hl⟩ := FileTree.isFile_iff.1 h
    exact FileTree.doesExist_iff.2 ⟨l, _, hl⟩
  · obtain ⟨l, hl⟩ := FileTree.isDirectory_iff.1 h
    exact FileTree.doesExist_iff.2 ⟨l, _, hl⟩

theorem remains_of_clearAway (hp : c.path? name = .ok p)
    (h : (clearAway p m).doesExist p = true) : Remains name p m := by
  have hexists : m.doesExist p = true := by
    by_contra hno
    rw [clearAway, if_neg hno] at h
    exact hno h
  rw [clearAway, if_pos hexists] at h
  have hroot : place m.home p ≠ [] := by
    intro hempty
    have hbelow := below_place hp m.home
    rw [hempty] at hbelow
    exact hbelow.2 (List.prefix_nil.1 hbelow.1).symm
  rcases FileTree.exists_of_removeDirectory hroot h with hfile | ⟨hdirectory, hdot⟩
  · exact Or.inl hfile
  · exact Or.inr ⟨hdirectory, (segments_path hp).1 ▸ hdot⟩

theorem Remains.clearAway (h : Remains name p m) (hp : c.path? name = .ok p)
    (hroot : ".." ∉ segments c.root) : (clearAway p m).doesExist p = true := by
  rw [Cloner.clearAway, if_pos h.doesExist]
  rcases h with hfile | ⟨hdirectory, hdot⟩
  · exact FileTree.doesExist_removeDirectory_of_isFile hfile
  · exact FileTree.doesExist_removeDirectory_of_dot ((segments_path hp).2 hroot) hdirectory
      ((segments_path hp).1 ▸ hdot)

theorem not_doesExist_of_makeParent_error {x : SystemError} (hp : c.path? name = .ok p)
    (h : makeParent p m = (.error x, m₁)) : m₁.doesExist p = false := by
  obtain ⟨ds, s, hcomponents⟩ := components_concat hp
  obtain ⟨hmade, halike, -⟩ := tree_makeParent hcomponents h
  obtain ⟨cs, hcs, hne, hno⟩ := FileTree.exists_of_makeUpward_error hmade
  -- The making stopped at a place above the path that is no directory; what exists has none such.
  rw [← Bool.not_eq_true]
  intro hexists
  obtain ⟨l, e, hl⟩ := FileTree.doesExist_iff.1 hexists
  have hprefix : cs <+: components p := hcs.trans (hcomponents ▸ List.prefix_append ds _)
  have hshort : cs ≠ components p := by
    intro hcs'
    have hlength := hcs.length_le
    rw [hcs', hcomponents, List.length_append, List.length_singleton] at hlength
    omega
  have hdirectory := FileTree.isDirectory_of_prefix hl hprefix hne (Or.inl hshort)
  rw [halike.home, hno] at hdirectory
  cases hdirectory

theorem makeParent_elsewhere (hp : c.path? name = .ok p) (hroot : ".." ∉ segments c.root)
    (h : makeParent p m = (r, m₁)) (hk : ¬ Above m.home p k) :
    m₁.tree.entry? k = m.tree.entry? k := by
  obtain ⟨ds, s, hcomponents⟩ := components_concat hp
  exact Makes.elsewhere ((segments_path hp).2 hroot) (makes_of_makeParent hcomponents h)
    hcomponents hk

theorem not_doesExist_of_makeParent (hp : c.path? name = .ok p) (hroot : ".." ∉ segments c.root)
    (hm : m.tree.Grounded) (hnone : m.doesExist p = false) (h : makeParent p m = (r, m₁)) :
    m₁.doesExist p = false := by
  have hup := (segments_path hp).2 hroot
  obtain ⟨ds, s, hcomponents⟩ := components_concat hp
  rw [← Bool.not_eq_true]
  intro hexists
  obtain ⟨l, e, hl⟩ := FileTree.doesExist_iff.1 hexists
  rw [(tree_makeParent hcomponents h).2.1.home] at hl
  obtain rfl := FileTree.status_place hl
  obtain ⟨hcheck, hfollow, hentry⟩ := FileTree.status_eq_ok_iff.1 hl
  -- What is at the end was there before, in directories that were there before.
  rw [makeParent_elsewhere hp hroot h fun habove => habove.2 rfl] at hentry
  have hkept : ∀ j, j <+: place m.home p → m₁.tree.entry? j = some .directory →
      m.tree.entry? j = some .directory := by
    intro j hj hd
    by_cases hend : j = place m.home p
    · rwa [makeParent_elsewhere hp hroot h fun habove => habove.2 hend] at hd
    · exact hm.above hentry hj hend
  have hthere := FileTree.status_eq_ok_iff.2
    ⟨hcheck, FileTree.follow_transfer hfollow hup hkept, hentry⟩
  rw [Machine.doesExist, FileTree.doesExist_iff.2 ⟨_, _, hthere⟩] at hnone
  cases hnone

theorem makeParent_again (hp : c.path? name = .ok p) (hroot : ".." ∉ segments c.root)
    (h : makeParent p m = (.ok (), m₁)) (hhome : m'.home = m.home)
    (hsame : ∀ k, ¬ place m.home p <+: k → m'.tree.entry? k = m₁.tree.entry? k) :
    makeParent p m' = (.ok (), m') := by
  have hup := (segments_path hp).2 hroot
  obtain ⟨ds, s, hcomponents⟩ := components_concat hp
  have hprefix : ds <+: components p := hcomponents ▸ List.prefix_append ds _
  have hds := (Path.listed_components p).of_initial hprefix
  have hthere : ds ≠ [] → m'.tree.isDirectory m'.home (ofComponents ds) = true := by
    intro hne
    have hmade := FileTree.isDirectory_of_makeUpward hds hne (tree_makeParent hcomponents h).1
    obtain ⟨l, hl⟩ := FileTree.isDirectory_iff.1 hmade
    obtain rfl := FileTree.status_place hl
    obtain ⟨hcheck, hfollow, hentry⟩ := FileTree.status_eq_ok_iff.1 hl
    obtain ⟨habove, hshort⟩ := FileTree.above_ofComponents hup hcomponents hne (by simp) m.home
    -- No place that the path above meets is at the path or below it.
    have hsame' : ∀ j, j <+: place m.home (ofComponents ds) →
        m'.tree.entry? j = m₁.tree.entry? j := by
      intro j hj
      refine hsame j fun hbelow => hshort ?_
      exact habove.eq_of_length_le (hbelow.trans hj).length_le
    have hfollow' := FileTree.follow_transfer hfollow (FileTree.straight_ofComponents hup hprefix)
      fun j hj hd => (hsame' j hj).trans hd
    have hentry' := (hsame' _ List.prefix_rfl).trans hentry
    rw [hhome]
    exact FileTree.isDirectory_iff.2
      ⟨_, FileTree.status_eq_ok_iff.2 ⟨hcheck, hfollow', hentry'⟩⟩
  rw [makeParent_eq hcomponents, FileTree.makeUpward_of_isDirectory hthere]

theorem obtain_of_makeParent (hp : c.path? name = .ok p) (hnone : m.doesExist p = false)
    (h : makeParent p m = (.ok (), m₁)) : c.obtain url name m = c.clone url name p m₁ := by
  rw [Cloner.obtain, hp]
  simp only [hnone, h, Bool.false_eq_true, if_false]

theorem clone_record {program : Program}
    (hnul : (c.program :: c.arguments url p).any Machine.hasNul = false)
    (hfound : m.findProgram c.program = .ok (l, program)) :
    (c.clone url name p m).2.record = m.record ++ [(l, c.arguments url p)] := by
  rw [clone, Machine.run_of_findProgram hnul hfound]
  simp only
  split
  · rfl
  · simp

theorem remains_of_failed (hp : c.path? name = .ok p)
    (h : c.obtain url name m = (.error e, m')) (hexists : m'.doesExist p = true) :
    ∃ m₁, makeParent p m = (.ok (), m₁) ∧ (m₁.doesExist p = true ∨ c.Spoils url name p m₁) := by
  have hobtains := h ▸ obtain_obtains hp url m
  cases hobtains with
  | unplaced _ hparent =>
    rw [not_doesExist_of_makeParent_error hp hparent] at hexists
    cases hexists
  | @unstarted x m₁ _ _ hparent hrun =>
    cases Machine.runs_of_run hrun
    exact ⟨m', hparent, Or.inl hexists⟩
  | @failed output m₁ m₂ _ hparent hrun houtput =>
    exact ⟨m₁, hparent, Or.inr ⟨output, m₂, hrun, houtput, remains_of_clearAway hp hexists⟩⟩

theorem failure_of_makeParent (hp : c.path? name = .ok p)
    (hparent : makeParent p m = (.ok (), m₁)) (h : c.obtain url name m = (.error e, m')) :
    m' = m₁ ∨ ∃ output m₂, m₁.run c.program (c.arguments url p) = (.ok output, m₂) ∧
      output.succeeded = false ∧ m' = clearAway p m₂ := by
  have hobtains := h ▸ obtain_obtains hp url m
  cases hobtains with
  | unplaced _ hparent' =>
    rw [hparent] at hparent'
    cases hparent'
  | unstarted _ hparent' hrun =>
    rw [hparent] at hparent'
    cases hparent'
    cases Machine.runs_of_run hrun
    exact Or.inl rfl
  | @failed output _ m₂ _ hparent' hrun houtput =>
    rw [hparent] at hparent'
    cases hparent'
    exact Or.inr ⟨output, m₂, hrun, houtput, rfl⟩

theorem Spoils.doesExist (hspoils : c.Spoils url name p m₁) (hp : c.path? name = .ok p)
    (hroot : ".." ∉ segments c.root) (hnone : m.doesExist p = false)
    (hparent : makeParent p m = (.ok (), m₁)) : (c.obtain url name m).2.doesExist p = true := by
  obtain ⟨output, m₂, hrun, houtput, hremains⟩ := hspoils
  have hcleared : (c.obtain url name m).2 = clearAway p m₂ := by
    rw [obtain_of_makeParent hp hnone hparent, clone, hrun]
    simp [houtput]
  rw [hcleared]
  exact hremains.clearAway hp hroot

theorem reused_iff (hp : c.path? name = .ok p) (url : String) (m : Machine) :
    (∃ copy, (c.obtain url name m).1 = .ok copy ∧ copy.reused = true) ↔ m.doesExist p = true := by
  have hobtains := obtain_obtains hp url m
  generalize c.obtain url name m = made at hobtains
  cases hobtains with
  | reused h => exact iff_of_true ⟨_, rfl, rfl⟩ h
  | unplaced h _ => simp [h]
  | unstarted h _ _ => simp [h]
  | cloned h _ _ _ => simp [h]
  | failed h _ _ _ => simp [h]

section Again

variable (hp : c.path? name = .ok p) (hparent : makeParent p m = (.ok (), m₁))
  (h : c.obtain url name m = (.error e, m'))
include hp hparent h

theorem elsewhere_of_failed
    (hkeeps : m₁.KeepsTo c.program (c.arguments url p) (place m.home p)) :
    m₁.Alike m' ∧ ∀ k, ¬ place m.home p <+: k → m'.tree.entry? k = m₁.tree.entry? k := by
  obtain ⟨ds, s, hcomponents⟩ := components_concat hp
  have hhome := (tree_makeParent hcomponents hparent).2.1.home
  rcases failure_of_makeParent hp hparent h with rfl | ⟨output, m₂, hrun, -, rfl⟩
  · exact ⟨.refl _, fun _ _ => rfl⟩
  · have halike := Machine.Alike.run hrun
    refine ⟨halike.trans (clearAway_alike p m₂), fun k hk => ?_⟩
    have hsame := hkeeps k hk
    rw [hrun] at hsame
    rwa [entry?_clearAway]
    rwa [halike.home, hhome]

theorem findProgram_of_record (hrecord : m'.record = m.record ++ [(l, c.arguments url p)]) :
    (c.program :: c.arguments url p).any Machine.hasNul = false ∧
      ∃ program, m₁.findProgram c.program = .ok (l, program) := by
  obtain ⟨ds, s, hcomponents⟩ := components_concat hp
  have hbefore := (tree_makeParent hcomponents hparent).2.2
  rcases failure_of_makeParent hp hparent h with rfl | ⟨output, m₂, hrun, -, rfl⟩
  · simp [hbefore] at hrecord
  · rw [clearAway_record] at hrecord
    cases Machine.runs_of_run hrun with
    | @done l' program hnul hfound =>
      simp only [hbefore, List.append_cancel_left_eq, List.cons.injEq, Prod.mk.injEq] at hrecord
      obtain ⟨⟨rfl, -⟩, -⟩ := hrecord
      exact ⟨hnul, program, hfound⟩

theorem clone_again_record (hroot : ".." ∉ segments c.root) (hm : m.tree.Grounded)
    (hkeeps : m₁.KeepsTo c.program (c.arguments url p) (place m.home p))
    (hbefore : m.tree.entry? (place m.home p) = none)
    (hafter : m'.tree.entry? (place m.home p) = none) (hm' : m'.tree.Grounded)
    (hrecord : m'.record = m.record ++ [(l, c.arguments url p)]) {url' : String}
    (hurl : Machine.hasNul url' = false) :
    (c.clone url' name p m').2.record = m'.record ++ [(l, c.arguments url' p)] := by
  obtain ⟨ds, s, hcomponents⟩ := components_concat hp
  obtain ⟨halike, helsewhere⟩ := elsewhere_of_failed hp hparent h hkeeps
  obtain ⟨hnul, program, hfound⟩ := findProgram_of_record hp hparent h hrecord
  have hm₁ : m₁.tree.Grounded :=
    Makes.grounded (makes_of_makeParent hcomponents hparent)
      (hcomponents ▸ Path.listed_components p).front hm
  have hmade : m₁.tree.entry? (place m.home p) = none :=
    (makeParent_elsewhere hp hroot hparent fun habove => habove.2 rfl).trans hbefore
  -- With nothing at the path nothing is below it, so the machine is as it was before the run.
  have hsame : ∀ k, m'.tree.entry? k = m₁.tree.entry? k := by
    intro k
    by_cases hk : place m.home p <+: k
    · rw [hm'.below hafter hk, hm₁.below hmade hk]
    · exact helsewhere k hk
  have hnul' : (c.program :: c.arguments url' p).any Machine.hasNul = false := by
    simp only [arguments, List.any_cons, Bool.or_eq_false_iff] at hnul ⊢
    exact ⟨hnul.1, hnul.2.1, hnul.2.2.1, hnul.2.2.2.1, hurl, hnul.2.2.2.2.2⟩
  exact clone_record hnul' ((halike.findProgram_eq hsame c.program).trans hfound)

end Again

/-- After an attempt that failed, the path leads to something only where the directories above it
were made, and these lead there themselves or the clone program failed and left what cannot be
cleared away. What is there the next attempt reuses; if nothing is, it clones anew. -/
theorem obtain_failed (hp : c.path? name = .ok p) (hnone : m.doesExist p = false)
    (h : c.obtain url name m = (.error e, m')) :
    (m'.doesExist p = true → ∃ m₁, makeParent p m = (.ok (), m₁) ∧
      (m₁.doesExist p = true ∨ c.Spoils url name p m₁)) ∧
    (∀ url', (∃ copy, (c.obtain url' name m').1 = .ok copy ∧ copy.reused = true) ↔
      m'.doesExist p = true) ∧
    (".." ∉ segments c.root → m.tree.Grounded →
      (m'.doesExist p = true ↔
        ∃ m₁, makeParent p m = (.ok (), m₁) ∧ c.Spoils url name p m₁) ∧
      ∀ m₁, makeParent p m = (.ok (), m₁) →
        m₁.KeepsTo c.program (c.arguments url p) (place m.home p) → m'.doesExist p = false →
        ∀ url', c.obtain url' name m' = c.clone url' name p m' ∧
          (m.tree.entry? (place m.home p) = none → m'.tree.entry? (place m.home p) = none →
            m'.tree.Grounded → Machine.hasNul url' = false →
            ∀ l, m'.record = m.record ++ [(l, c.arguments url p)] →
              (c.obtain url' name m').2.record = m'.record ++ [(l, c.arguments url' p)])) := by
  refine ⟨remains_of_failed hp h, fun url' => reused_iff hp url' m', fun hroot hm =>
    ⟨⟨fun hexists => ?_, ?_⟩, fun m₁ hparent hkeeps hgone url' => ?_⟩⟩
  · obtain ⟨m₁, hparent, hmade | hspoils⟩ := remains_of_failed hp h hexists
    · rw [not_doesExist_of_makeParent hp hroot hm hnone hparent] at hmade
      cases hmade
    · exact ⟨m₁, hparent, hspoils⟩
  · rintro ⟨m₁, hparent, hspoils⟩
    have hexists := hspoils.doesExist hp hroot hnone hparent
    rwa [h] at hexists
  · obtain ⟨ds, s, hcomponents⟩ := components_concat hp
    obtain ⟨halike, helsewhere⟩ := elsewhere_of_failed hp hparent h hkeeps
    have hhome := halike.home.trans (tree_makeParent hcomponents hparent).2.1.home
    have hagain := makeParent_again hp hroot hparent hhome helsewhere
    have hclone : c.obtain url' name m' = c.clone url' name p m' :=
      obtain_of_makeParent hp hgone hagain
    refine ⟨hclone, fun hbefore hafter hm' hurl l hrecord => ?_⟩
    rw [hclone]
    exact clone_again_record hp hparent h hroot hm hkeeps hbefore hafter hm' hrecord hurl

def failing (leaves : Bool) : Program where
  run arguments home t :=
    (⟨[], Text.Utf8.encode "fatal: early EOF\n", some 128⟩,
      match leaves, arguments.getLast? with
      | true, some path => (t.write home path []).toOption.getD t
      | _, _ => t)

def bench (leaves : Bool) : Machine where
  tree := ⟨[(["bin"], .directory), (["bin", "git"], .file [])]⟩
  home := []
  searchPath := none
  programs := [(["bin", "git"], failing leaves)]
  record := []

def repos : Cloner := ⟨"/repos", 1, "git"⟩

theorem path?_repos : repos.path? "big/repo" = .ok "/repos/big/repo" := by
  rw [path?_of_admits repos (isName_iff.1 (by decide))]
  decide

def attempted (leaves : Bool) : Machine := (repos.obtain "url" "big/repo" (bench leaves)).2

theorem obtain_bench (leaves : Bool) :
    repos.obtain "url" "big/repo" (bench leaves) =
      (.error (.clone "big/repo" "fatal: early EOF"), attempted leaves) := by
  refine Prod.ext ?_ rfl
  cases leaves <;> decide +kernel

theorem obtain_failed_bench :
    repos.path? "big/repo" = .ok "/repos/big/repo" ∧
      (bench true).doesExist "/repos/big/repo" = false ∧
      (∃ copy, (repos.obtain "url" "big/repo" (attempted true)).1 = .ok copy ∧
        copy.reused = true) ∧
      (bench false).doesExist "/repos/big/repo" = false ∧
      (repos.obtain "other" "big/repo" (attempted false)).2.record =
        [(["bin", "git"], ["clone", "--depth", "1", "url", "/repos/big/repo"]),
          (["bin", "git"], ["clone", "--depth", "1", "other", "/repos/big/repo"])] := by
  have hfile : (bench true).doesExist "/repos/big/repo" = false := by decide +kernel
  have hnothing : (bench false).doesExist "/repos/big/repo" = false := by decide +kernel
  have hleft : (attempted true).doesExist "/repos/big/repo" = true := by decide +kernel
  have hgone : (attempted false).doesExist "/repos/big/repo" = false := by decide +kernel
  have hreused := (obtain_failed path?_repos hfile (obtain_bench true)).2.1 "url"
  refine ⟨path?_repos, hfile, hreused.2 hleft, hnothing, ?_⟩
  have hparent : makeParent "/repos/big/repo" (bench false) =
      (.ok (), (makeParent "/repos/big/repo" (bench false)).2) :=
    Prod.ext (by decide +kernel) rfl
  have hidle : ((makeParent "/repos/big/repo" (bench false)).2.run repos.program
      (repos.arguments "url" "/repos/big/repo")).2.tree =
        (makeParent "/repos/big/repo" (bench false)).2.tree := by decide +kernel
  have hrecord : (attempted false).record =
      [(["bin", "git"], repos.arguments "url" "/repos/big/repo")] := by decide +kernel
  have hstraight :=
    ((obtain_failed path?_repos hnothing (obtain_bench false)).2.2 (by decide)
      (.of_entries (by decide +kernel))).2
  have hagain := (hstraight _ hparent (fun k _ => by rw [hidle]) hgone "other").2
  rw [hagain (by decide +kernel) (by decide +kernel) (.of_entries (by decide +kernel)) (by decide)
    ["bin", "git"] hrecord, hrecord]
  decide

theorem obtain_reuses_file :
    ¬ ∀ (c : Cloner) (url name p : String) (m m' : Machine) (e : Fault),
      c.path? name = .ok p → m.doesExist p = false → c.obtain url name m = (.error e, m') →
        m'.doesExist p = false ∧
          ∀ copy, (c.obtain url name m').1 = .ok copy → copy.reused = false := by
  intro h
  have hfile : (bench true).doesExist "/repos/big/repo" = false := by decide +kernel
  have hleft : (attempted true).doesExist "/repos/big/repo" = true := by decide +kernel
  have hnone := (h repos "url" "big/repo" _ _ _ _ path?_repos hfile (obtain_bench true)).1
  rw [hleft] at hnone
  cases hnone

end CodeSurvey.Mining.Cloner
