import CodeSurvey.Proofs.Path.Ancestry
import CodeSurvey.Proofs.System.Following
import Mathlib.Logic.Relation

/-! Directories that are made together with what is missing above them. -/

namespace CodeSurvey.FileTree

open CodeSurvey.Path (Component Listed component? components listed_components ofComponents
  segments)
open Relation (ReflTransGen)

variable {t t' : FileTree} {home l k : Location} {p q : String} {e : Entry} {x : SystemError}
  {c : Component} {cs ds : List Component}

theorem strides_eq (ss : List String) :
    strides ss = (ss.filterMap component?).map Component.segment := by
  induction ss with
  | nil => rfl
  | cons s ss ih =>
    by_cases hstay : s = "" ∨ s = "."
    · have hnone : component? s = none := if_pos hstay
      rw [strides_cons_of_stay hstay, ih, List.filterMap_cons_none hnone]
    · obtain ⟨c, hc⟩ : ∃ c, component? s = some c := by
        rw [component?, if_neg hstay]
        split <;> exact ⟨_, rfl⟩
      rw [strides_cons_of_move hstay, ih, List.filterMap_cons_some hc, List.map_cons,
        Path.segment_of_component? hc]

theorem strides_segments (p : String) :
    strides (segments p) = strides ((components p).map Component.segment) := by
  have hleading : strides ((Path.leading p).map Component.segment) = [] := by
    rw [Path.leading]
    split
    · decide
    split <;> decide
  have htwice : strides (strides (segments p)) = strides (segments p) := by
    simp [strides]
  rw [Path.components_eq, List.map_append, strides_append, hleading, List.nil_append, ← strides_eq,
    htwice]

theorem strides_ne_nil (h : Listed (cs ++ ds)) (hcs : cs ≠ []) (hds : ds ≠ []) :
    strides (ds.map Component.segment) ≠ [] := by
  obtain ⟨ds, d, rfl⟩ := (List.eq_nil_or_concat' ds).resolve_left hds
  rw [← List.append_assoc] at h
  have hmoves := h.last_moves (by simp [hcs])
  have hmove : ¬ (d.segment = "" ∨ d.segment = ".") := by
    rw [hmoves.segment_eq]
    exact not_or.2 ⟨hmoves.ne_empty, hmoves.ne_dot⟩
  rw [List.map_append, strides_append, List.map_singleton, strides_cons_of_move hmove]
  simp

theorem checkPath_eq_ok_iff :
    checkPath p = .ok () ↔ '\x00' ∉ p.toList ∧ p ≠ "" ∧ p.utf8ByteSize ≤ maxPath := by
  rw [checkPath]
  by_cases hnul : '\x00' ∈ p.toList
  · simp [hnul]
  by_cases hempty : p = ""
  · simp [hempty]
  by_cases hlong : maxPath < p.utf8ByteSize
  · simp [hnul, hempty, hlong]
  · simp [hnul, hempty, hlong, Nat.not_lt.1 hlong]

theorem checkPath_of_sublist (h : checkPath p = .ok ()) (hq : q.toList.Sublist p.toList)
    (hne : q ≠ "") : checkPath q = .ok () := by
  obtain ⟨hnul, -, hsize⟩ := checkPath_eq_ok_iff.1 h
  exact checkPath_eq_ok_iff.2 ⟨fun hm => hnul (hq.subset hm), hne,
    (Path.utf8ByteSize_le_of_sublist hq).trans hsize⟩

theorem origin_ofComponents (hcs : cs <+: components p) (hne : cs ≠ []) (home : Location) :
    origin home (ofComponents cs) = origin home p := by
  rw [origin, origin, Path.isAbsolute_ofComponents hcs hne]

theorem isDirectory_root (t : FileTree) (home : Location) :
    t.isDirectory home (ofComponents [.root]) = true := by
  have hroot : ofComponents [.root] = "/" := by decide
  have hcheck : checkPath "/" = .ok () := by decide
  have horigin : origin home "/" = [] := if_pos (by decide)
  have hempty : "".utf8ByteSize ≤ maxName := by decide
  rw [hroot]
  refine isDirectory_iff.2 ⟨[], status_eq_ok_iff.2 ⟨hcheck, ?_, entry?_nil t⟩⟩
  rw [horigin, Path.segments_root]
  have hstep : step [] "" = [] := step_of_stay (Or.inl rfl) []
  refine follow_cons_eq_ok_iff.2 ⟨entry?_nil t, hempty, ?_⟩
  rw [hstep]
  refine follow_cons_eq_ok_iff.2 ⟨entry?_nil t, hempty, ?_⟩
  rw [hstep, follow]

theorem isDirectory_of_prefix (h : t.status home p = .ok (l, e)) (hcs : cs <+: components p)
    (hne : cs ≠ []) (he : cs ≠ components p ∨ e = .directory) :
    t.isDirectory home (ofComponents cs) = true := by
  by_cases hroot : cs = [.root]
  · exact hroot ▸ isDirectory_root t home
  obtain ⟨hcheck, hfollow, hentry⟩ := status_eq_ok_iff.1 h
  have hlisted := listed_components p
  have hcs' := hlisted.of_initial hcs
  have hchecked := checkPath_of_sublist hcheck (Path.toList_ofComponents_sublist hcs hne)
    (Path.ofComponents_ne_empty hcs' hne)
  -- The strides of the whole path begin with those of the path above, which are followed first.
  have hfollow := follow_strides hfollow
  obtain ⟨ds, hds⟩ := hcs
  rw [strides_segments, ← hds, List.map_append, strides_append] at hfollow
  obtain ⟨j, hj, hrest⟩ := follow_append_eq_ok_iff.1 hfollow
  have hdirectory : t.entry? j = some .directory := by
    by_cases hnil : ds = []
    · subst hnil
      obtain rfl : j = l := by
        cases hrest
        rfl
      rw [List.append_nil] at hds
      rw [hentry, he.resolve_left (fun hne => hne hds)]
    · exact entry?_of_follow hrest (strides_ne_nil (hds ▸ hlisted) hne hnil)
  rw [← Path.segments_ofComponents hcs' hne hroot,
    ← origin_ofComponents (hds ▸ List.prefix_append cs ds) hne] at hj
  exact isDirectory_iff.2
    ⟨j, status_eq_ok_iff.2 ⟨hchecked, follow_of_strides hj hdirectory, hdirectory⟩⟩

theorem makeDirectory_eq_ok (h : t.makeDirectory home p = .ok t') :
    ∃ l, t.locate home (Path.dropSlashEnd p) = .ok l ∧ t.entry? l = none ∧
      t' = t.put l .directory := by
  rw [makeDirectory] at h
  split at h
  · cases h
  · split at h
    · cases h
    · rename_i l hl
      split at h
      · cases h
      · rename_i hnone
        cases h
        exact ⟨l, hl, by simpa using hnone, rfl⟩
  · split at h <;> cases h
  · cases h

theorem makeDirectory_of_isDirectory (h : t.isDirectory home p = true) :
    t.makeDirectory home p = .error .alreadyExists := by
  obtain ⟨l, hl⟩ := isDirectory_iff.1 h
  rw [makeDirectory, hl]

theorem makeDirectory_ofComponents (hcs : Listed cs) (hne : cs ≠ [])
    (h : t.makeDirectory home (ofComponents cs) = .ok t') :
    ∃ l, t.locate home (ofComponents cs) = .ok l ∧ t.entry? l = none ∧
      t' = t.put l .directory := by
  have hroot : cs ≠ [.root] := by
    rintro rfl
    rw [makeDirectory_of_isDirectory (isDirectory_root t home)] at h
    cases h
  have hmade := makeDirectory_eq_ok h
  rwa [Path.dropSlashEnd_ofComponents hcs hne hroot] at hmade

theorem entry?_put_directory (h : t.entry? l = none) (k : Location) :
    entry? (t.put l .directory) k = if k = l then some .directory else t.entry? k := by
  refine entry?_put ?_ t .directory k
  rintro rfl
  simp at h

theorem directory_put (h : t.entry? l = none) (hk : t.entry? k = some .directory) :
    entry? (t.put l .directory) k = some .directory := by
  rw [entry?_put_directory h]
  split
  · rfl
  · exact hk

def Makes (home : Location) (ds : List Component) (t t' : FileTree) : Prop :=
  ∃ cs, cs <+: ds ∧ cs ≠ [] ∧ t.makeDirectory home (ofComponents cs) = .ok t'

theorem Makes.mono (h : Makes home cs t t') (hcs : cs <+: ds) : Makes home ds t t' := by
  obtain ⟨bs, hbs, hne, hmade⟩ := h
  exact ⟨bs, hbs.trans hcs, hne, hmade⟩

theorem Makes.exists_put (h : Makes home ds t t') (hds : Listed ds) :
    ∃ cs l, cs <+: ds ∧ cs ≠ [] ∧ t.locate home (ofComponents cs) = .ok l ∧
      t.entry? l = none ∧ t' = t.put l .directory := by
  obtain ⟨cs, hcs, hne, hmade⟩ := h
  obtain ⟨l, hl, hnone, ht'⟩ := makeDirectory_ofComponents (hds.of_initial hcs) hne hmade
  exact ⟨cs, l, hcs, hne, hl, hnone, ht'⟩

theorem isDirectory_makeDirectory (hcs : Listed cs) (hne : cs ≠ [])
    (h : t.makeDirectory home (ofComponents cs) = .ok t') :
    t'.isDirectory home (ofComponents cs) = true := by
  obtain ⟨l, hl, hnone, rfl⟩ := makeDirectory_ofComponents hcs hne h
  obtain ⟨hcheck, hfollow⟩ := locate_eq_ok_iff.1 hl
  have hfollow' := follow_mono hfollow fun _ => directory_put hnone
  refine isDirectory_iff.2 ⟨l, status_eq_ok_iff.2 ⟨hcheck, hfollow', ?_⟩⟩
  rw [entry?_put_directory hnone, if_pos rfl]

inductive Settles (home : Location) (p : String)
    (above : FileTree → Except SystemError Unit × FileTree) (t : FileTree) :
    Except SystemError Unit × FileTree → Prop where
  | made {start t' : FileTree} (hstart : start = t ∨ above t = (.ok (), start))
      (h : start.makeDirectory home p = .ok t') : Settles home p above t (.ok (), t')
  | there {start : FileTree} (hstart : start = t ∨ above t = (.ok (), start))
      (h : start.isDirectory home p = true) : Settles home p above t (.ok (), start)
  | refused {start : FileTree} (x : SystemError) (hstart : start = t ∨ above t = (.ok (), start))
      (h : start.isDirectory home p = false) : Settles home p above t (.error x, start)
  | stopped {x : SystemError} {t' : FileTree} (h : above t = (.error x, t')) :
      Settles home p above t (.error x, t')

theorem makeAfter_settles (home : Location) (p : String)
    (above : FileTree → Except SystemError Unit × FileTree) (t : FileTree) :
    Settles home p above t (makeAfter home p above t) := by
  have hsettle : ∀ (start : FileTree) (x : SystemError),
      (start = t ∨ above t = (.ok (), start)) →
      Settles home p above t (if start.isDirectory home p then .ok () else .error x, start) := by
    intro start x hstart
    cases h : start.isDirectory home p with
    | true => exact .there hstart h
    | false => exact .refused x hstart h
  rw [makeAfter]
  split
  · rename_i hmade
    exact .made (Or.inl rfl) hmade
  · split
    · rename_i habove
      exact .stopped habove
    · rename_i start habove
      split
      · rename_i hmade
        exact .made (Or.inr habove) hmade
      · exact hsettle _ _ (Or.inr habove)
  · exact hsettle _ _ (Or.inl rfl)

theorem makeUpward_concat (home : Location) (cs : List Component) (c : Component) (t : FileTree) :
    makeUpward home (cs ++ [c]).reverse t =
      makeAfter home (ofComponents (cs ++ [c])) (makeUpward home cs.reverse) t := by
  rw [List.reverse_concat, makeUpward, List.reverse_cons, List.reverse_reverse]

theorem makeDirectories_ofComponents (h : Listed cs) (home : Location) (t : FileTree) :
    t.makeDirectories home (ofComponents cs) = makeUpward home cs.reverse t := by
  rcases List.eq_nil_or_concat' cs with rfl | ⟨cs, c, rfl⟩
  · rw [makeDirectories, if_pos (by rfl), List.reverse_nil, makeUpward]
  · rw [makeDirectories, if_neg (Path.ofComponents_ne_empty h (by simp)),
      Path.components_ofComponents h, makeUpward_concat, List.reverse_concat, List.tail_cons]

theorem makeUpward_makes (home : Location) (ds : List Component) (t : FileTree) :
    ReflTransGen (Makes home ds) t (makeUpward home ds.reverse t).2 := by
  -- Whether or not the making comes to its end, what was made above stays made.
  induction ds using List.reverseRecOn with
  | nil => exact .refl
  | append_singleton ds d ih =>
    have habove : ReflTransGen (Makes home (ds ++ [d])) t (makeUpward home ds.reverse t).2 :=
      ih.lift id fun _ _ h => h.mono (List.prefix_append ds [d])
    have hstart : ∀ start, start = t ∨ makeUpward home ds.reverse t = (.ok (), start) →
        ReflTransGen (Makes home (ds ++ [d])) t start := by
      rintro start (rfl | h)
      · exact .refl
      · rwa [h] at habove
    rw [makeUpward_concat]
    have hsettles :=
      makeAfter_settles home (ofComponents (ds ++ [d])) (makeUpward home ds.reverse) t
    generalize makeAfter home (ofComponents (ds ++ [d])) (makeUpward home ds.reverse) t = r
      at hsettles
    cases hsettles with
    | made h hmade =>
      exact (hstart _ h).tail ⟨ds ++ [d], List.prefix_rfl, by simp, hmade⟩
    | there h _ => exact hstart _ h
    | refused x h _ => exact hstart _ h
    | stopped h => rwa [h] at habove

theorem isDirectory_of_makeUpward (hds : Listed ds) (hne : ds ≠ [])
    (h : makeUpward home ds.reverse t = (.ok (), t')) :
    t'.isDirectory home (ofComponents ds) = true := by
  obtain ⟨ds, d, rfl⟩ := (List.eq_nil_or_concat' ds).resolve_left hne
  rw [makeUpward_concat] at h
  have hsettles := makeAfter_settles home (ofComponents (ds ++ [d])) (makeUpward home ds.reverse) t
  rw [h] at hsettles
  cases hsettles with
  | made _ hmade => exact isDirectory_makeDirectory hds hne hmade
  | there _ hthere => exact hthere

theorem exists_of_makeUpward_error (h : makeUpward home ds.reverse t = (.error x, t')) :
    ∃ cs, cs <+: ds ∧ cs ≠ [] ∧ t'.isDirectory home (ofComponents cs) = false := by
  induction ds using List.reverseRecOn with
  | nil =>
    rw [List.reverse_nil, makeUpward] at h
    cases h
  | append_singleton ds d ih =>
    rw [makeUpward_concat] at h
    have hsettles :=
      makeAfter_settles home (ofComponents (ds ++ [d])) (makeUpward home ds.reverse) t
    rw [h] at hsettles
    cases hsettles with
    | refused _ _ hno => exact ⟨ds ++ [d], List.prefix_rfl, by simp, hno⟩
    | stopped habove =>
      obtain ⟨cs, hcs, hne, hno⟩ := ih habove
      exact ⟨cs, hcs.trans (List.prefix_append ds [d]), hne, hno⟩

theorem makeUpward_of_isDirectory
    (h : ds ≠ [] → t.isDirectory home (ofComponents ds) = true) :
    makeUpward home ds.reverse t = (.ok (), t) := by
  rcases List.eq_nil_or_concat' ds with rfl | ⟨ds, d, rfl⟩
  · rw [List.reverse_nil, makeUpward]
  · have hthere := h (by simp)
    rw [makeUpward_concat, makeAfter, makeDirectory_of_isDirectory hthere]
    simp [hthere]

namespace Makes

theorem adds (h : ReflTransGen (Makes home ds) t t') (hds : Listed ds) (k : Location) :
    t'.entry? k = t.entry? k ∨ t.entry? k = none ∧ t'.entry? k = some .directory := by
  induction h with
  | refl => exact Or.inl rfl
  | @tail t₁ t₂ _ hmakes ih =>
    obtain ⟨cs, l, -, -, -, hnone, rfl⟩ := hmakes.exists_put hds
    rw [entry?_put_directory hnone]
    by_cases hkl : k = l
    · subst hkl
      rw [if_pos rfl]
      rcases ih with hsame | ⟨-, hsome⟩
      · exact Or.inr ⟨hsame.symm.trans hnone, rfl⟩
      · rw [hnone] at hsome
        cases hsome
    · rwa [if_neg hkl]

theorem grounded (h : ReflTransGen (Makes home ds) t t') (hds : Listed ds) (ht : t.Grounded) :
    t'.Grounded := by
  induction h with
  | refl => exact ht
  | @tail t t' _ hmakes ih =>
    obtain ⟨cs, l, -, -, hl, hnone, rfl⟩ := hmakes.exists_put hds
    intro k e he hk
    refine directory_put hnone ?_
    rw [entry?_put_directory hnone] at he
    split at he
    · subst k
      have habove := ih.follow_above (locate_eq_ok_iff.1 hl).2 (Path.segments_ne_nil _)
      exact habove.resolve_left hk
    · exact ih k e he hk

end Makes

section Straight

variable (hup : ".." ∉ segments p)

include hup in
theorem straight_ofComponents (hcs : cs <+: components p) : ".." ∉ segments (ofComponents cs) := by
  intro hm
  have hstride : ".." ∈ strides (segments (ofComponents cs)) :=
    List.mem_filter.2 ⟨hm, by decide⟩
  rw [strides_segments, Path.components_ofComponents ((listed_components p).of_initial hcs)]
    at hstride
  have hsub : (strides (cs.map Component.segment)).Sublist
      (strides ((components p).map Component.segment)) :=
    (hcs.sublist.map Component.segment).filter _
  have hstride := hsub.subset hstride
  rw [← strides_segments] at hstride
  exact hup (List.mem_filter.1 hstride).1

def Above (home : Location) (p : String) (k : Location) : Prop :=
  k <+: place home p ∧ k ≠ place home p

include hup in
theorem above_ofComponents (h : components p = cs ++ ds) (hcs : cs ≠ []) (hds : ds ≠ [])
    (home : Location) : Above home p (place home (ofComponents cs)) := by
  have hprefix : cs <+: components p := h ▸ List.prefix_append cs ds
  have hlisted := (listed_components p).of_initial hprefix
  have hplace : place home p =
      place home (ofComponents cs) ++ strides (ds.map Component.segment) := by
    rw [place, place, destination_straight hup,
      destination_straight (straight_ofComponents hup hprefix), origin_ofComponents hprefix hcs,
      strides_segments (ofComponents cs), Path.components_ofComponents hlisted, strides_segments p,
      h, List.map_append, strides_append, List.append_assoc]
  have hstrides := strides_ne_nil (h ▸ listed_components p) hcs hds
  rw [Above, hplace]
  exact ⟨List.prefix_append _ _, by simpa using hstrides⟩

include hup in
theorem Makes.elsewhere (h : ReflTransGen (Makes home ds) t t') (hp : components p = ds ++ [c])
    (hk : ¬ Above home p k) : t'.entry? k = t.entry? k := by
  have hds : Listed ds := (listed_components p).of_initial (hp ▸ List.prefix_append ds [c])
  induction h with
  | refl => rfl
  | tail _ hmakes ih =>
    obtain ⟨cs, l, ⟨bs, rfl⟩, hne, hl, hnone, rfl⟩ := hmakes.exists_put hds
    obtain rfl := locate_place hl
    rw [List.append_assoc] at hp
    have habove := above_ofComponents hup hp hne (by simp) home
    rw [entry?_put_directory hnone, if_neg, ih]
    rintro rfl
    exact hk habove

end Straight

end CodeSurvey.FileTree
