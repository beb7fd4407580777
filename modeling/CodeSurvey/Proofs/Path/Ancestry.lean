import CodeSurvey.Proofs.Path
import Mathlib.Data.List.Induction
import Mathlib.Data.String.Basic

/-! Paths put together from components, and the paths above a path. -/

namespace CodeSurvey.Path

variable {p q s : String} {c : Component} {cs ds : List Component}

theorem segments_of_notMem (h : '/' ∉ s.toList) : segments s = [s] := by
  rw [segments, Text.splitText, List.splitOn_eq_singleton h, List.map_singleton,
    String.ofList_toList]

theorem notMem_of_mem_segments (h : s ∈ segments p) : '/' ∉ s.toList := by
  obtain ⟨piece, hpiece, rfl⟩ := List.mem_map.1 h
  rw [String.toList_ofList]
  exact Text.not_mem_of_mem_splitOn hpiece

@[simp] theorem segments_root : segments "/" = ["", ""] := by decide

theorem component?_eq_some (h : component? s = some c) :
    c = .normal s ∨ c = .up ∧ s = ".." := by
  rw [component?] at h
  split at h
  · cases h
  split at h
  · rename_i hup
    cases h
    exact Or.inr ⟨rfl, hup⟩
  · cases h
    exact Or.inl rfl

theorem isAbsolute_iff : isAbsolute p = true ↔ (components p).head? = some .root := by
  rw [components]
  by_cases h : isAbsolute p = true
  · simp [h]
  simp only [h, Bool.false_eq_true, if_false, false_iff]
  split
  · simp
  · intro hhead
    obtain ⟨s, -, hs⟩ := List.mem_filterMap.1 (List.mem_of_mem_head? hhead)
    rcases component?_eq_some hs with hroot | ⟨hroot, -⟩ <;> cases hroot

def Component.segment : Component → String
  | .root => ""
  | c => c.text

theorem text_of_component? (h : component? s = some c) : c.text = s := by
  rcases component?_eq_some h with rfl | ⟨rfl, rfl⟩ <;> rfl

theorem segment_of_component? (h : component? s = some c) : c.segment = s := by
  rcases component?_eq_some h with rfl | ⟨rfl, rfl⟩ <;> rfl

def Component.Moves (c : Component) : Prop :=
  component? c.text = some c ∧ '/' ∉ c.text.toList

namespace Component.Moves

theorem ne_empty (h : c.Moves) : c.text ≠ "" := by
  intro he
  rw [Moves, he] at h
  cases h.1

theorem ne_dot (h : c.Moves) : c.text ≠ "." := by
  intro he
  rw [Moves, he] at h
  cases h.1

theorem segment_eq (h : c.Moves) : c.segment = c.text := segment_of_component? h.1

theorem segments_text (h : c.Moves) : segments c.text = [c.text] := segments_of_notMem h.2

theorem isAbsolute_text (h : c.Moves) : ¬ isAbsolute c.text = true := by
  intro ha
  have hhead := head?_segments_of_isAbsolute ha
  rw [h.segments_text] at hhead
  exact h.ne_empty (Option.some.inj hhead)

end Component.Moves

theorem moves_of_component? (h : component? s = some c) (hs : '/' ∉ s.toList) : c.Moves := by
  have htext := text_of_component? h
  exact ⟨htext ▸ h, htext ▸ hs⟩

inductive Listed : List Component → Prop where
  | nil : Listed []
  | root : Listed [.root]
  | here : Listed [.here]
  | concat {cs : List Component} {c : Component} (h : Listed cs) (hc : c.Moves) :
    Listed (cs ++ [c])

theorem Listed.append (h : Listed cs) (hds : ∀ d ∈ ds, d.Moves) : Listed (cs ++ ds) := by
  induction ds generalizing cs with
  | nil => simpa using h
  | cons d ds ih =>
    obtain ⟨hd, hds⟩ := List.forall_mem_cons.1 hds
    simpa using ih (h.concat hd) hds

theorem listed_components (p : String) : Listed (components p) := by
  rw [components_eq]
  have hleading : Listed (leading p) := by
    rw [leading]
    split
    · exact .root
    split
    · exact .here
    · exact .nil
  refine hleading.append fun d hd => ?_
  obtain ⟨s, hs, hd⟩ := List.mem_filterMap.1 hd
  exact moves_of_component? hd (notMem_of_mem_segments hs)

theorem Listed.concat_cases (h : Listed (cs ++ [c])) :
    cs = [] ∧ (c = .root ∨ c = .here) ∨ Listed cs ∧ c.Moves := by
  generalize hx : cs ++ [c] = xs at h
  cases h with
  | nil => simp at hx
  | root =>
    obtain ⟨rfl, hc⟩ := List.append_inj' (hx.trans (List.nil_append [Component.root]).symm) rfl
    exact Or.inl ⟨rfl, Or.inl (List.singleton_inj.1 hc)⟩
  | here =>
    obtain ⟨rfl, hc⟩ := List.append_inj' (hx.trans (List.nil_append [Component.here]).symm) rfl
    exact Or.inl ⟨rfl, Or.inr (List.singleton_inj.1 hc)⟩
  | concat h hc =>
    obtain ⟨rfl, he⟩ := List.append_inj' hx rfl
    cases List.singleton_inj.1 he
    exact Or.inr ⟨h, hc⟩

theorem Listed.front (h : Listed (cs ++ [c])) : Listed cs := by
  rcases h.concat_cases with ⟨rfl, -⟩ | ⟨h, -⟩
  · exact .nil
  · exact h

theorem Listed.last_moves (h : Listed (cs ++ [c])) (hcs : cs ≠ []) : c.Moves := by
  rcases h.concat_cases with ⟨he, -⟩ | ⟨-, hc⟩
  · exact absurd he hcs
  · exact hc

theorem Listed.of_initial (h : Listed ds) (hcs : cs <+: ds) : Listed cs := by
  induction ds using List.reverseRecOn with
  | nil => exact List.prefix_nil.1 hcs ▸ .nil
  | append_singleton ds d ih =>
    rcases List.prefix_concat_iff.1 hcs with rfl | hcs
    · exact h
    · exact ih h.front hcs

theorem Listed.getLast?_segment (h : Listed cs) (hroot : cs ≠ [.root]) :
    (cs.map Component.segment).getLast? ≠ some "" := by
  rw [List.getLast?_map]
  intro he
  obtain ⟨d, hd, hempty⟩ := Option.map_eq_some_iff.1 he
  obtain ⟨front, rfl⟩ := List.getLast?_eq_some_iff.1 hd
  rcases h.concat_cases with ⟨rfl, rfl | rfl⟩ | ⟨-, hmoves⟩
  · exact hroot rfl
  · exact absurd hempty (by decide)
  · exact hmoves.ne_empty (hmoves.segment_eq ▸ hempty)

theorem ofComponents_concat (cs : List Component) (c : Component) :
    ofComponents (cs ++ [c]) = join (ofComponents cs) c.text := by
  rw [ofComponents, ofComponents, List.foldl_append]
  rfl

theorem components_ofComponents (h : Listed cs) : components (ofComponents cs) = cs := by
  induction h with
  | nil => decide
  | root => decide
  | here => decide
  | @concat cs c h hc ih =>
    have hempty : (segments c.text).head? ≠ some "" := by simp [hc.segments_text, hc.ne_empty]
    have hdot : (segments c.text).head? ≠ some "." := by simp [hc.segments_text, hc.ne_dot]
    rw [ofComponents_concat, components_join _ hempty hdot, ih, hc.segments_text,
      List.filterMap_cons_some hc.1, List.filterMap_nil]

theorem ofComponents_ne_empty (h : Listed cs) (hne : cs ≠ []) : ofComponents cs ≠ "" := by
  intro he
  have hcs := components_ofComponents h
  rw [he] at hcs
  exact hne (hcs ▸ by decide)

theorem join_eq_append (hrelative : ¬ isAbsolute q = true) (hp : p ≠ "")
    (hlast : (segments p).getLast? ≠ some "") : join p q = p ++ "/" ++ q := by
  rw [join, if_neg hrelative, if_neg]
  rintro (he | hend)
  · exact hp he
  · obtain ⟨front, rfl⟩ := exists_of_slash hend
    rw [segments_slash, List.getLast?_concat] at hlast
    exact hlast rfl

theorem segments_ofComponents (h : Listed cs) (hne : cs ≠ []) (hroot : cs ≠ [.root]) :
    segments (ofComponents cs) = cs.map Component.segment := by
  induction h with
  | nil => exact absurd rfl hne
  | root => exact absurd rfl hroot
  | here => decide
  | @concat cs c h hc ih =>
    rw [ofComponents_concat, List.map_append, List.map_singleton, hc.segment_eq]
    -- A slash is put between two components, but for nothing before it or the root, its own slash.
    by_cases hcs : cs = []
    · subst hcs
      have hjoin : join (ofComponents []) c.text = c.text := by
        rw [join, if_neg hc.isAbsolute_text]
        exact (if_pos (Or.inl rfl)).trans String.empty_append
      rw [hjoin, hc.segments_text]
      rfl
    by_cases hslash : cs = [.root]
    · subst hslash
      have hjoin : join (ofComponents [.root]) c.text = "" ++ "/" ++ c.text := by
        rw [join, if_neg hc.isAbsolute_text, if_pos (Or.inr (by decide))]
        rfl
      rw [hjoin, segments_append_slash, hc.segments_text]
      rfl
    have hsegments := ih hcs hslash
    have hlast : (segments (ofComponents cs)).getLast? ≠ some "" := by
      rw [hsegments]
      exact h.getLast?_segment hslash
    rw [join_eq_append hc.isAbsolute_text (ofComponents_ne_empty h hcs) hlast,
      segments_append_slash, hsegments, hc.segments_text]

theorem isAbsolute_ofComponents (hcs : cs <+: components p) (hne : cs ≠ []) :
    isAbsolute (ofComponents cs) = isAbsolute p := by
  have hhead : cs.head? = (components p).head? := by
    obtain ⟨ds, hds⟩ := hcs
    rw [← hds, List.head?_append_of_ne_nil _ hne]
  rw [Bool.eq_iff_iff, isAbsolute_iff, isAbsolute_iff,
    components_ofComponents ((listed_components p).of_initial hcs), hhead]

theorem map_segment_filterMap_sublist (ss : List String) :
    ((ss.filterMap component?).map Component.segment).Sublist ss := by
  induction ss with
  | nil => exact .slnil
  | cons s ss ih =>
    cases hs : component? s with
    | none =>
      rw [List.filterMap_cons_none hs]
      exact ih.cons s
    | some c =>
      rw [List.filterMap_cons_some hs, List.map_cons, segment_of_component? hs]
      exact ih.cons_cons s

theorem map_segment_sublist (p : String) :
    ((components p).map Component.segment).Sublist (segments p) := by
  rw [components_eq, leading]
  split
  · rename_i h
    obtain ⟨rest, hrest⟩ := List.head?_eq_some_iff.1 (head?_segments_of_isAbsolute h)
    rw [hrest, List.filterMap_cons_none (by rfl)]
    exact (map_segment_filterMap_sublist rest).cons_cons ""
  split
  · rename_i h
    obtain ⟨rest, hrest⟩ := List.head?_eq_some_iff.1 h
    rw [hrest, List.filterMap_cons_none (by rfl)]
    exact (map_segment_filterMap_sublist rest).cons_cons "."
  · exact map_segment_filterMap_sublist _

theorem intercalate_sublist {α : Type} (separator : List α) {xs ys : List (List α)}
    (h : xs.Sublist ys) : (separator.intercalate xs).Sublist (separator.intercalate ys) := by
  induction h with
  | slnil => exact .slnil
  | @cons xs ys piece h ih =>
    by_cases hys : ys = []
    · subst hys
      rw [List.eq_nil_of_sublist_nil h]
      exact List.nil_sublist _
    · rw [List.intercalate_cons_of_ne_nil hys]
      exact ih.trans (List.sublist_append_right _ _)
  | @cons_cons xs ys piece h ih =>
    by_cases hxs : xs = []
    · subst hxs
      by_cases hys : ys = []
      · rw [hys]
      · rw [List.intercalate_singleton, List.intercalate_cons_of_ne_nil hys, List.append_assoc]
        exact List.sublist_append_left _ _
    · have hys : ys ≠ [] := by
        rintro rfl
        exact hxs (List.eq_nil_of_sublist_nil h)
      rw [List.intercalate_cons_of_ne_nil hxs, List.intercalate_cons_of_ne_nil hys]
      exact ih.append_left _

theorem toList_eq_intercalate (p : String) :
    p.toList = ['/'].intercalate ((segments p).map String.toList) := by
  have hmap : (segments p).map String.toList = p.toList.splitOn '/' := by
    rw [segments, Text.splitText, List.map_map]
    simp
  rw [hmap, List.intercalate_splitOn]

theorem toList_ofComponents_sublist (hcs : cs <+: components p) (hne : cs ≠ []) :
    (ofComponents cs).toList.Sublist p.toList := by
  by_cases hroot : cs = [.root]
  · subst hroot
    have habsolute : isAbsolute p = true := by
      obtain ⟨ds, hds⟩ := hcs
      rw [isAbsolute_iff, ← hds]
      rfl
    rw [isAbsolute, beq_iff_eq] at habsolute
    have hslash : (ofComponents [.root]).toList = ['/'] := by decide
    rw [hslash, List.singleton_sublist]
    exact List.mem_of_mem_head? habsolute
  · rw [toList_eq_intercalate p, toList_eq_intercalate (ofComponents cs),
      segments_ofComponents ((listed_components p).of_initial hcs) hne hroot]
    have hsub := (hcs.sublist.map Component.segment).trans (map_segment_sublist p)
    exact intercalate_sublist ['/'] (hsub.map String.toList)

theorem utf8ByteSize_le_of_sublist (h : q.toList.Sublist p.toList) :
    q.utf8ByteSize ≤ p.utf8ByteSize := by
  rw [← String.utf8Len_toList, ← String.utf8Len_toList]
  exact String.utf8Len_le_of_sublist h

theorem dropSlashEnd_of_getLast? (h : (segments p).getLast? ≠ some "") : dropSlashEnd p = p := by
  have hlast : p.toList.getLast? ≠ some '/' := by
    intro hend
    obtain ⟨front, rfl⟩ := exists_of_slash hend
    rw [segments_slash, List.getLast?_concat] at h
    exact h rfl
  have hreverse : p.toList.reverse.dropWhile (· == '/') = p.toList.reverse := by
    rw [List.getLast?_eq_head?_reverse] at hlast
    cases hr : p.toList.reverse with
    | nil => rfl
    | cons c cs =>
      rw [hr, List.head?_cons, ne_eq, Option.some.injEq] at hlast
      exact List.dropWhile_cons_of_neg (by simpa using hlast)
  rw [dropSlashEnd, hreverse, List.reverse_reverse, String.ofList_toList]

theorem dropSlashEnd_ofComponents (h : Listed cs) (hne : cs ≠ []) (hroot : cs ≠ [.root]) :
    dropSlashEnd (ofComponents cs) = ofComponents cs := by
  refine dropSlashEnd_of_getLast? ?_
  rw [segments_ofComponents h hne hroot]
  exact h.getLast?_segment hroot

end CodeSurvey.Path
