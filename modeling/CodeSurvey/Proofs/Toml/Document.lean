import CodeSurvey.Proofs.Toml.Line

/-! A document that is written is read back. -/

namespace CodeSurvey.Toml

abbrev Entries := List (String × Scalar)

def fieldsOf (entries : Entries) : Fields := entries.map fun e => (e.1, e.2.item)

variable {cs : List Char} {k : String} {v : Scalar} {top entries : Entries}
  {sections : List (String × Entries)} {fields : Fields}

theorem statements_lines {lines : List (List Char × Statement)} (h : ∀ line ∈ lines, Reads line)
    (hne : lines ≠ []) {fuel : Nat} (hfuel : (lines.flatMap Prod.fst).length < fuel) :
    statements fuel (lines.flatMap Prod.fst) = some (lines.map Prod.snd) := by
  induction lines generalizing fuel with
  | nil => exact absurd rfl hne
  | cons line lines ih =>
    obtain ⟨⟨htext, hread⟩, hlines⟩ := List.forall_mem_cons.1 h
    rw [List.flatMap_cons] at hfuel ⊢
    obtain ⟨fuel, rfl⟩ := Nat.exists_eq_add_one_of_ne_zero (Nat.ne_zero_of_lt hfuel)
    rw [statements, hread]
    cases lines with
    | nil => rfl
    | cons next lines =>
      have hpos := List.length_pos_iff.2 htext
      have hfuel' : ((next :: lines).flatMap Prod.fst).length < fuel := by
        rw [List.length_append] at hfuel
        omega
      have hrest := ih hlines (List.cons_ne_nil _ _) hfuel'
      have hnext : (next :: lines).flatMap Prod.fst ≠ [] := by
        rw [List.flatMap_cons]
        exact List.append_ne_nil_of_left_ne_nil (hlines next List.mem_cons_self).1 _
      cases htexts : (next :: lines).flatMap Prod.fst with
      | nil => exact absurd htexts hnext
      | cons c cs =>
        rw [htexts] at hrest
        simp only [hrest, Option.map_some, List.map_cons]

@[simp] theorem assemble_leading (fields : Fields) (ss : List Statement) :
    assemble fields (leading ss).2 = assemble fields ss := by
  induction ss with
  | nil => rfl
  | cons s ss ih => cases s <;> first | exact ih | rfl

def entryStatement (e : String × Scalar) : Statement := .entry [e.1] e.2.item

theorem leading_entries (entries : Entries) (ss : List Statement) :
    (leading (entries.map entryStatement ++ ss)).1 =
      entries.map (fun e => ([e.1], e.2.item)) ++ (leading ss).1 := by
  induction entries with
  | nil => rfl
  | cons e entries ih => exact congrArg (List.cons _) ih

@[simp] theorem assemble_entries (fields : Fields) (entries : Entries) (ss : List Statement) :
    assemble fields (entries.map entryStatement ++ ss) = assemble fields ss := by
  induction entries with
  | nil => rfl
  | cons e entries ih => exact ih

theorem lookup?_eq_none_iff : fields.lookup? k = none ↔ k ∉ fields.map Prod.fst := by
  rw [Fields.lookup?, Option.map_eq_none_iff, List.find?_eq_none]
  constructor
  · intro h hmem
    obtain ⟨f, hf, rfl⟩ := List.mem_map.1 hmem
    exact h f hf (beq_self_eq_true f.1)
  · intro h f hf heq
    exact h (List.mem_map.2 ⟨f, hf, beq_iff_eq.1 heq⟩)

theorem lookup?_cons (f : String × Item) (fields : Fields) (key : String) :
    Fields.lookup? (f :: fields) key = if f.1 = key then some f.2 else fields.lookup? key := by
  rw [Fields.lookup?, List.find?_cons]
  by_cases h : f.1 = key
  · simp [h]
  · simp only [beq_eq_false_iff_ne.2 h, if_neg h, Fields.lookup?]

theorem lookup?_fieldsOf (hnodup : (entries.map Prod.fst).Nodup) (h : (k, v) ∈ entries) :
    (fieldsOf entries).lookup? k = some v.item := by
  induction entries with
  | nil => cases h
  | cons e entries ih =>
    rw [List.map_cons, List.nodup_cons] at hnodup
    rw [fieldsOf, List.map_cons, lookup?_cons]
    rcases List.mem_cons.1 h with rfl | h
    · exact if_pos rfl
    · have hne : e.1 ≠ k := fun heq => hnodup.1 (heq ▸ List.mem_map.2 ⟨_, h, rfl⟩)
      rw [if_neg hne]
      exact ih hnodup.2 h

theorem set_of_lookup?_eq_none (h : fields.lookup? k = none) (item : Item) :
    fields.set k item = fields ++ [(k, item)] := by
  rw [lookup?_eq_none_iff] at h
  induction fields with
  | nil => rfl
  | cons f fields ih =>
    rw [List.map_cons, List.mem_cons, not_or] at h
    rw [Fields.set, if_neg (Ne.symm h.1), ih h.2]
    rfl

theorem insertAll_entries (fields : Fields) (entries : Entries)
    (h : (fields.map Prod.fst ++ entries.map Prod.fst).Nodup) :
    fields.insertAll (entries.map fun e => ([e.1], e.2.item)) =
      some (fields ++ fieldsOf entries) := by
  induction entries generalizing fields with
  | nil => simp [Fields.insertAll, fieldsOf]
  | cons e entries ih =>
    have hnone : fields.lookup? e.1 = none := by
      rw [lookup?_eq_none_iff]
      exact fun hmem => (List.nodup_append.1 h).2.2 _ hmem _ List.mem_cons_self rfl
    have hrest := ih (fields ++ [(e.1, e.2.item)]) (by simpa using h)
    simp only [List.map_cons, Fields.insertAll, Fields.insert, hnone, hrest]
    simp [fieldsOf]

def sectioned (top : Entries) (sections : List (String × Entries)) : List Block :=
  ⟨none, top⟩ :: sections.map fun s => ⟨some s.1, s.2⟩

def contents (top : Entries) (sections : List (String × Entries)) : Fields :=
  fieldsOf top ++ sections.map fun s => (s.1, .table .header (fieldsOf s.2))

structure Orderly (top : Entries) (sections : List (String × Entries)) : Prop where
  bareTop : ∀ e ∈ top, IsBare e.1
  bareSections : ∀ s ∈ sections, IsBare s.1 ∧ ∀ e ∈ s.2, IsBare e.1
  nodupTop : (top.map Prod.fst ++ sections.map Prod.fst).Nodup
  nodupSections : ∀ s ∈ sections, (s.2.map Prod.fst).Nodup

def linesOf (entries : Entries) : List (List Char × Statement) :=
  entries.map fun e => ((writeEntry e).toList, entryStatement e)

def sectionLines (s : String × Entries) : List (List Char × Statement) :=
  (['\n'], .nothing) :: (("[" ++ s.1 ++ "]\n").toList, .header [s.1]) :: linesOf s.2

def documentLines (top : Entries) (sections : List (String × Entries)) :
    List (List Char × Statement) :=
  linesOf top ++ sections.flatMap sectionLines

theorem intercalate_cons_eq_flatMap (s : String) (text : String) (texts : List String) :
    (s.intercalate (text :: texts)).toList =
      text.toList ++ texts.flatMap fun t => s.toList ++ t.toList := by
  induction texts generalizing text with
  | nil => simp
  | cons next texts ih =>
    rw [String.intercalate_cons_cons, String.toList_append, String.toList_append, ih,
      List.flatMap_cons, List.append_assoc, List.append_assoc]

theorem linesOf_text (entries : Entries) :
    (linesOf entries).flatMap Prod.fst = (String.join (entries.map writeEntry)).toList := by
  simp [linesOf, List.flatMap_map]

theorem sectionLines_text (s : String × Entries) :
    (sectionLines s).flatMap Prod.fst = '\n' :: (Block.write ⟨some s.1, s.2⟩).toList := by
  simp [sectionLines, linesOf_text, Block.write]

theorem write?_lines {text : String} (h : write? (sectioned top sections) = some text) :
    text.toList = (documentLines top sections).flatMap Prod.fst := by
  rw [write?] at h
  split at h
  · cases h
    rw [sectioned, List.map_cons, intercalate_cons_eq_flatMap, documentLines, List.flatMap_append,
      linesOf_text, List.flatMap_assoc]
    simp [sectionLines_text, Block.write, List.flatMap_map]
  · cases h

theorem write?_fits {text : String} (h : write? (sectioned top sections) = some text) :
    (∀ e ∈ top, e.2.fits = true) ∧ ∀ s ∈ sections, ∀ e ∈ s.2, e.2.fits = true := by
  rw [write?] at h
  split at h
  · rename_i hall
    simpa [sectioned] using hall
  · cases h

theorem linesOf_read (hbare : ∀ e ∈ entries, IsBare e.1) (hfits : ∀ e ∈ entries, e.2.fits = true) :
    ∀ line ∈ linesOf entries, Reads line := by
  intro line hline
  obtain ⟨e, he, rfl⟩ := List.mem_map.1 hline
  refine ⟨?_, fun rest => statement_entry (hbare e he) (hfits e he) rest⟩
  simp [writeEntry]

theorem Orderly.lines_read (h : Orderly top sections) (htop : ∀ e ∈ top, e.2.fits = true)
    (hsections : ∀ s ∈ sections, ∀ e ∈ s.2, e.2.fits = true) :
    ∀ line ∈ documentLines top sections, Reads line := by
  intro line hline
  rcases List.mem_append.1 hline with hline | hline
  · exact linesOf_read h.bareTop htop line hline
  · obtain ⟨s, hs, hline⟩ := List.mem_flatMap.1 hline
    obtain ⟨hname, hbare⟩ := h.bareSections s hs
    rcases List.mem_cons.1 hline with rfl | hline
    · exact ⟨List.cons_ne_nil _ _, fun rest => rfl⟩
    rcases List.mem_cons.1 hline with rfl | hline
    · exact ⟨by simp, fun rest => statement_header hname rest⟩
    · exact linesOf_read hbare (hsections s hs) line hline

def sectionStatements (s : String × Entries) : List Statement :=
  .nothing :: .header [s.1] :: s.2.map entryStatement

theorem documentLines_statements (top : Entries) (sections : List (String × Entries)) :
    (documentLines top sections).map Prod.snd =
      top.map entryStatement ++ sections.flatMap sectionStatements := by
  have hlines (entries : Entries) :
      (linesOf entries).map Prod.snd = entries.map entryStatement := by
    simp [linesOf, Function.comp_def]
  have hsection : (fun s => (sectionLines s).map Prod.snd) = sectionStatements := by
    funext s
    rw [sectionLines, List.map_cons, List.map_cons, hlines, sectionStatements]
  rw [documentLines, List.map_append, hlines, List.map_flatMap, hsection]

@[simp] theorem leading_sections (sections : List (String × Entries)) :
    (leading (sections.flatMap sectionStatements)).1 = [] := by
  cases sections <;> rfl

theorem assemble_section (fields : Fields) (s : String × Entries) {ss : List Statement}
    (hss : (leading ss).1 = []) :
    assemble fields (sectionStatements s ++ ss) =
      (fields.openTable [s.1] (s.2.map fun e => ([e.1], e.2.item))).bind
        fun fields => assemble fields ss := by
  have hbody : (leading (s.2.map entryStatement ++ ss)).1 =
      s.2.map fun e => ([e.1], e.2.item) := by
    rw [leading_entries, hss, List.append_nil]
  have hopened : assemble fields (sectionStatements s ++ ss) =
      (fields.openTable [s.1] (leading (s.2.map entryStatement ++ ss)).1).bind
        fun fields => assemble fields (s.2.map entryStatement ++ ss) := rfl
  simp only [hopened, hbody, assemble_entries]

theorem assemble_sections (fields : Fields)
    (hnodup : (fields.map Prod.fst ++ sections.map Prod.fst).Nodup)
    (hsections : ∀ s ∈ sections, (s.2.map Prod.fst).Nodup) :
    assemble fields (sections.flatMap sectionStatements) =
      some (fields ++ sections.map fun s => (s.1, .table .header (fieldsOf s.2))) := by
  induction sections generalizing fields with
  | nil => simp [assemble]
  | cons s sections ih =>
    obtain ⟨hs, hsections⟩ := List.forall_mem_cons.1 hsections
    have hnone : fields.lookup? s.1 = none := by
      rw [lookup?_eq_none_iff]
      exact fun hmem => (List.nodup_append.1 hnodup).2.2 _ hmem _ List.mem_cons_self rfl
    have hbody := insertAll_entries [] s.2 (by simpa using hs)
    have hopen : fields.openTable [s.1] (s.2.map fun e => ([e.1], e.2.item)) =
        some (fields ++ [(s.1, .table .header (fieldsOf s.2))]) := by
      simp only [Fields.openTable, Fields.update, hnone, hbody, Option.map_some, List.nil_append,
        set_of_lookup?_eq_none hnone]
    have hrest := ih (fields ++ [(s.1, .table .header (fieldsOf s.2))])
      (by simpa using hnodup) hsections
    rw [List.flatMap_cons, assemble_section fields s (leading_sections sections), hopen,
      Option.bind_some, hrest, List.map_cons, List.append_assoc, List.singleton_append]

theorem Orderly.document (h : Orderly top sections) :
    Toml.document (top.map entryStatement ++ sections.flatMap sectionStatements) =
      some (contents top sections) := by
  have htop := insertAll_entries [] top
    (by simpa using (List.nodup_append.1 h.nodupTop).1)
  have hsections := assemble_sections (fieldsOf top)
    (by simpa [fieldsOf, Function.comp_def] using h.nodupTop) h.nodupSections
  rw [Toml.document, leading_entries, leading_sections, List.append_nil, htop, Option.bind_some,
    assemble_leading, assemble_entries, List.nil_append, hsections]
  rfl

theorem withoutMark_of_head (h : cs.head? ≠ some (Char.ofNat 0xFEFF)) : withoutMark cs = cs :=
  if_neg h

theorem Orderly.head_lines (h : Orderly top sections) :
    ((documentLines top sections).flatMap Prod.fst).head? ≠ some (Char.ofNat 0xFEFF) := by
  cases top with
  | nil =>
    cases sections with
    | nil => exact nofun
    | cons s sections => exact fun heq => absurd (Option.some.inj heq) (by decide)
  | cons e top =>
    obtain ⟨c, cs, hcs, hc⟩ := (h.bareTop e List.mem_cons_self).exists_cons
    have htext : (documentLines (e :: top) sections).flatMap Prod.fst =
        e.1.toList ++ (' ' :: '=' :: ' ' :: (e.2.write.toList ++ '\n' ::
          (documentLines top sections).flatMap Prod.fst)) := toList_writeEntry e.1 e.2 _
    rw [htext, hcs]
    exact fun heq => isKeyChar_ne hc (by decide) (Option.some.inj heq)

theorem Orderly.parse?_write? (h : Orderly top sections) {text : String}
    (hwrite : write? (sectioned top sections) = some text) :
    parse? text = some (contents top sections) := by
  have htext := write?_lines hwrite
  obtain ⟨htop, hsections⟩ := write?_fits hwrite
  have hread := h.lines_read htop hsections
  have hdocument := h.document
  rw [← documentLines_statements] at hdocument
  have hmark := withoutMark_of_head (htext ▸ h.head_lines)
  simp only [parse?, hmark]
  cases hlines : documentLines top sections with
  | nil =>
    -- An empty text is read as one statement that says nothing.
    rw [hlines] at htext hdocument
    rw [htext]
    exact hdocument
  | cons line lines =>
    rw [htext, statements_lines hread (hlines ▸ List.cons_ne_nil line lines) (Nat.lt_succ_self _)]
    exact hdocument

end CodeSurvey.Toml
