import CodeSurvey.Proofs.Store.Dialogue
import CodeSurvey.Proofs.Store.Intake
import CodeSurvey.Proofs.Store.Tally

/-! The entries of a history, each with its answer and with what is seen of the store around it. -/

namespace CodeSurvey.Store

variable {s t u : Store}

structure Turn where
  seen : Store
  entry : Entry
  answer : Except StoreError Given
  left : Store

namespace Dialogue

def turns {σ : Type} (respond : σ → Entry → Except StoreError Given × σ) (view : σ → Store) :
    Dialogue → σ → List Turn
  | .ended, _ => []
  | .enter e next, s =>
    let answer := respond s e
    ⟨view s, e, answer.1, view answer.2⟩ :: (next answer.1).turns respond view answer.2

@[simp] theorem turns_writer (d : Dialogue) (w : Writer) :
    d.turns Writer.respond Writer.draft w = d.turns Store.respond id w.draft := by
  induction d generalizing w with
  | ended => rfl
  | enter e next ih =>
    simp only [turns, w.respond_eq e, ih]
    rfl

def recording (repository : Int) : List Finding → Dialogue
  | [] => .ended
  | f :: fs =>
    .enter (.file repository f.path) fun
      | .ok (.file id) =>
        .enter (.site id f.site) fun
          | .ok _ => recording repository fs
          | .error _ => .ended
      | _ => .ended

theorem hold_recording_cons {repository id : Int} {f : Finding} {w x v : Writer}
    {found : Option Int} (hfile : w.ensureFile repository f.path = .ok (id, x))
    (hsite : x.recordMatch id f.site = .ok (found, v)) (fs : List Finding) :
    (recording repository (f :: fs)).hold Writer.respond w =
      (.ok (.file id) :: .ok (.site found) :: ((recording repository fs).hold Writer.respond v).1,
        ((recording repository fs).hold Writer.respond v).2) := by
  simp only [recording, hold, Writer.respond, hfile, hsite, given]

theorem hold_recording (repository : Int) (fs : List Finding) (p : Progress) :
    (∀ q, p.recordAll repository fs = .ok q →
      ((recording repository fs).hold Writer.respond p.writer).2 = q.writer) ∧
    ∀ e, p.recordAll repository fs = .error e →
      ((recording repository fs).hold Writer.respond p.writer).1.getLast? = some (.error e) := by
  induction fs generalizing p with
  | nil =>
    refine ⟨fun q h => congrArg Progress.writer (Except.ok.inj h), fun e h => ?_⟩
    cases h
  | cons f fs ih =>
    cases hfile : p.writer.ensureFile repository f.path with
    | error e =>
      have hrecord : p.recordAll repository (f :: fs) = .error e := by
        simp only [Progress.recordAll, Progress.record, hfile]
      rw [hrecord]
      refine ⟨fun q h => (by cases h), fun e' h => ?_⟩
      cases h
      simp only [recording, hold, Writer.respond, hfile, given, List.getLast?_singleton]
    | ok filed =>
      obtain ⟨id, x⟩ := filed
      cases hsite : x.recordMatch id f.site with
      | error e =>
        have hrecord : p.recordAll repository (f :: fs) = .error e := by
          simp only [Progress.recordAll, Progress.record, hfile, hsite]
        rw [hrecord]
        refine ⟨fun q h => (by cases h), fun e' h => ?_⟩
        cases h
        simp only [recording, hold, Writer.respond, hfile, hsite, given, List.getLast?_cons_cons,
          List.getLast?_singleton]
      | ok placed =>
        obtain ⟨found, v⟩ := placed
        obtain ⟨q, hq, hrecord⟩ : ∃ q : Progress, q.writer = v ∧
            p.recordAll repository (f :: fs) = q.recordAll repository fs := by
          cases found <;>
            exact ⟨_, rfl, by simp only [Progress.recordAll, Progress.record, hfile, hsite]; rfl⟩
        rw [hold_recording_cons hfile hsite, hrecord, ← hq]
        refine ⟨(ih q).1, fun e h => ?_⟩
        have hlast := (ih q).2 e h
        rw [List.getLast?_cons_of_ne_nil (by simp), List.getLast?_cons_of_ne_nil ?_]
        · exact hlast
        · rintro hnil
          simp [hnil] at hlast

end Dialogue

def turns (s : Store) : Operation → List Turn
  | .ensureFile repository path =>
    (Dialogue.recite [.file repository path]).turns Store.respond id s
  | .recordMatch file site => (Dialogue.recite [.site file site]).turns Store.respond id s
  | .write entries _ => (Dialogue.recite entries).turns Writer.respond Writer.draft s.writer
  | .recordReport repository report =>
    (Dialogue.recording repository (Report.parse report)).turns Writer.respond Writer.draft s.writer
  | .insert _ | .mark _ | .resetFailed => []

def Keeps (s : Store) : Operation → Prop
  | .write _ keep => keep = true
  | .recordReport repository report => ∃ done, s.recordReport repository report = .ok done
  | _ => True

structure Extends (s t : Store) : Prop where
  files : s.files <+: t.files
  matchRows : s.matchRows <+: t.matchRows

namespace Extends

theorem of_eq (hfiles : t.files = s.files) (hrows : t.matchRows = s.matchRows) : s.Extends t :=
  ⟨hfiles ▸ List.prefix_rfl, hrows ▸ List.prefix_rfl⟩

theorem refl (s : Store) : s.Extends s := .of_eq rfl rfl

theorem trans (h : s.Extends t) (k : t.Extends u) : s.Extends u :=
  ⟨h.files.trans k.files, h.matchRows.trans k.matchRows⟩

theorem of_grow (h : s.ResultsGrow t) : s.Extends t := ⟨h.files, h.matchRows⟩

end Extends

theorem respond_extends (s : Store) (e : Entry) : s.Extends (s.respond e).2 := by
  cases e with
  | file repository path =>
    simp only [respond]
    cases h : s.ensureFile repository path with
    | error e => exact .refl s
    | ok r => exact .of_grow (.ensureFile h)
  | site file site =>
    simp only [respond]
    cases h : s.recordMatch file site with
    | error e => exact .refl s
    | ok r => exact .of_grow (.recordMatch h)

theorem Consistent.respond (hs : s.Consistent) (e : Entry) : (s.respond e).2.Consistent := by
  rw [respond_perform]
  exact hs.perform _

theorem Dialogue.hold_extends (d : Dialogue) (s : Store) :
    s.Extends (d.hold Store.respond s).2 := by
  induction d generalizing s with
  | ended => exact .refl s
  | enter e next ih => exact (s.respond_extends e).trans (ih _ _)

structure Turn.Over (s : Store) (m : Turn) : Prop where
  consistent : m.seen.Consistent
  grown : s.Extends m.seen
  answered : m.seen.respond m.entry = (m.answer, m.left)

theorem Dialogue.turns_over (hs : s.Consistent) (d : Dialogue) :
    ∀ m ∈ d.turns Store.respond id s, m.Over s ∧ m.left.Extends (d.hold Store.respond s).2 := by
  induction d generalizing s with
  | ended => exact fun m hm => absurd hm List.not_mem_nil
  | enter e next ih =>
    refine List.forall_mem_cons.2 ⟨⟨⟨hs, .refl s, rfl⟩, hold_extends _ _⟩, fun m hm => ?_⟩
    obtain ⟨⟨hseen, hgrown, hanswer⟩, hleft⟩ := ih _ (hs.respond e) m hm
    exact ⟨⟨hseen, (s.respond_extends e).trans hgrown, hanswer⟩, hleft⟩

theorem recordReport_dialogue {repository : Int} {report : Text.Utf8.Bytes} {r : Recording}
    (h : s.recordReport repository report = .ok (r, t)) :
    ((Dialogue.recording repository (Report.parse report)).hold Store.respond s).2 = t := by
  unfold recordReport recordFindings at h
  split at h
  · cases h
  rename_i q hq
  cases h
  have hheld := (Dialogue.hold_recording repository _ ⟨s.writer, [], 0, 0⟩).1 q hq
  rw [Dialogue.hold_writer] at hheld
  exact congrArg Writer.draft hheld

theorem exists_dialogue (s : Store) (o : Operation) :
    ∃ d : Dialogue, s.turns o = d.turns Store.respond id s ∧
      (s.Keeps o → (d.hold Store.respond s).2.Extends (s.perform o)) := by
  cases o with
  | insert rs =>
    refine ⟨.ended, rfl, fun _ => settled_of (.refl s) fun n t h => ?_⟩
    rw [insertRepositories_rest h]
    exact .of_eq rfl rfl
  | mark m =>
    refine ⟨.ended, rfl, fun _ => settled_of (.refl s) fun _ t h => ?_⟩
    cases hm : s.mark m with
    | error e => simp [hm, Except.map] at h
    | ok u =>
      simp only [hm, Except.map, Except.ok.injEq, Prod.mk.injEq] at h
      obtain ⟨-, -, -, -, rfl⟩ := mark_eq_ok_iff.1 hm
      rw [← h.2]
      exact .of_eq rfl rfl
  | resetFailed => exact ⟨.ended, rfl, fun _ => .of_eq rfl rfl⟩
  | ensureFile repository path =>
    exact ⟨_, rfl, fun _ => s.respond_perform (.file repository path) ▸ .refl _⟩
  | recordMatch file site =>
    exact ⟨_, rfl, fun _ => s.respond_perform (.site file site) ▸ .refl _⟩
  | write entries keep =>
    refine ⟨.recite entries, Dialogue.turns_writer _ _, ?_⟩
    rintro rfl
    rw [((write_answers s).2 entries).1, ← recite_store]
    exact .refl _
  | recordReport repository report =>
    refine ⟨_, Dialogue.turns_writer _ _, ?_⟩
    rintro ⟨done, hdone⟩
    have hkept : s.perform (.recordReport repository report) = done.2 := by
      simp only [perform, settled, hdone]
    rw [hkept, ← recordReport_dialogue hdone]
    exact .refl _

theorem turns_over (hs : s.Consistent) (o : Operation) :
    ∀ m ∈ s.turns o, m.Over s ∧ (s.Keeps o → m.left.Extends (s.perform o)) := by
  obtain ⟨d, hturns, hkept⟩ := s.exists_dialogue o
  rw [hturns]
  intro m hm
  obtain ⟨hover, hleft⟩ := d.turns_over hs m hm
  exact ⟨hover, fun hk => hleft.trans (hkept hk)⟩

theorem perform_of_not_keeps {o : Operation} (h : ¬ s.Keeps o) : s.perform o = s := by
  cases o with
  | write entries keep =>
    cases keep with
    | true => exact absurd rfl h
    | false => exact ((write_answers s).2 entries).2
  | recordReport repository report =>
    simp only [perform]
    cases hr : s.recordReport repository report with
    | error e => rfl
    | ok done => exact absurd ⟨done, hr⟩ h
  | _ => exact absurd trivial h

theorem perform_extends (s : Store) (o : Operation) : s.Extends (s.perform o) := by
  by_cases hk : s.Keeps o
  · obtain ⟨d, -, hkept⟩ := s.exists_dialogue o
    exact (d.hold_extends s).trans (hkept hk)
  · rw [perform_of_not_keeps hk]
    exact .refl s

theorem performAll_extends (s : Store) (history : List Operation) :
    s.Extends (s.performAll history) := by
  induction history generalizing s with
  | nil => exact .refl s
  | cons o history ih => exact (s.perform_extends o).trans (ih _)

end CodeSurvey.Store
