import CodeSurvey.Discovery.Walk
import CodeSurvey.Proofs.Store.Intake

/-! A search service over a finite ranking by stars. -/

namespace CodeSurvey.Discovery

structure Ranking where
  ranks : List Repository
  cap : Nat
  cap_pos : 0 < cap
  ids : (ranks.map Repository.id).Nodup
  descending : ranks.Pairwise (fun a b => b.stars ≤ a.stars)
  below : ∀ r ∈ ranks, r.stars < Store.noStarsSeen

namespace Ranking

variable (u : Ranking)

def above (least : Int) : List Repository :=
  u.ranks.filter (fun r => least ≤ r.stars)

def within (lower upper : Int) : List Repository :=
  (u.above lower).filter (fun r => r.stars ≤ upper)

def served (window : Window) : List Repository :=
  (u.within window.lower window.upper).take u.cap

def page (request : Request) : List Repository :=
  ((u.served request.window).drop ((request.window.page - 1) * request.perPage)).take
    request.perPage

/-- The service's final answer holds the page of the ranking that was asked for. Answers that are
not final may come at any time. -/
def Answers (started : Moment) (e : Exchange) : Prop :=
  ∀ items, e.answer.reading e.request (started.after e.slept) = .final items →
    items.getD [] = u.page e.request

instance (started : Moment) (e : Exchange) : Decidable (u.Answers started e) :=
  match h : e.answer.reading e.request (started.after e.slept) with
  | .final items => decidable_of_iff (items.getD [] = u.page e.request) (by simp [Answers, h])
  | .wait _ => isTrue (by simp [Answers, h])
  | .failure _ => isTrue (by simp [Answers, h])
  | .stop _ => isTrue (by simp [Answers, h])

variable {u} {lower upper m n : Int} {r : Repository}

@[simp] theorem mem_above : r ∈ u.above n ↔ r ∈ u.ranks ∧ n ≤ r.stars := by
  simp [above]

theorem ids_above (n : Int) : ((u.above n).map Repository.id).Nodup :=
  u.ids.sublist (List.filter_sublist.map _)

theorem filter_of_descending {rs : List Repository}
    (hd : rs.Pairwise (fun a b => b.stars ≤ a.stars)) (h : m ≤ n + 1) :
    rs.filter (fun r => m ≤ r.stars) =
      rs.filter (fun r => n + 1 ≤ r.stars) ++
        (rs.filter (fun r => m ≤ r.stars)).filter (fun r => r.stars ≤ n) := by
  induction rs with
  | nil => rfl
  | cons r rs ih =>
    obtain ⟨hle, hd⟩ := List.pairwise_cons.1 hd
    by_cases hr : n + 1 ≤ r.stars
    · have hm : m ≤ r.stars := by omega
      have hn : ¬ r.stars ≤ n := by omega
      simp only [List.filter_cons, hr, hm, hn, decide_true, decide_false, if_true,
        Bool.false_eq_true, if_false, List.cons_append]
      rw [← ih hd]
    · have hnone : (r :: rs).filter (fun q => n + 1 ≤ q.stars) = [] := by
        rw [List.filter_eq_nil_iff]
        intro q hq
        rcases List.mem_cons.1 hq with rfl | hq
        · simpa using hr
        · have := hle q hq
          simp only [decide_eq_true_eq]
          omega
      have hall : ((r :: rs).filter (fun q => m ≤ q.stars)).filter (fun q => q.stars ≤ n) =
          (r :: rs).filter (fun q => m ≤ q.stars) := by
        rw [List.filter_eq_self]
        intro q hq
        rcases List.mem_cons.1 (List.mem_of_mem_filter hq) with rfl | hq
        · simp only [decide_eq_true_eq]
          omega
        · have := hle q hq
          simp only [decide_eq_true_eq]
          omega
      rw [hnone, hall, List.nil_append]

theorem above_eq_append (h : m ≤ n + 1) : u.above m = u.above (n + 1) ++ u.within m n :=
  filter_of_descending u.descending h

theorem above_prefix_above (h : m ≤ n) : u.above n <+: u.above m := by
  have happ : u.above m = u.above (n - 1 + 1) ++ u.within m (n - 1) := above_eq_append (by omega)
  rw [Int.sub_add_cancel] at happ
  rw [happ]
  exact List.prefix_append _ _

theorem ties_prefix_within (h : lower ≤ upper) :
    u.within upper upper <+: u.within lower upper := by
  have hall : u.above lower = u.above (upper + 1) ++ u.within lower upper :=
    above_eq_append (by omega)
  have hties : u.above upper = u.above (upper + 1) ++ u.within upper upper :=
    above_eq_append (by omega)
  have hle := above_prefix_above (u := u) h
  rw [hall, hties] at hle
  exact (List.prefix_append_right_inj _).1 hle

theorem ties_prefix_served {window : Window} (h : window.lower ≤ window.upper)
    (hc : (u.within window.upper window.upper).length ≤ u.cap) :
    u.within window.upper window.upper <+: u.served window :=
  List.prefix_take_iff.2 ⟨ties_prefix_within h, hc⟩

def reach (u : Ranking) (window : Window) : List Repository :=
  u.above (window.upper + 1) ++ u.served window

theorem reach_eq_take {window : Window} (h : window.lower ≤ window.upper) :
    u.reach window =
      (u.above window.lower).take ((u.above (window.upper + 1)).length + u.cap) := by
  have hall : u.above window.lower = _ := above_eq_append (n := window.upper) (by omega)
  rw [hall, List.take_length_add_append]
  rfl

theorem reach_prefix_above {window : Window} (h : window.lower ≤ window.upper) :
    u.reach window <+: u.above window.lower := by
  rw [reach_eq_take h]
  exact List.take_prefix _ _

theorem reach_prefix_reach {window next : Window} (hlower : next.lower = window.lower)
    (hle : next.lower ≤ next.upper) (hupper : next.upper ≤ window.upper) :
    u.reach window <+: u.reach next := by
  rw [reach_eq_take hle, reach_eq_take (by omega), hlower]
  apply List.take_prefix_take_left
  have := (above_prefix_above (u := u) (show next.upper + 1 ≤ window.upper + 1 by omega)).length_le
  omega

theorem length_ties_le (h : ∀ r ∈ u.ranks, (u.within r.stars r.stars).length ≤ u.cap) (n : Int) :
    (u.within n n).length ≤ u.cap := by
  cases hties : u.within n n with
  | nil => exact Nat.zero_le _
  | cons r rs =>
    have hr : r ∈ u.within n n := by simp [hties]
    obtain ⟨habove, hle⟩ := List.mem_filter.1 hr
    have hstars : r.stars = n := by
      have := (mem_above.1 habove).2
      have : r.stars ≤ n := of_decide_eq_true hle
      omega
    rw [← hties, ← hstars]
    exact h r (mem_above.1 habove).1

theorem take_append_page (request : Request) (h : 1 ≤ request.window.page) :
    (u.served request.window).take ((request.window.page - 1) * request.perPage) ++
        u.page request =
      (u.served request.window).take (request.window.page * request.perPage) := by
  obtain ⟨p, hp⟩ : ∃ p, request.window.page = p + 1 := ⟨request.window.page - 1, by omega⟩
  rw [page, ← List.take_add, hp, Nat.add_sub_cancel, Nat.succ_mul]

theorem page_eq_nil_iff (request : Request) (h : 0 < request.perPage) :
    u.page request = [] ↔
      (u.served request.window).length ≤ (request.window.page - 1) * request.perPage := by
  rw [page, List.take_eq_nil_iff, List.drop_eq_nil_iff]
  constructor
  · rintro (hz | hle)
    · omega
    · exact hle
  · exact Or.inr

theorem length_served (window : Window) : (u.served window).length ≤ u.cap :=
  List.length_take_le _ _

theorem page_le_cap (request : Request) (h : 0 < request.perPage) (hne : u.page request ≠ []) :
    request.window.page ≤ u.cap := by
  have hlt : (request.window.page - 1) * request.perPage < (u.served request.window).length :=
    Nat.lt_of_not_le (fun hle => hne ((page_eq_nil_iff request h).2 hle))
  have hmul : request.window.page - 1 ≤ (request.window.page - 1) * request.perPage :=
    Nat.le_mul_of_pos_right _ h
  have := u.length_served request.window
  omega

theorem above_eq_nil {window : Window} (h : window.lower ≤ window.upper)
    (hnil : u.above (window.upper + 1) ++ u.served window = []) : u.above window.lower = [] := by
  obtain ⟨habove, hserved⟩ := List.append_eq_nil_iff.1 hnil
  have hwithin : u.within window.lower window.upper = [] :=
    (List.take_eq_nil_iff.1 hserved).resolve_left (Nat.ne_of_gt u.cap_pos)
  have hall : u.above window.lower = _ := above_eq_append (n := window.upper) (by omega)
  rw [hall, habove, hwithin, List.nil_append]

theorem above_prefix_of_mem {known : List Repository} (hk : known <+: u.above m) (h : m ≤ n)
    (hr : r ∈ known) (hlt : r.stars < n) : u.above n <+: known := by
  rcases List.prefix_or_prefix_of_prefix (above_prefix_above h) hk with hle | hle
  · exact hle
  · have := (mem_above.1 (hle.subset hr)).2
    omega

theorem above_minStarsSeen {s : Store} (hs : s.repositories <+: u.above m) :
    u.above (s.minStarsSeen + 1) <+: s.repositories := by
  rcases s.minStarsSeen_cases with ⟨-, he⟩ | ⟨r, hr, hstars⟩
  · have hnil : u.above (s.minStarsSeen + 1) = [] := by
      rw [List.eq_nil_iff_forall_not_mem]
      intro q hq
      obtain ⟨hq, hle⟩ := mem_above.1 hq
      have := u.below q hq
      omega
    rw [hnil]
    exact List.nil_prefix
  · have hm := (mem_above.1 (hs.subset hr)).2
    exact above_prefix_of_mem hs (by omega) hr (by omega)

end Ranking

end CodeSurvey.Discovery
