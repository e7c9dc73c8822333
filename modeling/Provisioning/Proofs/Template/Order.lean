import Mathlib.Data.List.Basic
import Provisioning.Proofs.Number.TotalOrder
import Provisioning.Template.Ranking

/-!
# The order of a ranking

A ranking lists the templates that qualify, once for each time that the catalog does, by score in the
total order; templates of one score keep the order of the catalog. That leaves one ranking only,
whatever the scorer.

## Main definitions

* `Precedes`: one place of a catalog comes before another
* `Ranks`: the places of a catalog that qualify, the best first
* `FirstBest`: the first template of a catalog of the least score

## Main results

* `filter_mergeSort`: a stable sort of some elements of a list is that of the list, without the others
* `ranks_placesByScore`, `Ranks.unique`: there is such an order of the places, and only one
* `Ranks.head?_eq_some_iff`: the first of them is the first best template
* `ranking_by_score`: the rankings, the selections and the best template follow that order
* `filter_ranking`: what a condition leaves of a ranking is what meets it, sorted by score
* `ranking_filter`: a part of a catalog is ranked as it stands in the ranking of the whole
-/

namespace Provisioning

/-! ## Stable sorts -/

section StableSort

variable {α : Type} {le : α → α → Bool}

/-- A stable sort puts a first element behind those that must come before it, and before those that
tie with it. -/
theorem mergeSort_cons_eq (trans : ∀ a b c, le a b → le b c → le a c)
    (total : ∀ a b, le a b || le b a) (a : α) (l : List α) :
    (a :: l).mergeSort le =
      (l.mergeSort le).filter (fun b => !le a b) ++ a :: (l.mergeSort le).filter (le a) := by
  obtain ⟨before, after, hcons, hl, hbefore⟩ := List.mergeSort_cons trans total a l
  have hsorted := List.pairwise_mergeSort trans total (a :: l)
  rw [hcons, List.pairwise_append, List.pairwise_cons] at hsorted
  have hafter : ∀ b ∈ after, le a b = true := hsorted.2.1.1
  have hbefore' : before.filter (le a) = [] :=
    List.filter_eq_nil_iff.2 fun b hb => by simpa using hbefore b hb
  have hafter' : after.filter (fun b => !le a b) = [] :=
    List.filter_eq_nil_iff.2 fun b hb => by simpa using hafter b hb
  rw [hcons, hl, List.filter_append, List.filter_append, List.filter_eq_self.2 hbefore, hbefore',
    List.filter_eq_self.2 hafter, hafter', List.append_nil, List.nil_append]

/-- **A stable sort of some elements of a list is that of the list, without the others.** -/
theorem filter_mergeSort (trans : ∀ a b c, le a b → le b c → le a c)
    (total : ∀ a b, le a b || le b a) (p : α → Bool) (l : List α) :
    (l.mergeSort le).filter p = (l.filter p).mergeSort le := by
  induction l with
  | nil => simp
  | cons a l ih =>
    by_cases hp : p a = true
    · rw [List.filter_cons_of_pos hp, mergeSort_cons_eq trans total, mergeSort_cons_eq trans total,
        ← ih, List.filter_append, List.filter_cons_of_pos hp, List.filter_comm,
        List.filter_comm p (le a)]
    · -- Without the first element, the two parts around it are the sorted rest.
      obtain ⟨before, after, hcons, hl, -⟩ := List.mergeSort_cons trans total a l
      rw [List.filter_cons_of_neg hp, ← ih, hcons, hl, List.filter_append, List.filter_append,
        List.filter_cons_of_neg hp]

end StableSort

/-- The places of a list go up. -/
theorem pairwise_zipIdx {α : Type} (l : List α) : l.zipIdx.Pairwise fun x y => x.2 < y.2 := by
  rw [← List.pairwise_map, List.zipIdx_map_snd]
  exact List.pairwise_lt_range'

/-! ## The order of the places -/

/-- The places of a catalog that qualify, in its order. -/
def places (catalog : List Candidate) (r : Requirement) : List (Candidate × Nat) :=
  catalog.zipIdx.filter fun x => qualifies x.1 r

/-- A place of a catalog comes before another in a ranking: its template has the lesser score, or one
score is the other and the place is the earlier. -/
def Precedes (r : Requirement) (score : Scorer) (x y : Candidate × Nat) : Prop :=
  (score x.1 r).Before (score y.1 r) ∨ score x.1 r = score y.1 r ∧ x.2 < y.2

/-- `order` lists the templates of a catalog that qualify, each with its place, the best first. -/
structure Ranks (catalog : List Candidate) (r : Requirement) (score : Scorer)
    (order : List (Candidate × Nat)) : Prop where
  /-- It lists each place of a template that qualifies, and no other. -/
  perm : order.Perm (places catalog r)
  /-- A place comes before all later ones. -/
  ordered : order.Pairwise (Precedes r score)

/-- The template is that of the first place of the least score, among those that qualify. -/
def FirstBest (catalog : List Candidate) (r : Requirement) (score : Scorer) (c : Candidate) : Prop :=
  ∃ i : Nat, catalog[i]? = some c ∧ qualifies c r = true ∧
    (∀ d ∈ catalog, qualifies d r = true → ¬ (score d r).Before (score c r)) ∧
    ∀ j < i, ∀ d, catalog[j]? = some d → qualifies d r = true → score d r ≠ score c r

/-- The score at one place is at most that at another. -/
def scoreLe (r : Requirement) (score : Scorer) (x y : Candidate × Nat) : Bool :=
  (score x.1 r).totalLe (score y.1 r)

/-- The places that qualify, sorted by the scores of their templates. -/
def placesByScore (catalog : List Candidate) (r : Requirement) (score : Scorer) :
    List (Candidate × Nat) :=
  (places catalog r).mergeSort (scoreLe r score)

variable {catalog : List Candidate} {r : Requirement} {score : Scorer}
  {order order' : List (Candidate × Nat)} {x y : Candidate × Nat} {c : Candidate}

theorem Precedes.asymm (hxy : Precedes r score x y) : ¬ Precedes r score y x := by
  rintro (hyx | ⟨hyx, hlt⟩)
  · obtain hxy | ⟨hxy, -⟩ := hxy
    · exact hxy.asymm hyx
    · exact hyx.ne hxy.symm
  · obtain hxy | ⟨-, hlt'⟩ := hxy
    · exact hxy.ne hyx.symm
    · exact Nat.lt_asymm hlt hlt'

theorem mem_places : x ∈ places catalog r ↔ catalog[x.2]? = some x.1 ∧ qualifies x.1 r = true := by
  rw [places, List.mem_filter, List.mem_zipIdx_iff_getElem?]

theorem map_fst_places (catalog : List Candidate) (r : Requirement) :
    (places catalog r).map Prod.fst = catalog.filter (qualifies · r) := by
  have hcomp : (fun x : Candidate × Nat => qualifies x.1 r) = (qualifies · r) ∘ Prod.fst := rfl
  rw [places, hcomp, ← List.filter_map, List.zipIdx_map_fst]

theorem scoreLe_trans (x y z : Candidate × Nat) (hxy : scoreLe r score x y = true)
    (hyz : scoreLe r score y z = true) : scoreLe r score x z = true :=
  Binary64.totalLe_trans hxy hyz

theorem scoreLe_total (x y : Candidate × Nat) :
    (scoreLe r score x y || scoreLe r score y x) = true :=
  Binary64.totalLe_total _ _

/-- Places of one score keep their order when they are sorted by score. -/
theorem lt_of_sublist_placesByScore (h : [x, y].Sublist (placesByScore catalog r score))
    (heq : score x.1 r = score y.1 r) : x.2 < y.2 := by
  -- Both are among the places of this score, whose order in the catalog the sort keeps.
  have hkept : ((placesByScore catalog r score).filter fun z => score z.1 r = score x.1 r) =
      (places catalog r).filter fun z => score z.1 r = score x.1 r := by
    refine (filter_mergeSort scoreLe_trans scoreLe_total _ _).trans (List.mergeSort_of_pairwise ?_)
    refine List.pairwise_filter.2 (List.pairwise_of_forall fun a b ha hb => ?_)
    rw [decide_eq_true_iff] at ha hb
    exact Binary64.totalLe_iff.2 (.inr (ha.trans hb.symm))
  have hpair := h.filter fun z => score z.1 r = score x.1 r
  rw [hkept, List.filter_eq_self.2 (by simp [heq])] at hpair
  have hsub : [x, y].Sublist catalog.zipIdx :=
    (hpair.trans List.filter_sublist).trans List.filter_sublist
  exact List.pairwise_iff_forall_sublist.1 (pairwise_zipIdx catalog) hsub

/-- **Sorting by score ranks the places.** -/
theorem ranks_placesByScore (catalog : List Candidate) (r : Requirement) (score : Scorer) :
    Ranks catalog r score (placesByScore catalog r score) where
  perm := List.mergeSort_perm _ _
  ordered := by
    refine List.pairwise_iff_forall_sublist.2 fun {x y} hxy => ?_
    have hsorted : (placesByScore catalog r score).Pairwise fun x y => scoreLe r score x y = true :=
      List.pairwise_mergeSort scoreLe_trans scoreLe_total _
    have hle := List.pairwise_iff_forall_sublist.1 hsorted hxy
    exact (Binary64.totalLe_iff.1 hle).imp_right fun heq =>
      ⟨heq, lt_of_sublist_placesByScore hxy heq⟩

namespace Ranks

/-- **There is only one such order of the places.** -/
theorem unique (h : Ranks catalog r score order) (h' : Ranks catalog r score order') :
    order = order' :=
  List.Perm.eq_of_pairwise (fun _ _ _ _ hxy hyx => absurd hyx hxy.asymm) h.ordered h'.ordered
    (h.perm.trans h'.perm.symm)

theorem mem_iff (h : Ranks catalog r score order) :
    x ∈ order ↔ catalog[x.2]? = some x.1 ∧ qualifies x.1 r = true :=
  h.perm.mem_iff.trans mem_places

theorem eq_nil_iff (h : Ranks catalog r score order) :
    order = [] ↔ ∀ c ∈ catalog, qualifies c r = false := by
  rw [List.eq_nil_iff_forall_not_mem]
  refine ⟨fun hnone c hc => Bool.eq_false_iff.2 fun hq => ?_, fun hnone x hx => ?_⟩
  · obtain ⟨i, hi⟩ := List.mem_iff_getElem?.1 hc
    exact hnone (c, i) (h.mem_iff.2 ⟨hi, hq⟩)
  · obtain ⟨hi, hq⟩ := h.mem_iff.1 hx
    exact absurd hq (Bool.eq_false_iff.1 (hnone x.1 (List.mem_of_getElem? hi)))

/-- The first place comes before any other that qualifies. -/
theorem eq_or_precedes (h : Ranks catalog r score (x :: order)) {i : Nat}
    (hi : catalog[i]? = some c) (hq : qualifies c r = true) :
    x = (c, i) ∨ Precedes r score x (c, i) :=
  (List.mem_cons.1 (h.mem_iff.2 ⟨hi, hq⟩)).imp Eq.symm ((List.pairwise_cons.1 h.ordered).1 (c, i))

/-- The first place is that of the first best template. -/
theorem head?_eq_some_iff (h : Ranks catalog r score order) :
    order.head?.map Prod.fst = some c ↔ FirstBest catalog r score c := by
  cases order with
  | nil =>
    -- A best template would qualify, and so its place would be listed.
    refine iff_of_false nofun fun ⟨i, hi, hq, _, _⟩ => ?_
    have hmem : (c, i) ∈ [] := h.mem_iff.2 ⟨hi, hq⟩
    exact List.not_mem_nil hmem
  | cons x order =>
    obtain ⟨hi, hq⟩ := h.mem_iff.1 List.mem_cons_self
    constructor
    · intro hc
      obtain rfl : x.1 = c := Option.some.inj hc
      refine ⟨x.2, hi, hq, fun d hd hdq hbefore => ?_, fun j hj d hdj hdq heq => ?_⟩
      · obtain ⟨j, hdj⟩ := List.mem_iff_getElem?.1 hd
        obtain rfl | hless | ⟨heq, -⟩ := h.eq_or_precedes hdj hdq
        · exact hbefore.ne rfl
        · exact hbefore.asymm hless
        · exact hbefore.ne heq.symm
      · obtain rfl | hless | ⟨-, hlt⟩ := h.eq_or_precedes hdj hdq
        · exact Nat.lt_irrefl j hj
        · exact hless.ne heq.symm
        · exact Nat.lt_asymm hlt hj
    · rintro ⟨i, hci, hcq, hleast, hfirst⟩
      -- No other place can come before that of the first best template.
      obtain rfl | hless | ⟨heq, hlt⟩ := h.eq_or_precedes hci hcq
      · rfl
      · exact absurd hless (hleast x.1 (List.mem_of_getElem? hi) hq)
      · exact absurd heq (hfirst x.2 hlt x.1 hi hq)

end Ranks

/-! ## Rankings -/

/-- A template of a ranking is one of the catalog that qualifies, with its score. -/
theorem mem_ranking {x : Ranked} (hx : x ∈ ranking catalog r score) :
    x.candidate ∈ catalog ∧ qualifies x.candidate r = true ∧ x.score = score x.candidate r := by
  obtain ⟨c, hc, rfl⟩ := List.mem_map.1 (List.mem_mergeSort.1 hx)
  obtain ⟨hmem, hq⟩ := List.mem_filter.1 hc
  exact ⟨hmem, hq, rfl⟩

theorem Ranked.totalLe_trans (x y z : Ranked) (hxy : x.score.totalLe y.score = true)
    (hyz : y.score.totalLe z.score = true) : x.score.totalLe z.score = true :=
  Binary64.totalLe_trans hxy hyz

theorem Ranked.totalLe_total (x y : Ranked) :
    (x.score.totalLe y.score || y.score.totalLe x.score) = true :=
  Binary64.totalLe_total _ _

theorem pairwise_ranking (catalog : List Candidate) (r : Requirement) (score : Scorer) :
    (ranking catalog r score).Pairwise fun x y => x.score.totalLe y.score = true :=
  List.pairwise_mergeSort Ranked.totalLe_trans Ranked.totalLe_total _

/-- What a condition leaves of a ranking is what meets it, sorted by score. -/
theorem filter_ranking (catalog : List Candidate) (r : Requirement) (score : Scorer)
    (p : Ranked → Bool) :
    (ranking catalog r score).filter p =
      ((catalog.filter fun c => p ⟨c, score c r⟩ && qualifies c r).map
        fun c => ⟨c, score c r⟩).mergeSort fun x y => x.score.totalLe y.score := by
  rw [ranking, filter_mergeSort Ranked.totalLe_trans Ranked.totalLe_total, List.filter_map,
    List.filter_filter]
  rfl

/-- **A ranking lists the templates that qualify by score**, those of one score in the order of the
catalog, and the best template is the first one of the least score. -/
theorem ranking_by_score (catalog : List Candidate) (r : Requirement) (score : Scorer) :
    ∃ order, Ranks catalog r score order ∧
      (∀ order', Ranks catalog r score order' → order' = order) ∧
      ranking catalog r score = order.map (fun x => ⟨x.1, score x.1 r⟩) ∧
      selection catalog r score = order.map Prod.fst ∧
      (Selector.mk score).rank catalog r = order.map (fun x => ⟨x.1, score x.1 r⟩) ∧
      (Selector.mk score).select catalog r = order.map Prod.fst ∧
      ((Selector.mk score).best catalog r = none ↔ ∀ c ∈ catalog, qualifies c r = false) ∧
      ∀ c, (Selector.mk score).best catalog r = some c ↔ FirstBest catalog r score c := by
  have h := ranks_placesByScore catalog r score
  -- The sort looks at the scores only, so it does the same to the places as to what is ranked.
  have hranking : ranking catalog r score =
      (placesByScore catalog r score).map fun x => ⟨x.1, score x.1 r⟩ := by
    have hmap : ((placesByScore catalog r score).map fun x => ⟨x.1, score x.1 r⟩) =
        ((places catalog r).map fun x => ⟨x.1, score x.1 r⟩).mergeSort
          fun x y : Ranked => x.score.totalLe y.score :=
      List.map_mergeSort fun _ _ _ _ => rfl
    rw [ranking, ← map_fst_places, List.map_map, hmap]
    rfl
  have hselection : selection catalog r score =
      (placesByScore catalog r score).map Prod.fst := by
    rw [selection, hranking, List.map_map]
    rfl
  have hbest : (Selector.mk score).best catalog r =
      (placesByScore catalog r score).head?.map Prod.fst := by
    rw [Selector.best, Selector.select, hselection, List.head?_map]
  refine ⟨_, h, fun _ h' => h'.unique h, hranking, hselection, hranking, hselection, ?_, fun c => ?_⟩
  · rw [hbest, Option.map_eq_none_iff, List.head?_eq_none_iff, h.eq_nil_iff]
  · rw [hbest, h.head?_eq_some_iff]

/-- **The templates of a part of a catalog are ranked as in the ranking of the whole**, with the same
scores and in the same order, also among those of one score. -/
theorem ranking_filter (catalog : List Candidate) (r : Requirement) (score : Scorer)
    (p : Candidate → Bool) :
    ranking (catalog.filter p) r score =
      (ranking catalog r score).filter fun x => p x.candidate := by
  -- Which templates qualify and what their scores are does not depend on the others.
  rw [filter_ranking, ranking, List.filter_comm, List.filter_filter]

end Provisioning
