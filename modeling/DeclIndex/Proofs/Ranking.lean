import DeclIndex.Proofs.ScoreOrder
import Mathlib.Data.List.Basic

/-!
# Ranking as a stable sort

The ranking of some items is the stable sort of those that match, best first. What a stable sort gives is fixed by the order of
the keys and by the order among elements of one key. So it does not matter whether items are left out before or after.
-/

namespace DeclIndex.Search

/-! ## Sorting by a key -/

section Sorting

variable {α : Type} {key : α → Int}

/-- Whether an element may stand before another when the greatest key comes first. -/
def before (key : α → Int) (a b : α) : Bool :=
  key b ≤ key a

theorem before_trans (a b c : α) (first : before key a b) (second : before key b c) : before key a c := by
  simp only [before, decide_eq_true_eq] at *
  omega

theorem before_total (a b : α) : before key a b || before key b a := by
  simp only [before, Bool.or_eq_true, decide_eq_true_eq]
  omega

theorem pairwise_sorted (group : List α) : (group.mergeSort (before key)).Pairwise fun a b => key b ≤ key a := by
  simpa [before] using @List.pairwise_mergeSort _ (before key) before_trans before_total group

/-- What has one key keeps its order. -/
theorem filter_level_sorted (group : List α) (level : Int) :
    (group.mergeSort (before key)).filter (key · = level) = group.filter (key · = level) := by
  have level_sorted : (group.filter (key · = level)).Pairwise (before key · ·) := by
    refine List.pairwise_of_forall_mem_list fun a inFirst b inSecond => ?_
    simp only [List.mem_filter, decide_eq_true_eq] at inFirst inSecond
    simp [before, inFirst.2, inSecond.2]
  have inside : (group.filter (key · = level)).Sublist (group.mergeSort (before key)) :=
    List.sublist_mergeSort before_trans before_total level_sorted List.filter_sublist
  have kept : (group.filter (key · = level)).Sublist ((group.mergeSort (before key)).filter (key · = level)) := by
    simpa using inside.filter (key · = level)
  exact (kept.eq_of_length ((List.mergeSort_perm _ _).filter _).length_eq.symm).symm

/-- A sorted list is known by what it has of each key, in order. -/
theorem eq_of_levels {group others : List α} (sorted : group.Pairwise fun a b => key b ≤ key a)
    (sortedToo : others.Pairwise fun a b => key b ≤ key a)
    (levels : ∀ level, group.filter (key · = level) = others.filter (key · = level)) : group = others := by
  induction group generalizing others with
  | nil =>
    cases others with
    | nil => rfl
    | cons b rest => simpa using levels (key b)
  | cons a rest ih =>
    cases others with
    | nil => simpa using levels (key a)
    | cons b more =>
      obtain ⟨greatest, restSorted⟩ := List.pairwise_cons.mp sorted
      obtain ⟨greatestToo, moreSorted⟩ := List.pairwise_cons.mp sortedToo
      have members : ∀ c, c ∈ a :: rest ↔ c ∈ b :: more := by
        intro c
        have same := congrArg (c ∈ ·) (levels (key c))
        simpa using same
      -- each head has the greatest key of its list, and both lists have the same keys
      have same : key a = key b := by
        have lower : ∀ c ∈ b :: more, key c ≤ key b := List.forall_mem_cons.mpr ⟨Int.le_refl _, greatestToo⟩
        have upper : ∀ c ∈ a :: rest, key c ≤ key a := List.forall_mem_cons.mpr ⟨Int.le_refl _, greatest⟩
        exact Int.le_antisymm (lower a ((members a).mp List.mem_cons_self)) (upper b ((members b).mpr List.mem_cons_self))
      have heads := levels (key b)
      simp only [List.filter_cons, same, decide_true, if_true, List.cons.injEq] at heads
      obtain ⟨rfl, _⟩ := heads
      have rests : ∀ level, rest.filter (key · = level) = more.filter (key · = level) := by
        intro level
        have both := levels level
        by_cases here : key a = level
        · simpa [here] using both
        · simpa [here] using both
      rw [ih restSorted moreSorted rests]

/-- Elements may be left out before or after sorting. -/
theorem filter_sorted (keep : α → Bool) (group : List α) :
    (group.mergeSort (before key)).filter keep = (group.filter keep).mergeSort (before key) := by
  refine eq_of_levels ((pairwise_sorted group).filter keep) (pairwise_sorted _) fun level => ?_
  rw [filter_level_sorted, List.filter_comm, filter_level_sorted, List.filter_comm]

end Sorting

/-! ## Ranking -/

section Ranking

variable {α : Type} (view : α → Item) (query source scope : String)

/-- The score of an item. -/
def scoreOf (item : α) : Float :=
  (scoreItem query (view item)).score

/-- The items of a source in a scope that match a query, in their order. -/
def candidates (items : List α) : List α :=
  (select view source scope items).filter fun item => (scoreItem query (view item)).matched

variable {query}

/-- A query that asks for something gets the candidates, sorted by the keys of their scores. -/
theorem rank_eq_sorted (asked : isBlankQuery query = false) (items : List α) :
    rank view query source scope items =
      (candidates view query source scope items).mergeSort (before fun item => orderKey (scoreOf view query item)) := by
  have pairs : scored view query (select view source scope items) =
      (candidates view query source scope items).map fun item => (orderKey (scoreOf view query item), item) := by
    rw [scored, candidates, ← List.filterMap_eq_map', List.filterMap_filter]
    rfl
  have sorted := @List.map_mergeSort _ _ (before fun item => orderKey (scoreOf view query item))
    (fun a b => decide (b.1 ≤ a.1)) (fun item => (orderKey (scoreOf view query item), item))
    (candidates view query source scope items) (fun _ _ _ _ => rfl)
  rw [rank, if_neg (by simp [asked]), pairs, ← sorted, List.map_map]
  exact List.map_id _

/-- What was ranked is ranked already. -/
theorem rank_rank (asked : isBlankQuery query = false) (items : List α) :
    rank view query source scope (rank view query source scope items) = rank view query source scope items := by
  have kept : candidates view query source scope (rank view query source scope items) = rank view query source scope items := by
    rw [candidates, select, List.filter_filter, List.filter_eq_self]
    intro item member
    rw [rank_eq_sorted view source scope asked, List.mem_mergeSort, candidates, select, List.filter_filter] at member
    exact (List.mem_filter.mp member).2
  rw [rank_eq_sorted view source scope asked (rank view query source scope items), kept,
    rank_eq_sorted view source scope asked items]
  apply List.mergeSort_of_pairwise
  exact List.pairwise_mergeSort before_trans before_total _

/-- A ranking holds the items that match, each as often as it was given, in the order of their scores; items of one score stand
in the order in which they were given, and ranking once more changes nothing. -/
theorem rank_stablySorted (view : α → Item) (query source scope : String) (asked : isBlankQuery query = false)
    (items : List α) :
    let ranked := rank view query source scope items
    let matching := (select view source scope items).filter fun item => (scoreItem query (view item)).matched
    ranked.Perm matching ∧
      ranked.Pairwise (fun a b => ¬ scoreOf view query a < scoreOf view query b) ∧
      (∀ level, ranked.filter (scoreOf view query · == level) = matching.filter (scoreOf view query · == level)) ∧
      rank view query source scope ranked = ranked := by
  intro ranked matching
  have sorted : ranked = matching.mergeSort (before fun item => orderKey (scoreOf view query item)) :=
    rank_eq_sorted view source scope asked items
  refine ⟨?_, ?_, ?_, rank_rank view source scope asked items⟩
  · rw [sorted]
    exact List.mergeSort_perm _ _
  · rw [sorted]
    refine (pairwise_sorted matching).imp fun {a b} later rises => ?_
    have := (lt_iff_orderKey.mp rises).2
    omega
  · intro level
    have split : (fun item => scoreOf view query item == level) = fun item =>
        (decide ((scoreOf view query item).isNaN = false ∧ level.isNaN = false)) &&
          decide (orderKey (scoreOf view query item) = orderKey level) := by
      funext item
      rw [Bool.eq_iff_iff, beq_iff_orderKey]
      simp
    rw [split, ← List.filter_filter, ← List.filter_filter, sorted, filter_level_sorted]

/-- Items with two that fit a query equally well, behind one that fits it less. -/
def sums : List Item :=
  [{ key := "stdlib:list", name := "checksum", source := "stdlib" }, { key := "stdlib:int", name := "sum", source := "stdlib" },
    { key := "stdlib:max", name := "max", source := "stdlib" }, { key := "vodka:sum", name := "sum", source := "vodka" }]

theorem rank_stablySorted_sums :
    let ranked := rank id "sum" allSources "" sums
    isBlankQuery "sum" = false ∧ ranked.length = 3 ∧
      (ranked.filter (scoreOf id "sum" · == 7800)).map (·.key) = ["stdlib:int", "vodka:sum"] ∧
      rank id "sum" allSources "" ranked = ranked := by
  intro ranked
  have asked : isBlankQuery "sum" = false := by decide +kernel
  obtain ⟨sameItems, _, sameOrder, again⟩ := rank_stablySorted id "sum" allSources "" asked sums
  refine ⟨asked, ?_, ?_, again⟩
  · rw [sameItems.length_eq]
    decide +kernel
  · rw [sameOrder]
    decide +kernel

/-- Leaving items out of a ranking gives the ranking of the items that stay. -/
theorem rank_narrowed (view : α → Item) (query source scope : String) (items : List α) :
    rank view query source scope items = select view source scope (rank view query allSources "" items) := by
  have all : select view allSources "" items = items := by
    simp [select, Item.isFrom, Item.isIn]
  cases asked : isBlankQuery query with
  | true => rw [rank, rank, if_pos asked, if_pos asked, all]
  | false =>
    rw [rank_eq_sorted view source scope asked, rank_eq_sorted view allSources "" asked, candidates, candidates, all, select,
      select, filter_sorted, List.filter_comm]

end Ranking

end DeclIndex.Search
