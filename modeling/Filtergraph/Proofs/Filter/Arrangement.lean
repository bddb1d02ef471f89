import Filtergraph.Filter.Compile
import Filtergraph.Proofs.Order.Permutation

/-!
# Stable arrangements

A stable arrangement of a list by ranks has the same items in ascending ranks, and keeps the order
of the items of each rank.  There is exactly one, it is what filters with integers for priorities
are put into, and nothing of the list counts for it but the order within each rank.
-/

namespace Filtergraph

/-- The items of one rank, in order. -/
def rankClass (rank : α -> Int) (r : Int) (items : List α) : List α :=
  items.filter fun item => decide (rank item = r)

/-- Items are in their own class. -/
@[simp] theorem mem_rankClass
    {rank : α -> Int}
    {r : Int}
    {items : List α}
    {item : α} :
    item ∈ rankClass rank r items ↔ item ∈ items ∧ rank item = r := by
  simp [rankClass]

theorem rankClass_cons_self
    (rank : α -> Int)
    (head : α)
    (tail : List α) :
    rankClass rank (rank head) (head :: tail) = head :: rankClass rank (rank head) tail := by
  simp [rankClass]

theorem rankClass_cons_of_ne
    {rank : α -> Int}
    {r : Int}
    {head : α}
    (different : rank head ≠ r)
    (tail : List α) :
    rankClass rank r (head :: tail) = rankClass rank r tail := by
  simp [rankClass, different]

/-- A list is a stable arrangement of another one by ranks. -/
structure StablyArranges (rank : α -> Int) (items arranged : List α) : Prop where
  /-- No item is lost, added or doubled. -/
  perm : arranged.Perm items
  /-- Lower ranks come first. -/
  ascending : arranged.Pairwise fun first second => rank first ≤ rank second
  /-- Items of one rank keep their order. -/
  stable : ∀ r, rankClass rank r arranged = rankClass rank r items

/-- Lists with the same classes have the same items. -/
theorem mem_iff_of_rankClass_eq
    {rank : α -> Int}
    {left right : List α}
    (sameClasses : ∀ r, rankClass rank r left = rankClass rank r right)
    (item : α) :
    item ∈ left ↔ item ∈ right := by
  have inClass := congrArg (item ∈ ·) (sameClasses (rank item))
  simpa using inClass

/-- The head of an ascending list has the least rank. -/
theorem rank_head_le
    {rank : α -> Int}
    {head item : α}
    {tail : List α}
    (ascends : (head :: tail).Pairwise fun first second => rank first ≤ rank second)
    (member : item ∈ head :: tail) :
    rank head ≤ rank item := by
  rcases List.mem_cons.mp member with equal | later
  · exact Int.le_of_eq (congrArg rank equal.symm)
  · exact List.rel_of_pairwise_cons ascends later

/-- Ascending lists are equal when their classes are. -/
theorem eq_of_rankClass_eq
    {rank : α -> Int}
    {left right : List α}
    (leftAscends : left.Pairwise fun first second => rank first ≤ rank second)
    (rightAscends : right.Pairwise fun first second => rank first ≤ rank second)
    (sameClasses : ∀ r, rankClass rank r left = rankClass rank r right) :
    left = right := by
  have sameMembers := mem_iff_of_rankClass_eq sameClasses
  induction left generalizing right with
  | nil =>
      symm
      apply List.eq_nil_iff_forall_not_mem.mpr
      intro item member
      simpa using (sameMembers item).mpr member
  | cons x xs inductionHypothesis =>
      cases right with
      | nil => simpa using (sameMembers x).mp List.mem_cons_self
      | cons y ys =>
          -- both heads have the least rank, so each leads the class of that rank
          have xLeast := rank_head_le leftAscends ((sameMembers y).mpr List.mem_cons_self)
          have yLeast := rank_head_le rightAscends ((sameMembers x).mp List.mem_cons_self)
          have sameRank : rank y = rank x := Int.le_antisymm yLeast xLeast
          have leading := sameClasses (rank x)
          rw [rankClass_cons_self, ← sameRank, rankClass_cons_self, sameRank] at leading
          obtain ⟨headEqual, tailEqual⟩ := List.cons.inj leading
          subst y
          have tailClasses (r : Int) : rankClass rank r xs = rankClass rank r ys := by
            by_cases own : rank x = r
            · rw [← own]
              exact tailEqual
            · have classes := sameClasses r
              rwa [rankClass_cons_of_ne own, rankClass_cons_of_ne own] at classes
          have tailEqual := inductionHypothesis leftAscends.of_cons rightAscends.of_cons
            tailClasses (mem_iff_of_rankClass_eq tailClasses)
          rw [tailEqual]

namespace StablyArranges

variable {rank : α -> Int}
variable {items others arranged arrangedToo : List α}

/-- Lists with the same classes have the same stable arrangement. -/
theorem eq_of_classes
    (arranges : StablyArranges rank items arranged)
    (arrangesToo : StablyArranges rank others arrangedToo)
    (sameClasses : ∀ r, rankClass rank r others = rankClass rank r items) :
    arrangedToo = arranged := by
  apply eq_of_rankClass_eq arrangesToo.ascending arranges.ascending
  intro r
  rw [arrangesToo.stable, sameClasses, ← arranges.stable]

/-- Ranks that are the same for all items give the same stable arrangement. -/
theorem eq_of_ranks
    {rankToo : α -> Int}
    (arranges : StablyArranges rank items arranged)
    (arrangesToo : StablyArranges rankToo items arrangedToo)
    (sameRank : ∀ item ∈ items, rank item = rankToo item) :
    arrangedToo = arranged := by
  have sameRankToo : ∀ item ∈ arrangedToo, rank item = rankToo item := fun item member =>
    sameRank item (arrangesToo.perm.mem_iff.mp member)
  have ascends : arrangedToo.Pairwise fun first second => rank first ≤ rank second := by
    refine arrangesToo.ascending.imp_of_mem ?_
    intro first second firstMember secondMember inOrder
    rwa [sameRankToo first firstMember, sameRankToo second secondMember]
  apply eq_of_rankClass_eq ascends arranges.ascending
  intro r
  calc
    rankClass rank r arrangedToo = rankClass rankToo r arrangedToo :=
      List.filter_congr fun item member => by rw [sameRankToo item member]
    _ = rankClass rankToo r items := arrangesToo.stable r
    _ = rankClass rank r items := List.filter_congr fun item member => by rw [sameRank item member]
    _ = rankClass rank r arranged := (arranges.stable r).symm

/-- Sorting by merging puts a list into its stable arrangement. -/
theorem mergeSort (rank : α -> Int) (items : List α) :
    StablyArranges rank items
      (items.mergeSort fun first second => decide (rank first ≤ rank second)) := by
  have transitive (a b c : α) (ab : decide (rank a ≤ rank b) = true)
      (bc : decide (rank b ≤ rank c) = true) : decide (rank a ≤ rank c) = true := by
    simp only [decide_eq_true_eq] at ab bc ⊢
    exact Int.le_trans ab bc
  have total (a b : α) : (decide (rank a ≤ rank b) || decide (rank b ≤ rank a)) = true := by
    simpa using Int.le_total (rank a) (rank b)
  have perm := List.mergeSort_perm items fun first second => decide (rank first ≤ rank second)
  refine ⟨perm, ?_, ?_⟩
  · simpa using List.pairwise_mergeSort transitive total items
  · intro r
    have classAscends : (rankClass rank r items).Pairwise fun first second =>
        decide (rank first ≤ rank second) = true := by
      apply List.pairwise_of_forall_mem_list
      intro first firstMember second secondMember
      rw [(mem_rankClass.mp firstMember).2, (mem_rankClass.mp secondMember).2]
      simp
    -- the class stays a sublist, and nothing else of its rank is there
    have inOrder := List.sublist_mergeSort transitive total classAscends
      (List.filter_sublist : (rankClass rank r items).Sublist items)
    have filtered := inOrder.filter fun item => decide (rank item = r)
    rw [rankClass, List.filter_filter] at filtered
    simp only [Bool.and_self] at filtered
    exact (filtered.eq_of_length (perm.filter _).length_eq.symm).symm

end StablyArranges

namespace Filter

/-- The integer by which a filter is ordered; one whose priority is no integer counts as zero. -/
def rank (filter : Filter) : Int :=
  filter.integerPriority?.getD 0

/-- The priority is an integer, or a truth value in place of zero or one. -/
def HasIntegerPriority (filter : Filter) : Prop :=
  filter.integerPriority?.isSome = true

/-- A filter with an integer for its priority is ordered by that integer. -/
theorem rank_of_priority
    {filter : Filter}
    {n : Int}
    (priority : filter.priority = .ok (.int n)) :
    filter.HasIntegerPriority ∧ filter.rank = n := by
  have read : filter.integerPriority? = some n := by
    rw [integerPriority?, priority]
    rfl
  exact ⟨by rw [HasIntegerPriority, read]; rfl, by rw [rank, read]; rfl⟩

/-- Filters with integers for priorities are put into their stable arrangement. -/
theorem arrange_of_integerPriorities [BEq α]
    {filterOf : α -> Filter}
    {items : List α}
    (integral : ∀ item ∈ items, (filterOf item).HasIntegerPriority) :
    ∃ arranged, arrange filterOf items = .ok arranged ∧
      StablyArranges (fun item => (filterOf item).rank) items arranged := by
  refine ⟨_, ?_, StablyArranges.mergeSort (fun item => (filterOf item).rank) items⟩
  rw [arrange, if_pos (List.all_eq_true.mpr integral)]
  rfl

/-- The items stay when their keys are put beside them. -/
theorem map_fst_of_mapM
    {key : α -> Except Failure β}
    {items : List α}
    {keyed : List (α × β)}
    (paired : (items.mapM fun item => return (item, ← key item)) = .ok keyed) :
    keyed.map Prod.fst = items := by
  induction items generalizing keyed with
  | nil =>
      obtain rfl := Except.ok.inj paired
      rfl
  | cons item rest inductionHypothesis =>
      simp only [List.mapM_cons, bind_eq_ok_iff] at paired
      obtain ⟨_, ⟨k, -, own⟩, others, pairedToo, joined⟩ := paired
      obtain rfl := Except.ok.inj own
      obtain rfl := Except.ok.inj joined
      rw [List.map_cons, inductionHypothesis pairedToo]

/-- Filters of any priorities that are put in order are the same filters. -/
theorem arrange_perm [BEq α]
    {filterOf : α -> Filter}
    {items inOrder : List α}
    (arranges : arrange filterOf items = .ok inOrder) :
    inOrder.Perm items := by
  rw [arrange] at arranges
  split at arranges
  · rw [← Except.ok.inj arranges]
    exact List.mergeSort_perm _ _
  · simp only [bind_eq_ok_iff] at arranges
    obtain ⟨keyed, paired, arranged, ordered, same⟩ := arranges
    rw [← Except.ok.inj same]
    have perm := (Order.arrange_perm ordered).map Prod.fst
    rwa [map_fst_of_mapM paired] at perm

end Filter
end Filtergraph
