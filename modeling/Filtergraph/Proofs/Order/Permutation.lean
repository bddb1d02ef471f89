import Filtergraph.Order.Arrange

/-!
# Ordering keeps all items

Whatever the comparisons tell, ordering a list neither loses nor doubles an item.  Each stage only
moves items: the runs take them from the front of the list, merging puts two runs into one, and the
runs that wait hold all the items that have been taken.
-/

namespace Filtergraph

/-- Two steps have a result exactly if the second one has it for a result of the first. -/
theorem bind_eq_ok_iff
    {outcome : Except ε α}
    {next : α -> Except ε β}
    {b : β} :
    outcome >>= next = .ok b ↔ ∃ a, outcome = .ok a ∧ next a = .ok b := by
  cases outcome with
  | error failure => simp [bind, Except.bind]
  | ok a => simp [bind, Except.bind]

/-- A result is made of another one exactly if there is that other one. -/
theorem map_eq_ok_iff
    {outcome : Except ε α}
    {f : α -> β}
    {b : β} :
    outcome.map f = .ok b ↔ ∃ a, outcome = .ok a ∧ f a = b := by
  cases outcome <;> simp [Except.map]

namespace Order

variable {before : α -> α -> Except ε Bool}

/-! ## Merging -/

/-- Items that are moved from the front of the first list come first. -/
theorem take_append_perm
    {xs ys rest : List α}
    {count : Nat}
    (perm : rest.Perm (xs.drop count ++ ys)) :
    (xs.take count ++ rest).Perm (xs ++ ys) := by
  have moved := perm.append_left (xs.take count)
  rwa [← List.append_assoc, List.take_append_drop] at moved

/-- Items that are moved from the front of the second list come first. -/
theorem take_append_perm_right
    {xs ys rest : List α}
    {count : Nat}
    (perm : rest.Perm (xs ++ ys.drop count)) :
    (ys.take count ++ rest).Perm (xs ++ ys) := by
  have swapped := take_append_perm (perm.trans List.perm_append_comm)
  exact swapped.trans List.perm_append_comm

theorem settled_perm
    {side : End}
    {left right rest : List α}
    (settled : settled? side left right = some rest) :
    rest.Perm (left ++ right) := by
  unfold settled? at settled
  split at settled
  · rw [← Option.some.inj settled]
    exact .refl _
  · rw [← Option.some.inj settled, List.append_nil]
  · rw [← Option.some.inj settled]
    exact List.perm_append_comm
  · rw [← Option.some.inj settled]
  · cases settled

/-- However often the sides take turns, nothing is lost on the way. -/
theorem sweep_perm
    {side : End}
    {pace : Pace}
    {threshold : Nat}
    {left right : List α}
    {merged : List α × Nat}
    (swept : sweep before side pace threshold left right = .ok merged) :
    merged.1.Perm (left ++ right) := by
  fun_induction sweep before side pace threshold left right generalizing merged with
  | case1 threshold right =>
      rw [← Except.ok.inj swept]
      exact .refl _
  | case2 threshold left =>
      rw [← Except.ok.inj swept, List.append_nil]
  | case3 threshold x left y right pace rest settled =>
      rw [← Except.ok.inj swept]
      exact settled_perm settled
  | case4 threshold x left y right unsettled last wins leftHypothesis rightHypothesis =>
      obtain ⟨isLeft, -, moved⟩ := bind_eq_ok_iff.mp swept
      dsimp only at moved
      split at moved
      · obtain ⟨rest, sweptRest, joined⟩ := bind_eq_ok_iff.mp moved
        rw [← Except.ok.inj joined]
        exact (leftHypothesis isLeft sweptRest).cons x
      · obtain ⟨rest, sweptRest, joined⟩ := bind_eq_ok_iff.mp moved
        rw [← Except.ok.inj joined]
        exact ((rightHypothesis isLeft sweptRest).cons y).trans List.perm_middle.symm
  | case5 threshold x left y right unsettled inductionHypothesis =>
      obtain ⟨count, -, moved⟩ := bind_eq_ok_iff.mp swept
      dsimp only at moved
      split at moved
      · next rest settled =>
        rw [← Except.ok.inj moved]
        exact take_append_perm (settled_perm settled)
      · obtain ⟨rest, sweptRest, joined⟩ := bind_eq_ok_iff.mp moved
        rw [← Except.ok.inj joined]
        apply take_append_perm
        exact ((inductionHypothesis count sweptRest).cons y).trans List.perm_middle.symm
  | case6 threshold x left y right unsettled others inductionHypothesis =>
      obtain ⟨count, -, moved⟩ := bind_eq_ok_iff.mp swept
      dsimp only at moved
      split at moved
      · next rest settled =>
        rw [← Except.ok.inj moved]
        exact take_append_perm_right (settled_perm settled)
      · split at moved
        · next rest settled =>
          rw [← Except.ok.inj moved]
          exact take_append_perm_right ((settled_perm settled).cons x)
        · obtain ⟨rest, sweptRest, joined⟩ := bind_eq_ok_iff.mp moved
          rw [← Except.ok.inj joined]
          exact take_append_perm_right ((inductionHypothesis count sweptRest).cons x)

theorem interleave_perm
    {threshold : Nat}
    {left right : List α}
    {merged : List α × Nat}
    (interleaved : interleave before threshold left right = .ok merged) :
    merged.1.Perm (left ++ right) := by
  rw [interleave] at interleaved
  split at interleaved
  · obtain ⟨rest, swept, joined⟩ := bind_eq_ok_iff.mp interleaved
    rw [← Except.ok.inj joined]
    exact take_append_perm_right (sweep_perm swept)
  · obtain ⟨rest, swept, joined⟩ := bind_eq_ok_iff.mp interleaved
    rw [← Except.ok.inj joined]
    have turned := take_append_perm (sweep_perm swept)
    exact (List.reverse_perm _).trans
      (turned.trans ((List.reverse_perm left).append (List.reverse_perm right)))

/-- Merging two runs keeps the items of both. -/
theorem merge_perm
    {threshold : Nat}
    {left right : List α}
    {merged : List α × Nat}
    (joined : merge before threshold left right = .ok merged) :
    merged.1.Perm (left ++ right) := by
  unfold merge at joined
  split at joined
  · rw [← Except.ok.inj joined, List.append_nil]
  · next y others =>
    obtain ⟨inFront, -, joined⟩ := bind_eq_ok_iff.mp joined
    split at joined
    · rw [← Except.ok.inj joined]
    · obtain ⟨behind, -, joined⟩ := bind_eq_ok_iff.mp joined
      dsimp only at joined
      split at joined
      · rw [← Except.ok.inj joined]
      · obtain ⟨middle, interleaved, joined⟩ := bind_eq_ok_iff.mp joined
        rw [← Except.ok.inj joined]
        have inner := (interleave_perm interleaved).append_right
          ((y :: others).drop ((y :: others).length - behind))
        rw [List.append_assoc, List.take_append_drop] at inner
        have outer := take_append_perm inner
        rwa [← List.append_assoc] at outer

/-! ## Runs -/

/-- An ascending run is taken from the front. -/
theorem ascend_perm
    {last : α}
    {run xs ascended : List α}
    (taken : ascend before last run xs = .ok ascended) :
    ∃ items, items <+: xs ∧ ascended.Perm (items ++ last :: run) := by
  induction xs generalizing last run with
  | nil =>
      rw [← Except.ok.inj taken]
      exact ⟨[], List.nil_prefix, List.reverse_perm _⟩
  | cons x rest inductionHypothesis =>
      obtain ⟨stops, -, moved⟩ := bind_eq_ok_iff.mp taken
      split at moved
      · rw [← Except.ok.inj moved]
        exact ⟨[], List.nil_prefix, List.reverse_perm _⟩
      · obtain ⟨items, fromRest, perm⟩ := inductionHypothesis moved
        exact ⟨x :: items, List.prefix_cons_inj x |>.mpr fromRest,
          perm.trans List.perm_middle⟩

/-- A descending run is turned around when it is taken. -/
theorem descend_perm
    {last : α}
    {run xs turned : List α}
    (taken : descend before last run xs = .ok turned) :
    ∃ items, items <+: xs ∧ turned.Perm (items ++ last :: run) := by
  induction xs generalizing last run with
  | nil =>
      rw [← Except.ok.inj taken]
      exact ⟨[], List.nil_prefix, .refl _⟩
  | cons x rest inductionHypothesis =>
      obtain ⟨goes, -, moved⟩ := bind_eq_ok_iff.mp taken
      split at moved
      · obtain ⟨items, fromRest, perm⟩ := inductionHypothesis moved
        exact ⟨x :: items, List.prefix_cons_inj x |>.mpr fromRest,
          perm.trans List.perm_middle⟩
      · rw [← Except.ok.inj moved]
        exact ⟨[], List.nil_prefix, .refl _⟩

/-- A run at the front of a list holds the items there, in some order, and at least the first. -/
theorem leadingRun_perm
    {x : α}
    {xs run : List α}
    (leading : leadingRun before (x :: xs) = .ok run) :
    ∃ items, x :: items <+: x :: xs ∧ run.Perm (x :: items) := by
  cases xs with
  | nil =>
      rw [← Except.ok.inj leading]
      exact ⟨[], List.prefix_refl _, .refl _⟩
  | cons y rest =>
      have behind (items : List α) (fromRest : items <+: rest) :
          x :: y :: items <+: x :: y :: rest := by
        simpa using fromRest
      have shifted (items : List α) : (items ++ [y, x]).Perm (x :: y :: items) :=
        List.perm_append_comm.trans (.swap x y items)
      obtain ⟨descends, -, moved⟩ := bind_eq_ok_iff.mp leading
      split at moved
      · obtain ⟨items, fromRest, perm⟩ := descend_perm moved
        exact ⟨y :: items, behind items fromRest, perm.trans (shifted items)⟩
      · obtain ⟨items, fromRest, perm⟩ := ascend_perm moved
        exact ⟨y :: items, behind items fromRest, perm.trans (shifted items)⟩

/-- What is made of the items at the front of a list is made of as many as it is long. -/
theorem perm_take_of_prefix
    {items xs run : List α}
    (atFront : items <+: xs)
    (perm : run.Perm items) :
    run.Perm (xs.take run.length) := by
  rw [perm.length_eq, ← List.prefix_iff_eq_take.mp atFront]
  exact perm

/-- An item is placed among those of a run. -/
theorem place_perm
    {run placed : List α}
    {x : α}
    (found : place before run x = .ok placed) :
    placed.Perm (x :: run) := by
  obtain ⟨position, -, joined⟩ := bind_eq_ok_iff.mp found
  rw [← Except.ok.inj joined]
  have moved : (run.take position ++ x :: run.drop position).Perm
      (x :: (run.take position ++ run.drop position)) := List.perm_middle
  rwa [List.take_append_drop] at moved

theorem places_perm
    {items run placed : List α}
    (found : items.foldlM (place before) run = .ok placed) :
    placed.Perm (items ++ run) := by
  induction items generalizing run with
  | nil =>
      rw [← Except.ok.inj found]
      exact .refl _
  | cons x rest inductionHypothesis =>
      rw [List.foldlM_cons] at found
      obtain ⟨larger, one, others⟩ := bind_eq_ok_iff.mp found
      have grown := (place_perm one).append_left rest
      exact (inductionHypothesis others).trans (grown.trans List.perm_middle)

/-- A run that takes in further items holds the items at the front of the list, in some order, and
at least the first. -/
theorem extendedRun_perm
    {least : Nat}
    {x : α}
    {xs run : List α}
    (extended : extendedRun before least (x :: xs) = .ok run) :
    run ≠ [] ∧ run.Perm ((x :: xs).take run.length) := by
  obtain ⟨lead, leading, placed⟩ := bind_eq_ok_iff.mp extended
  obtain ⟨items, atFront, perm⟩ := leadingRun_perm leading
  have gathered := places_perm placed
  constructor
  · apply List.ne_nil_of_length_pos
    rw [gathered.length_eq, List.length_append, perm.length_eq, List.length_cons]
    omega
  · have leadTaken := perm_take_of_prefix atFront perm
    have joined := gathered.trans (List.perm_append_comm.trans (leadTaken.append_right _))
    rw [← List.take_add] at joined
    exact perm_take_of_prefix (List.take_prefix _ _) joined

/-! ## Runs that wait -/

namespace Runs

/-- The items of the runs that wait. -/
def items (pending : List (Pending α)) : List α :=
  pending.flatMap Pending.run

@[simp] theorem items_nil : items ([] : List (Pending α)) = [] := rfl

@[simp] theorem items_cons (entry : Pending α) (pending : List (Pending α)) :
    items (entry :: pending) = entry.run ++ items pending := rfl

/-- Two runs that are merged give way to one with their items. -/
theorem items_merge
    {threshold : Nat}
    {last previous : List α}
    {merged : List α × Nat}
    (joined : merge before threshold previous last = .ok merged)
    (below : List (Pending α)) :
    (merged.1 ++ items below).Perm (last ++ (previous ++ items below)) := by
  have swapped := (merge_perm joined).trans List.perm_append_comm
  rw [← List.append_assoc]
  exact swapped.append_right _

/-- Merging pending runs keeps their items. -/
theorem collapse_perm
    {depth threshold : Nat}
    {pending : List (Pending α)}
    {runs : Runs α}
    (collapsed : collapse before depth threshold pending = .ok runs) :
    (items runs.pending).Perm (items pending) := by
  fun_induction collapse before depth threshold pending generalizing runs with
  | case1 threshold last previous below deeper inductionHypothesis =>
      obtain ⟨merged, joined, rest⟩ := bind_eq_ok_iff.mp collapsed
      exact (inductionHypothesis _ _ rest).trans (items_merge joined below)
  | case2 threshold last previous below shallow =>
      rw [← Except.ok.inj collapsed]
  | case3 threshold pending short =>
      rw [← Except.ok.inj collapsed]

theorem push_perm
    {length : Nat}
    {runs pushed : Runs α}
    {run : List α}
    (added : push before length runs run = .ok pushed) :
    (items pushed.pending).Perm (run ++ items runs.pending) := by
  unfold push at added
  split at added
  · next none =>
    rw [← Except.ok.inj added, none]
    exact .refl _
  · obtain ⟨collapsed, joined, added⟩ := bind_eq_ok_iff.mp added
    have kept := (collapse_perm joined).append_left run
    split at added
    · next none =>
      rw [← Except.ok.inj added]
      rw [none] at kept
      exact kept
    · next last below some =>
      rw [← Except.ok.inj added]
      rw [some] at kept
      exact kept

theorem finish_perm
    {threshold : Nat}
    {pending : List (Pending α)}
    {arranged : List α}
    (finished : finish before threshold pending = .ok arranged) :
    arranged.Perm (items pending) := by
  fun_induction finish before threshold pending generalizing arranged with
  | case1 threshold =>
      rw [← Except.ok.inj finished]
      exact .refl _
  | case2 threshold last =>
      rw [← Except.ok.inj finished, items_cons, items_nil, List.append_nil]
  | case3 threshold last previous =>
      obtain ⟨merged, joined, rest⟩ := bind_eq_ok_iff.mp finished
      rw [← Except.ok.inj rest]
      simpa using items_merge joined []
  | case4 threshold last previous first below shorter inductionHypothesis =>
      obtain ⟨merged, joined, rest⟩ := bind_eq_ok_iff.mp finished
      have kept := (items_merge joined below).append_left last.run
      exact (inductionHypothesis _ _ rest).trans kept
  | case5 threshold last previous first below longer inductionHypothesis =>
      obtain ⟨merged, joined, rest⟩ := bind_eq_ok_iff.mp finished
      exact (inductionHypothesis _ _ rest).trans (items_merge joined (first :: below))

/-- Splitting into runs takes up every item once. -/
theorem split_perm
    {length least : Nat}
    {runs rest : Runs α}
    {xs : List α}
    (taken : split before length least runs xs = .ok rest) :
    (items rest.pending).Perm (items runs.pending ++ xs) := by
  fun_induction split before length least runs xs with
  | case1 runs =>
      rw [← Except.ok.inj taken, List.append_nil]
  | case2 runs x xs inductionHypothesis =>
      obtain ⟨run, extended, taken⟩ := bind_eq_ok_iff.mp taken
      obtain ⟨pushed, added, taken⟩ := bind_eq_ok_iff.mp taken
      obtain ⟨nonempty, atFront⟩ := extendedRun_perm extended
      have left : xs.drop (run.length - 1) = (x :: xs).drop run.length := by
        obtain ⟨n, length⟩ := Nat.exists_eq_add_one.mpr (List.length_pos_iff.mpr nonempty)
        rw [length, List.drop_succ_cons, Nat.add_sub_cancel]
      have further := inductionHypothesis run pushed taken
      rw [left] at further
      have held := ((push_perm added).trans (atFront.append_right _)).append_right
        ((x :: xs).drop run.length)
      rw [List.append_assoc] at held
      exact (further.trans held).trans (take_append_perm_right (.refl _))

end Runs

/-- Ordering a list keeps all its items, each as often as it is there. -/
theorem arrange_perm
    {xs arranged : List α}
    (ordered : arrange before xs = .ok arranged) :
    arranged.Perm xs := by
  obtain ⟨runs, taken, finished⟩ := bind_eq_ok_iff.mp ordered
  exact (Runs.finish_perm finished).trans (Runs.split_perm taken)

end Order
end Filtergraph
