import Filtergraph.Proofs.Overlay.Calculator
import Filtergraph.Proofs.Overlay.Effect

/-!
# Distances from far edges

A distance from a far edge is written between the extents of the frame and of the overlay, with a
minus on either side.  A number, a product or an expression in parentheses is subtracted as a whole,
and the overlay lies that far away from the edge.  Of other expressions only what stands before the
first sign is subtracted: the signs behind it are not turned around.
-/

namespace Filtergraph

open Expression

/-- A coordinate is worked out to leave a distance between the overlay and the far edge. -/
def LeavesDistance
    (evaluate : (String -> Int) -> String -> Option Int)
    (values : String -> Int)
    (axis : Axis)
    (coordinate : String)
    (distance : Int) : Prop :=
  evaluate values coordinate = some (values axis.frame - distance - values axis.overlay)

/-- Only one distance is left. -/
theorem LeavesDistance.iff_eq
    {evaluate : (String -> Int) -> String -> Option Int}
    {values : String -> Int}
    {axis : Axis}
    {coordinate : String}
    {distance : Int}
    (leaves : LeavesDistance evaluate values axis coordinate distance)
    (other : Int) :
    LeavesDistance evaluate values axis coordinate other ↔ distance = other := by
  rw [LeavesDistance] at leaves ⊢
  rw [leaves, Option.some_inj]
  omega

/-- The variables for the extents along an axis have names of the filter language. -/
structure Axis.WellNamed (axis : Axis) : Prop where
  frame : isName axis.frame.toList = true
  overlay : isName axis.overlay.toList = true

namespace Offset

/-- The expression that a distance from a far edge is written as. -/
def fromFarExpression (axis : Axis) (distance : Expression) : Expression :=
  .minus (distance.behindMinus (.named axis.frame)) (.named axis.overlay)

/-- The text of a distance becomes part of the coordinate, whatever the distance consists of. -/
theorem spells_fromFar
    {axis : Axis}
    (wellNamed : axis.WellNamed)
    {text : String}
    {distance : Expression}
    (spelled : distance.Spells .sum text.toList) :
    (fromFarExpression axis distance).Spells .sum (axis.fromFar text).toList := by
  have frame : (Expression.named axis.frame).Spells .sum (axis.frame.toList ++ [' ']) :=
    .sum (.product (.blankBehind rfl (.named wellNamed.frame)))
  have overlay : (Expression.named axis.overlay).Spells .product (' ' :: axis.overlay.toList) :=
    .product (.blankBefore rfl (.named wellNamed.overlay))
  have surrounded : distance.Spells .sum (' ' :: text.toList ++ [' ']) :=
    .behind rfl (.before rfl spelled)
  have joined := Spells.minus (frame.behindMinus surrounded) overlay
  simpa [Axis.fromFar, String.toList_append, fromFarExpression] using joined

/-- Without a distance from the near edge, one from the far edge places the overlay. -/
theorem ofDistances_far
    {near far : Option Operand}
    {operand : Operand}
    (unset : Unset near)
    (given : far = some operand)
    (isSet : operand.isSet = true) :
    ofDistances near far = .fromFar operand := by
  have givenFar : given? far = some operand := by
    rw [given, given?, Option.filter_some, if_pos isSet]
  rw [ofDistances, unset_iff.mp unset, givenFar]

end Offset

namespace Expression

/-! ## Expressions can be seen -/

theorem isBlank_of_wordCharacter
    {c : Char}
    (inWord : isWordCharacter c = true) :
    Text.isBlank c = false := by
  have ranges : isWordCharacter c = (decide (c.val ≥ 65 ∧ c.val ≤ 90) ||
      (c.val ≥ 97 && c.val ≤ 122) || (c.val ≥ 48 && c.val ≤ 57) || c == '_') := rfl
  have bounds : (65 ≤ c.toNat ∧ c.toNat ≤ 90) ∨ (97 ≤ c.toNat ∧ c.toNat ≤ 122) ∨
      (48 ≤ c.toNat ∧ c.toNat ≤ 57) ∨ c.toNat = 95 := by
    rw [ranges] at inWord
    simpa [UInt32.le_iff_toNat_le, or_assoc, ← Char.toNat_inj] using inWord
  exact Text.isBlank_of_graphic (by omega) (by omega)

/-- Whatever spells an expression has a character that can be seen. -/
theorem Spells.exists_visible
    {binding : Binding}
    {expression : Expression}
    {text : List Char}
    (spelled : expression.Spells binding text) :
    ∃ c ∈ text, Text.isBlank c = false := by
  induction spelled with
  | literal written all number =>
      obtain ⟨c, rest, rfl⟩ := List.exists_cons_of_ne_nil written
      have digit := all c List.mem_cons_self
      exact ⟨c, List.mem_cons_self,
        isBlank_of_wordCharacter (Calculator.wordCharacter_of_digit digit)⟩
  | @named name wellFormed =>
      obtain ⟨c, rest, characters⟩ :=
        List.exists_cons_of_ne_nil (Calculator.ne_nil_of_isName wellFormed)
      have member : c ∈ name.toList := characters ▸ List.mem_cons_self
      exact ⟨c, member,
        isBlank_of_wordCharacter (Calculator.inWord_of_isName wellFormed c member)⟩
  | negation => exact ⟨'-', List.mem_cons_self, rfl⟩
  | group => exact ⟨'(', List.mem_cons_self, rfl⟩
  | times => exact ⟨'*', List.mem_append_right _ List.mem_cons_self, rfl⟩
  | plus => exact ⟨'+', List.mem_append_right _ List.mem_cons_self, rfl⟩
  | minus => exact ⟨'-', List.mem_append_right _ List.mem_cons_self, rfl⟩
  | product _ inductionHypothesis => exact inductionHypothesis
  | sum _ inductionHypothesis => exact inductionHypothesis
  | blankBefore _ _ inductionHypothesis =>
      obtain ⟨c, member, visible⟩ := inductionHypothesis
      exact ⟨c, List.mem_cons_of_mem _ member, visible⟩
  | blankBehind _ _ inductionHypothesis =>
      obtain ⟨c, member, visible⟩ := inductionHypothesis
      exact ⟨c, List.mem_append_left _ member, visible⟩

/-- Behind a product there is no sign. -/
theorem Spells.trailing_eq_zero
    {binding : Binding}
    {expression : Expression}
    {text : List Char}
    (spelled : expression.Spells binding text)
    (tight : binding ≠ .sum)
    (values : String -> Int) :
    expression.trailing values = 0 := by
  induction spelled with
  | blankBefore _ _ inductionHypothesis => exact inductionHypothesis tight
  | blankBehind _ _ inductionHypothesis => exact inductionHypothesis tight
  | product _ inductionHypothesis => exact inductionHypothesis Binding.noConfusion
  | sum => exact absurd rfl tight
  | plus => exact absurd rfl tight
  | minus => exact absurd rfl tight
  | _ => rfl

end Expression

/-! ## Coordinates of distances -/

/-- What a distance from the far edge comes to where none from the near edge is set.  Integers and
products leave their value.  In general the terms behind the first one are added where they ought to
be subtracted, and the other way round, so that exactly those expressions leave their value of which
these terms amount to nothing. -/
structure MeasuresFromFar
    (evaluate : (String -> Int) -> String -> Option Int)
    (axis : Axis)
    (near far : Option Operand)
    (coordinate : String) : Prop where
  integer :
    Unset near -> ∀ (n : Int) (values : String -> Int), far = some (.int n) ->
      LeavesDistance evaluate values axis coordinate n
  product :
    Unset near -> ∀ (text : String) (distance : Expression) (values : String -> Int),
      far = some (.text text) -> distance.Spells .product text.toList ->
      LeavesDistance evaluate values axis coordinate (distance.value values)
  expression :
    Unset near -> ∀ (text : String) (distance : Expression) (values : String -> Int),
      far = some (.text text) -> distance.Spells .sum text.toList ->
      LeavesDistance evaluate values axis coordinate
          (distance.leading values - distance.trailing values) ∧
        (LeavesDistance evaluate values axis coordinate (distance.value values) ↔
          distance.trailing values = 0)

section Rules

variable {evaluate : (String -> Int) -> String -> Option Int}
variable {axis : Axis}
variable {near far : Option Operand}

/-- The coordinate of an operand that spells an expression. -/
theorem leavesDistance_of_spells
    (usual : FollowsRules evaluate)
    (wellNamed : axis.WellNamed)
    {coordinate : String}
    (rendered : (Offset.ofDistances near far).render? axis = some coordinate)
    (unset : Unset near)
    {operand : Operand}
    (given : far = some operand)
    (isSet : operand.isSet = true)
    {distance : Expression}
    (spelled : ∀ text, operand.render? = some text -> distance.Spells .sum text.toList)
    (values : String -> Int) :
    LeavesDistance evaluate values axis coordinate
      (distance.leading values - distance.trailing values) := by
  rw [Offset.ofDistances_far unset given isSet] at rendered
  obtain ⟨text, written, rfl⟩ := Option.map_eq_some_iff.mp rendered
  rw [LeavesDistance, usual values _ _ (Offset.spells_fromFar wellNamed (spelled text written))]
  simp only [Offset.fromFarExpression, value, value_behindMinus]

/-- An integer is written as its own expression. -/
theorem spells_of_render
    {n : Int}
    {text : String}
    (written : (Operand.int n).render? = some text) :
    (ofInt n).Spells .product text.toList := by
  obtain ⟨numeral, short, rfl⟩ := Option.map_eq_some_iff.mp written
  rw [← Numeral.value_of_ofInt? short]
  exact .product (spells_ofInt numeral.value)

/-- A first term that is all there is leaves its value. -/
theorem LeavesDistance.of_trailing_eq_zero
    {values : String -> Int}
    {coordinate : String}
    {distance : Expression}
    (leaves : LeavesDistance evaluate values axis coordinate
      (distance.leading values - distance.trailing values))
    (nothing : distance.trailing values = 0) :
    LeavesDistance evaluate values axis coordinate (distance.value values) := by
  rwa [value_eq_leading_add_trailing, nothing, Int.add_zero, ← Int.sub_zero (distance.leading _),
    ← nothing]

/-- Coordinates that are worked out by the usual rules measure distances from far edges. -/
theorem measuresFromFar_of_rules
    (usual : FollowsRules evaluate)
    (wellNamed : axis.WellNamed)
    {coordinate : String}
    (rendered : (Offset.ofDistances near far).render? axis = some coordinate) :
    MeasuresFromFar evaluate axis near far coordinate := by
  have visible {binding : Binding} {distance : Expression} {text : String}
      (spelled : distance.Spells binding text.toList) : (Operand.text text).isSet = true :=
    Text.hasVisible_iff.mpr spelled.exists_visible
  refine ⟨?_, ?_, ?_⟩
  · intro unset n values given
    have leaves := leavesDistance_of_spells usual wellNamed rendered unset given rfl
      (fun _ written => .sum (spells_of_render written)) values
    have single := (Spells.product (spells_ofInt n)).trailing_eq_zero Binding.noConfusion values
    have whole := leaves.of_trailing_eq_zero single
    rwa [value_ofInt] at whole
  · intro unset text distance values given spelled
    have leaves := leavesDistance_of_spells usual wellNamed rendered unset given (visible spelled)
      (fun | _, rfl => .sum spelled) values
    exact leaves.of_trailing_eq_zero (spelled.trailing_eq_zero Binding.noConfusion values)
  · intro unset text distance values given spelled
    have leaves := leavesDistance_of_spells usual wellNamed rendered unset given (visible spelled)
      (fun | _, rfl => spelled) values
    refine ⟨leaves, ?_⟩
    rw [leaves.iff_eq, value_eq_leading_add_trailing]
    omega

end Rules

namespace Placement

theorem wellNamed_horizontal : Axis.horizontal.WellNamed := ⟨by decide, by decide⟩

theorem wellNamed_vertical : Axis.vertical.WellNamed := ⟨by decide, by decide⟩

/-- Relative placements whose coordinates can be written measure distances from the far edges along
both axes. -/
theorem far_distances_of_rules
    {evaluate : (String -> Int) -> String -> Option Int}
    (usual : FollowsRules evaluate)
    {placement : Placement}
    (relative : placement.position = .relative)
    (writable : ∀ operand ∈ placement.operands, operand.Writable) :
    ∃ x y, placement.resolve? = some (x, y) ∧
      MeasuresFromFar evaluate .vertical placement.top placement.bottom y ∧
      MeasuresFromFar evaluate .horizontal placement.left placement.right x := by
  obtain ⟨x, y, resolved⟩ := exists_resolve_iff.mpr writable
  obtain ⟨renderedX, renderedY⟩ := resolve?_eq_some_iff.mp resolved
  have vertical : placement.vertical = .ofDistances placement.top placement.bottom := by
    rw [Placement.vertical, relative]
  have horizontal : placement.horizontal = .ofDistances placement.left placement.right := by
    rw [Placement.horizontal, relative]
  rw [horizontal] at renderedX
  rw [vertical] at renderedY
  exact ⟨x, y, resolved, measuresFromFar_of_rules usual wellNamed_vertical renderedY,
    measuresFromFar_of_rules usual wellNamed_horizontal renderedX⟩

/-- A product measured from the right edge, and a difference from the lower edge. -/
def byExpressions : Placement where
  position := .relative
  bottom := some (.text "10 - 4")
  right := some (.text "2*(3-1)")

/-- The difference in front of the lower edge. -/
def difference : Expression :=
  .minus (.literal 10) (.literal 4)

/-- The product in front of the right edge. -/
def product : Expression :=
  .times (.literal 2) (.group (.minus (.literal 3) (.literal 1)))

theorem spells_difference : difference.Spells .sum "10 - 4".toList := by
  have ten : (Expression.literal 10).Spells .sum (['1', '0'] ++ [' ']) :=
    .sum (.product (.blankBehind rfl (spells_repr 10)))
  have four : (Expression.literal 4).Spells .product (' ' :: ['4']) :=
    .product (.blankBefore rfl (spells_repr 4))
  exact .minus ten four

theorem spells_product : product.Spells .product "2*(3-1)".toList := by
  have two : (Expression.literal 2).Spells .product ['2'] := .product (spells_repr 2)
  have three : (Expression.literal 3).Spells .sum ['3'] := .sum (.product (spells_repr 3))
  have one : (Expression.literal 1).Spells .product ['1'] := .product (spells_repr 1)
  exact .times two (.group (.minus three one))

/-- The extents of a frame and of an overlay on it. -/
def extents (name : String) : Int :=
  if name = "main_w" || name = "main_h" then 100 else 10

/-- The product leaves its value of 4, but the difference leaves 14. -/
theorem far_distances_of_byExpressions :
    FollowsRules Calculator.evaluate ∧ byExpressions.position = .relative ∧
      (∀ operand ∈ byExpressions.operands, operand.Writable) ∧
      ∃ x y, byExpressions.resolve? = some (x, y) ∧
        LeavesDistance Calculator.evaluate extents .horizontal x 4 ∧
        LeavesDistance Calculator.evaluate extents .vertical y 14 := by
  have relative : byExpressions.position = .relative := rfl
  have writable : ∀ operand ∈ byExpressions.operands, operand.Writable :=
    exists_resolve_iff.mp ⟨_, _, rfl⟩
  obtain ⟨x, y, resolved, vertical, horizontal⟩ :=
    far_distances_of_rules Calculator.followsRules_evaluate relative writable
  have right := horizontal.product trivial "2*(3-1)" product extents rfl spells_product
  have bottom := vertical.expression trivial "10 - 4" difference extents rfl spells_difference
  exact ⟨Calculator.followsRules_evaluate, relative, writable, x, y, resolved, right, bottom.1⟩

/-- Working out the coordinate of the difference leaves something else than its value. -/
theorem far_difference_not_left :
    FollowsRules Calculator.evaluate ∧ byExpressions.position = .relative ∧
      Unset byExpressions.top ∧ byExpressions.bottom = some (.text "10 - 4") ∧
      difference.Spells .sum "10 - 4".toList ∧
      ∃ x y, byExpressions.resolve? = some (x, y) ∧
        Calculator.evaluate extents y ≠
          some (extents "main_h" - difference.value extents - extents "overlay_h") := by
  refine ⟨Calculator.followsRules_evaluate, rfl, trivial, rfl, spells_difference, _, _, rfl, ?_⟩
  decide

end Placement
end Filtergraph
