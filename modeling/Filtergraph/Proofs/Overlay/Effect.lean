import Filtergraph.Proofs.Overlay.Writing
import Filtergraph.Proofs.Text.Blanks

/-!
# Settings that take effect

A watermark contributes arguments by the settings that take effect, and by nothing else.  A setting
that is blank is as good as absent, the settings of the other kind of placement do not count, a
distance from a far edge counts only without one from the near edge, an end only behind a start,
and one side of a size only beside the other one.  No operand that is written is blank.
-/

namespace Filtergraph

/-! ## Settings with the same effect -/

/-- A setting that is absent, or a text of nothing but blanks. -/
def Unset : Option Operand -> Prop
  | none => True
  | some (.text s) => ∀ c ∈ s.toList, Text.isBlank c = true
  | some _ => False

/-- A setting is unset exactly if none is given. -/
theorem unset_iff
    {setting : Option Operand} :
    Unset setting ↔ given? setting = none := by
  match setting with
  | none => simp [Unset]
  | some (.int n) => simp [Unset, given?, Operand.isSet]
  | some (.double x) => simp [Unset, given?, Operand.isSet]
  | some (.text s) => simp [Unset, given?, Operand.isSet, Text.hasVisible]

/-- Two settings are the same, or neither of them is given. -/
def SameSetting (setting other : Option Operand) : Prop :=
  setting = other ∨ Unset setting ∧ Unset other

/-- Settings that are the same for what they mean are given alike. -/
theorem SameSetting.given?_eq
    {setting other : Option Operand}
    (same : SameSetting setting other) :
    given? setting = given? other := by
  rcases same with rfl | ⟨unset, unsetToo⟩
  · rfl
  · rw [unset_iff.mp unset, unset_iff.mp unsetToo]

/-- Two pairs of distances from the near and the far edge have the same effect: the far edge counts
only without a distance from the near one. -/
structure SameDistances (near far nearToo farToo : Option Operand) : Prop where
  sameNear : SameSetting near nearToo
  sameFar : Unset near -> SameSetting far farToo

theorem SameDistances.offset_eq
    {near far nearToo farToo : Option Operand}
    (same : SameDistances near far nearToo farToo) :
    Offset.ofDistances near far = Offset.ofDistances nearToo farToo := by
  rw [Offset.ofDistances, Offset.ofDistances, ← same.sameNear.given?_eq]
  cases given : given? near with
  | some distance => rfl
  | none => rw [(same.sameFar (unset_iff.mpr given)).given?_eq]

namespace Placement

/-- What counts of two placements from left to right has the same effect. -/
structure SameHorizontal (placement other : Placement) : Prop where
  position : placement.position = other.position
  absolute : placement.position = .absolute -> SameSetting placement.x other.x
  relative : placement.position = .relative ->
    SameDistances placement.left placement.right other.left other.right

/-- What counts of two placements from top to bottom has the same effect. -/
structure SameVertical (placement other : Placement) : Prop where
  position : placement.position = other.position
  absolute : placement.position = .absolute -> SameSetting placement.y other.y
  relative : placement.position = .relative ->
    SameDistances placement.top placement.bottom other.top other.bottom

variable {placement other : Placement}

theorem SameHorizontal.horizontal_eq
    (same : placement.SameHorizontal other) :
    placement.horizontal = other.horizontal := by
  rw [horizontal, horizontal, ← same.position]
  cases position : placement.position with
  | absolute =>
      have settings := same.absolute position
      simp only [Offset.ofCoordinate, settings.given?_eq]
  | relative => exact (same.relative position).offset_eq

theorem SameVertical.vertical_eq
    (same : placement.SameVertical other) :
    placement.vertical = other.vertical := by
  rw [vertical, vertical, ← same.position]
  cases position : placement.position with
  | absolute =>
      have settings := same.absolute position
      simp only [Offset.ofCoordinate, settings.given?_eq]
  | relative => exact (same.relative position).offset_eq

end Placement

/-- Two windows have the same effect: the end counts only behind a start. -/
structure Window.SameGate (window other : Window) : Prop where
  start : SameSetting window.start other.start
  finish : ¬ Unset window.start -> SameSetting window.finish other.finish

/-- The same gate comes of windows that differ in an end without a start. -/
theorem Window.SameGate.gate_eq
    {window other : Window}
    (same : window.SameGate other) :
    window.gate? = other.gate? := by
  rw [gate?, gate?, ← same.start.given?_eq]
  cases given : given? window.start with
  | none => rfl
  | some start =>
      have isSet : ¬ Unset window.start := by simp [unset_iff, given]
      rw [(same.finish isSet).given?_eq]

/-- There is no size, or one of its sides is missing. -/
def Size.Incomplete (size : Option Size) : Prop :=
  ∀ asked ∈ size, asked.width = none ∨ asked.height = none

/-- One side of a size is no size. -/
theorem Size.sides_of_incomplete
    {size : Option Size}
    (incomplete : Incomplete size) :
    size.bind sides? = none := by
  cases size with
  | none => rfl
  | some asked =>
      rw [Option.bind_some, sides?]
      rcases incomplete asked rfl with missing | missing
      · rw [missing]
      · rw [missing]
        cases asked.width <;> rfl

/-- Two sizes are the same, or both lack a side. -/
def Size.Same (size other : Option Size) : Prop :=
  size = other ∨ Incomplete size ∧ Incomplete other

theorem Size.Same.sides_eq
    {size other : Option Size}
    (same : Same size other) :
    size.bind sides? = other.bind sides? := by
  rcases same with rfl | ⟨incomplete, incompleteToo⟩
  · rfl
  · rw [sides_of_incomplete incomplete, sides_of_incomplete incompleteToo]

/-- What takes effect of the settings of two watermarks is the same. -/
structure Watermark.SameEffect (watermark other : Watermark) : Prop where
  path : watermark.path = other.path
  horizontal : watermark.placement.SameHorizontal other.placement
  vertical : watermark.placement.SameVertical other.placement
  size : Size.Same watermark.size other.size
  window : watermark.window.SameGate other.window

/-- Watermarks of the same effect have the same graph. -/
theorem Watermark.SameEffect.graph_eq
    {watermark other : Watermark}
    (same : watermark.SameEffect other) :
    watermark.graph? = other.graph? := by
  simp only [graph?, Graph.ofSettings?, Placement.resolve?, Size.scaling?, same.path,
    same.size.sides_eq, same.horizontal.horizontal_eq, same.vertical.vertical_eq,
    same.window.gate_eq]

/-! ## Operands that can be seen -/

namespace Layout

open Text

/-- Digits that can be seen are still there in positional notation. -/
theorem hasVisible_positional
    (layout : Layout)
    {digits : String}
    (visible : hasVisible digits = true)
    (whole : Int) :
    hasVisible (layout.positional digits whole) = true := by
  rw [positional]
  split
  · simp [visible]
  · split
    · simp [visible]
    · have pointVisible : hasVisible "." = true := by decide
      simp [pointVisible]

theorem hasVisible_scientific
    (layout : Layout)
    (digits : String)
    (order : Int) :
    hasVisible (layout.scientific digits order) = true := by
  have powerVisible : hasVisible order.natAbs.repr = true := hasVisible_repr _
  simp [scientific, powerVisible]

theorem hasVisible_decimal (layout : Layout) (d : Decimal) :
    hasVisible (layout.decimal d) = true := by
  rw [decimal]
  split
  · exact layout.hasVisible_positional (hasVisible_repr _) _
  · exact layout.hasVisible_scientific _ _

/-- The text of a number is never blank. -/
theorem hasVisible_double (x : Double) : hasVisible x.text = true := by
  cases x with
  | undefined => decide
  | infinite negative =>
      have wordVisible : hasVisible arguments.infiniteText = true := by decide
      simp [Double.text, double, wordVisible]
  | finite negative mantissa exponent => simp [Double.text, double, hasVisible_decimal]

end Layout

/-- An operand that is set can be seen. -/
theorem Operand.hasVisible_render
    {operand : Operand}
    {text : String}
    (isSet : operand.isSet = true)
    (written : operand.render? = some text) :
    Text.hasVisible text = true := by
  cases operand with
  | int n =>
      obtain ⟨numeral, -, rfl⟩ := Option.map_eq_some_iff.mp written
      exact Text.hasVisible_toString numeral.value
  | double x =>
      obtain rfl := Option.some.inj written
      exact Layout.hasVisible_double x
  | text s =>
      obtain rfl := Option.some.inj written
      exact isSet

/-! ## Operands that are written -/

/-- An offset is written with nothing but operands that are set, and can be seen. -/
theorem Offset.hasVisible_render
    {offset : Offset}
    {axis : Axis}
    {text : String}
    (set : ∀ operand ∈ offset.operands, operand.isSet = true)
    (written : offset.render? axis = some text) :
    Text.hasVisible text = true := by
  cases offset with
  | origin =>
      obtain rfl := Option.some.inj written
      decide
  | fromNear distance =>
      exact Operand.hasVisible_render (set distance List.mem_cons_self) written
  | fromFar distance =>
      obtain ⟨distanceText, writtenDistance, rfl⟩ := Option.map_eq_some_iff.mp written
      have visible := Operand.hasVisible_render (set distance List.mem_cons_self) writtenDistance
      simp [Axis.fromFar, visible]

theorem Offset.isSet_ofCoordinate
    (coordinate : Option Operand) :
    ∀ operand ∈ (Offset.ofCoordinate coordinate).operands, operand.isSet = true := by
  rw [ofCoordinate]
  cases given : given? coordinate with
  | none => simp [operands]
  | some distance => simpa [operands] using isSet_of_given? given

/-- Only what is set is an operand of an offset. -/
theorem Offset.isSet_ofDistances
    (near far : Option Operand) :
    ∀ operand ∈ (Offset.ofDistances near far).operands, operand.isSet = true := by
  rw [ofDistances]
  cases given : given? near with
  | some distance => simpa [operands] using isSet_of_given? given
  | none =>
      cases givenFar : given? far with
      | none => simp [operands]
      | some distance => simpa [operands] using isSet_of_given? givenFar

theorem Placement.isSet_horizontal (placement : Placement) :
    ∀ operand ∈ placement.horizontal.operands, operand.isSet = true := by
  rw [horizontal]
  cases placement.position with
  | absolute => exact Offset.isSet_ofCoordinate _
  | relative => exact Offset.isSet_ofDistances _ _

theorem Placement.isSet_vertical (placement : Placement) :
    ∀ operand ∈ placement.vertical.operands, operand.isSet = true := by
  rw [vertical]
  cases placement.position with
  | absolute => exact Offset.isSet_ofCoordinate _
  | relative => exact Offset.isSet_ofDistances _ _

/-- Both coordinates of a placement can be seen. -/
theorem Placement.hasVisible_resolve
    {placement : Placement}
    {x y : String}
    (resolved : placement.resolve? = some (x, y)) :
    Text.hasVisible x = true ∧ Text.hasVisible y = true := by
  obtain ⟨writtenX, writtenY⟩ := resolve?_eq_some_iff.mp resolved
  exact ⟨Offset.hasVisible_render placement.isSet_horizontal writtenX,
    Offset.hasVisible_render placement.isSet_vertical writtenY⟩

/-- The distances and coordinates of a placement can be seen. -/
theorem Placement.hasVisible_operand
    {placement : Placement}
    {operand : Operand}
    {text : String}
    (member : operand ∈ placement.operands)
    (written : operand.render? = some text) :
    Text.hasVisible text = true := by
  rcases List.mem_append.mp member with alongX | alongY
  · exact Operand.hasVisible_render (placement.isSet_horizontal operand alongX) written
  · exact Operand.hasVisible_render (placement.isSet_vertical operand alongY) written

/-- The bounds that a gate is written with. -/
def Gate.bounds : Gate -> List String
  | .always => []
  | .onward start => [start]
  | .between start finish => [start, finish]

/-- The bounds of a gate are set, and so they are visible. -/
theorem Window.hasVisible_bounds
    {window : Window}
    {gate : Gate}
    (gated : window.gate? = some gate) :
    ∀ bound ∈ gate.bounds, Text.hasVisible bound = true := by
  rw [gate?] at gated
  cases given : given? window.start with
  | none =>
      rw [given] at gated
      obtain rfl := Option.some.inj gated
      simp [Gate.bounds]
  | some start =>
      cases givenToo : given? window.finish with
      | none =>
          simp only [given, givenToo, Option.bind_eq_bind, Option.bind_eq_some_iff,
            Option.pure_def, Option.some.injEq] at gated
          obtain ⟨startText, writtenStart, rfl⟩ := gated
          have visible := Operand.hasVisible_render (isSet_of_given? given) writtenStart
          simpa [Gate.bounds] using visible
      | some finish =>
          simp only [given, givenToo, Option.bind_eq_bind, Option.bind_eq_some_iff,
            Option.pure_def, Option.some.injEq] at gated
          obtain ⟨startText, writtenStart, finishText, writtenFinish, rfl⟩ := gated
          have visible := Operand.hasVisible_render (isSet_of_given? given) writtenStart
          have visibleToo := Operand.hasVisible_render (isSet_of_given? givenToo) writtenFinish
          simpa [Gate.bounds] using ⟨visible, visibleToo⟩

namespace Watermark

/-- The filter of a watermark contributes arguments, or fails, by what takes effect of its settings.
Each coordinate stays the same as long as the settings along its own axis do.  If what takes effect
can be written, the filter contributes one graph: it reads the picture, scales it by the size, and
overlays it at the coordinates while the gate of the window is open, which is spelled out with its
bounds.  Both coordinates, the distances in them and the bounds of the gate have a character that
can be seen. -/
theorem fragment_of_effect (watermark : Watermark) :
    (∀ other priority priorityToo format formatToo, watermark.SameEffect other ->
      (watermark.toFilter priority).fragment format =
        (other.toFilter priorityToo).fragment formatToo) ∧
    (∀ (placement : Placement) (point pointToo : String × String),
      watermark.placement.resolve? = some point -> placement.resolve? = some pointToo ->
        (watermark.placement.SameHorizontal placement -> point.1 = pointToo.1) ∧
        (watermark.placement.SameVertical placement -> point.2 = pointToo.2)) ∧
    (watermark.Writable ->
      ∃ scaling x y gate,
        Size.scaling? watermark.size = some scaling ∧
        watermark.placement.resolve? = some (x, y) ∧
        watermark.window.gate? = some gate ∧
        (∀ priority format, (watermark.toFilter priority).fragment format =
          .ok (some [.text "-vf", .text ("movie=" ++ watermark.path ++ scaling.clause ++
            " [watermark]; [in][watermark] overlay=" ++ x ++ ":" ++ y ++ gate.written ++
            " [out]")])) ∧
        Text.hasVisible x = true ∧ Text.hasVisible y = true ∧
        (∀ distance ∈ watermark.placement.operands, ∀ text, distance.render? = some text ->
          Text.hasVisible text = true) ∧
        ∀ bound ∈ gate.bounds, Text.hasVisible bound = true) := by
  refine ⟨?_, ?_, ?_⟩
  · intro other priority priorityToo format formatToo same
    rw [fragment_toFilter, fragment_toFilter, fragment?, fragment?, same.graph_eq]
  · rintro placement ⟨x, y⟩ ⟨xToo, yToo⟩ resolved resolvedToo
    obtain ⟨writtenX, writtenY⟩ := Placement.resolve?_eq_some_iff.mp resolved
    obtain ⟨writtenXToo, writtenYToo⟩ := Placement.resolve?_eq_some_iff.mp resolvedToo
    constructor
    · intro same
      rw [same.horizontal_eq, writtenXToo] at writtenX
      exact (Option.some.inj writtenX).symm
    · intro same
      rw [same.vertical_eq, writtenYToo] at writtenY
      exact (Option.some.inj writtenY).symm
  · intro writable
    obtain ⟨graph, drawn⟩ := exists_graph_iff.mpr writable
    obtain ⟨picture, resolved, gated, scaled⟩ := Graph.ofSettings?_eq_some_iff.mp drawn
    obtain ⟨visibleX, visibleY⟩ := Placement.hasVisible_resolve resolved
    refine ⟨graph.scaling, graph.x, graph.y, graph.gate, scaled, resolved, gated, ?_, visibleX,
      visibleY, ?_, Window.hasVisible_bounds gated⟩
    · intro priority format
      rw [← picture, ← Gate.clause_predicate]
      exact fragment_eq_ok_iff.mpr ⟨graph, drawn, rfl⟩
    · exact fun distance member text written => Placement.hasVisible_operand member written

/-- A watermark in the upper right corner. -/
def inCorner : Watermark where
  path := "logo.png"
  placement := { position := .relative, top := some (.int 0), right := some (.text "5") }

/-- The same watermark with settings that do not count. -/
def inCornerOverridden : Watermark where
  path := "logo.png"
  placement := {
    position := .relative
    x := some (.int 7)
    y := some (.text "main_h/2")
    top := some (.int 0)
    bottom := some (.int 10)
    left := some (.text " ")
    right := some (.text "5") }
  size := some { width := some 64 }
  window := { start := some (.text ""), finish := some (.int 5) }

/-- The watermark in the corner, scaled and shown for a time. -/
def inCornerForAWhile : Watermark :=
  { inCorner with
    size := some { width := some 64, height := some 32 }
    window := { start := some (.int 1), finish := some (.text "t + 5") } }

/-- Zero is set and overrides the distance from the lower edge, a blank one from the left edge
overrides nothing, and neither one side of a size nor an end without a start counts.  Two sides and
a start do. -/
theorem fragment_of_inCorner :
    inCorner.SameEffect inCornerOverridden ∧
      (inCorner.toFilter (.int 0)).fragment none =
        (inCornerOverridden.toFilter (.int 3)).fragment none ∧
      inCornerForAWhile.Writable ∧
      (inCornerForAWhile.toFilter (.int 0)).fragment none =
        .ok (some [.text "-vf", .text ("movie=logo.png,scale=64:32 [watermark]; [in][watermark] " ++
          "overlay=main_w - 5 - overlay_w:0 :enable='between(t,1,t + 5)' [out]")]) := by
  have zeroSet : ¬ Unset (some (.int 0)) := by simp [Unset]
  have blank : Unset (some (.text " ")) := unset_iff.mpr (by decide)
  have empty : Unset (some (.text "")) := unset_iff.mpr (by decide)
  have same : inCorner.SameEffect inCornerOverridden := by
    refine ⟨rfl, ⟨rfl, ?_, fun _ => ⟨.inr ⟨trivial, blank⟩, fun _ => .inl rfl⟩⟩,
      ⟨rfl, ?_, fun _ => ⟨.inl rfl, fun unset => absurd unset zeroSet⟩⟩, .inr ⟨?_, ?_⟩,
      ⟨.inr ⟨trivial, empty⟩, fun set => absurd trivial set⟩⟩
    · exact fun position => by cases position
    · exact fun position => by cases position
    · simp [inCorner, Size.Incomplete]
    · simp [inCornerOverridden, Size.Incomplete]
  have writable : inCornerForAWhile.Writable := exists_graph_iff.mp ⟨_, rfl⟩
  obtain ⟨scaling, x, y, gate, scaled, resolved, gated, emits, -⟩ :=
    (fragment_of_effect inCornerForAWhile).2.2 writable
  refine ⟨same, (fragment_of_effect inCorner).1 _ _ _ _ _ same, writable, ?_⟩
  cases scaled
  cases resolved
  cases gated
  exact emits _ _

end Watermark
end Filtergraph
