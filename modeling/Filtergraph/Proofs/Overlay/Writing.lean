import Filtergraph.Filter.Overlay

/-!
# Settings that can be written

The graph of a watermark is written with the operands that take effect, and with the sides of its
size if both are given.  There is a graph exactly if the integers among these can be written; what
does not take effect is not looked at.  The clause of a gate is spelled out with its bounds.
-/

namespace Filtergraph

/-- An integer is written with not too many digits; other operands can always be written. -/
def Operand.Writable : Operand -> Prop
  | .int n => digitCount n ≤ digitLimit
  | _ => True

/-- An operand has a text exactly if it is no long integer. -/
theorem Operand.exists_render_iff
    {operand : Operand} :
    (∃ text, operand.render? = some text) ↔ operand.Writable := by
  cases operand with
  | int n =>
      rw [render?, Writable, ← Nat.not_lt, ← Numeral.ofInt?_eq_none_iff]
      cases Numeral.ofInt? n <;> simp
  | double x => simp [render?, Writable]
  | text s => simp [render?, Writable]

namespace Offset

/-- The distances and coordinates that an offset is written with. -/
def operands : Offset -> List Operand
  | .origin => []
  | .fromNear distance => [distance]
  | .fromFar distance => [distance]

/-- An offset has a text exactly if its operands have. -/
theorem exists_render_iff
    {offset : Offset}
    {axis : Axis} :
    (∃ text, offset.render? axis = some text) ↔ ∀ operand ∈ offset.operands, operand.Writable := by
  cases offset with
  | origin => simp [render?, operands]
  | fromNear distance => simp [render?, operands, Operand.exists_render_iff]
  | fromFar distance =>
      simp only [render?, operands, List.mem_singleton, forall_eq, ← Operand.exists_render_iff]
      cases distance.render? <;> simp

end Offset

/-- The distances and coordinates that a placement is written with. -/
def Placement.operands (placement : Placement) : List Operand :=
  placement.horizontal.operands ++ placement.vertical.operands

/-- Both coordinates have to be written. -/
theorem Placement.resolve?_eq_some_iff
    {placement : Placement}
    {x y : String} :
    placement.resolve? = some (x, y) ↔
      placement.horizontal.render? .horizontal = some x ∧
        placement.vertical.render? .vertical = some y := by
  rw [resolve?]
  cases placement.horizontal.render? .horizontal <;>
    cases placement.vertical.render? .vertical <;> simp

theorem Placement.exists_resolve_iff
    {placement : Placement} :
    (∃ x y, placement.resolve? = some (x, y)) ↔
      ∀ operand ∈ placement.operands, operand.Writable := by
  simp only [resolve?_eq_some_iff, exists_and_left, exists_and_right, Offset.exists_render_iff,
    operands, List.mem_append, or_imp, forall_and]

/-- The bounds that the gate of a window is written with. -/
def Window.operands (window : Window) : List Operand :=
  match given? window.start with
  | some start => start :: (given? window.finish).toList
  | none => []

/-- There is a gate exactly if the bounds that take effect can be written. -/
theorem Window.exists_gate_iff
    {window : Window} :
    (∃ gate, window.gate? = some gate) ↔ ∀ operand ∈ window.operands, operand.Writable := by
  rw [gate?, operands]
  cases given? window.start with
  | none => simp
  | some start =>
      cases given? window.finish with
      | none =>
          simp only [Option.toList_none, List.mem_singleton, forall_eq, ← Operand.exists_render_iff]
          cases start.render? <;> simp
      | some finish =>
          simp only [Option.toList_some, List.mem_cons, List.not_mem_nil, or_false,
            forall_eq_or_imp, forall_eq, ← Operand.exists_render_iff]
          cases start.render? <;> cases finish.render? <;> simp

namespace Gate

/-- The first letter of a predicate tells the kind of its gate. -/
theorem head_predicate (gate : Gate) :
    gate.predicate.toList.head? =
      match gate with
      | .always => none
      | .onward _ => some 'g'
      | .between _ _ => some 'b' := by
  cases gate with
  | always => rfl
  | onward start =>
      rw [predicate, String.append_assoc, String.toList_append]
      rfl
  | between start finish =>
      rw [predicate, String.append_assoc, String.append_assoc, String.append_assoc,
        String.toList_append]
      rfl

/-- Only a gate that is always open has no predicate. -/
theorem predicate_ne_empty
    (gate : Gate)
    (closes : gate ≠ .always) :
    gate.predicate ≠ "" := by
  intro empty
  have head := gate.head_predicate
  rw [empty] at head
  cases gate with
  | always => exact closes rfl
  | onward start => cases head
  | between start finish => cases head

/-- The clause of a gate, spelled out with its bounds. -/
def written : Gate -> String
  | .always => ""
  | .onward start => " :enable='" ++ ("gte(t," ++ start ++ ")") ++ "'"
  | .between start finish => " :enable='" ++ ("between(t," ++ start ++ "," ++ finish ++ ")") ++ "'"

/-- This is the clause that the predicate of the gate is put into. -/
theorem clause_predicate (gate : Gate) : clause gate.predicate = gate.written := by
  cases gate with
  | always => rfl
  | onward start => exact if_neg ((onward start).predicate_ne_empty nofun)
  | between start finish => exact if_neg ((between start finish).predicate_ne_empty nofun)

end Gate

/-- The sides to scale to are written with not too many digits. -/
def Size.Writable (size : Option Size) : Prop :=
  ∀ sides ∈ size.bind sides?, digitCount sides.1 ≤ digitLimit ∧ digitCount sides.2 ≤ digitLimit

theorem Size.exists_scaling_iff
    {size : Option Size} :
    (∃ scaling, scaling? size = some scaling) ↔ Writable size := by
  rw [scaling?, Writable]
  cases size.bind sides? with
  | none => simp
  | some sides =>
      simp only [Option.mem_def, Option.some.injEq, forall_eq', ← Nat.not_lt,
        ← Numeral.ofInt?_eq_none_iff]
      cases Numeral.ofInt? sides.1 <;> cases Numeral.ofInt? sides.2 <;> simp

/-- A graph of settings holds the picture and what the settings are written as. -/
theorem Graph.ofSettings?_eq_some_iff
    {picture : String}
    {placement : Placement}
    {size : Option Size}
    {window : Window}
    {graph : Graph} :
    ofSettings? picture placement size window = some graph ↔
      graph.picture = picture ∧ placement.resolve? = some (graph.x, graph.y) ∧
        window.gate? = some graph.gate ∧ Size.scaling? size = some graph.scaling := by
  simp only [ofSettings?, Option.bind_eq_bind, Option.bind_eq_some_iff, Option.pure_def,
    Option.some.injEq]
  constructor
  · rintro ⟨⟨x, y⟩, resolved, gate, gated, scaling, scaled, rfl⟩
    exact ⟨rfl, resolved, gated, scaled⟩
  · rintro ⟨rfl, resolved, gated, scaled⟩
    exact ⟨_, resolved, _, gated, _, scaled, rfl⟩

namespace Watermark

/-- The settings of a watermark that take effect can be written. -/
structure Writable (watermark : Watermark) : Prop where
  placement : ∀ operand ∈ watermark.placement.operands, operand.Writable
  window : ∀ operand ∈ watermark.window.operands, operand.Writable
  size : Size.Writable watermark.size

/-- A watermark has a graph exactly if its settings can be written. -/
theorem exists_graph_iff
    {watermark : Watermark} :
    (∃ graph, watermark.graph? = some graph) ↔ watermark.Writable := by
  constructor
  · rintro ⟨graph, drawn⟩
    obtain ⟨-, resolved, gated, scaled⟩ := Graph.ofSettings?_eq_some_iff.mp drawn
    exact ⟨Placement.exists_resolve_iff.mp ⟨_, _, resolved⟩, Window.exists_gate_iff.mp ⟨_, gated⟩,
      Size.exists_scaling_iff.mp ⟨_, scaled⟩⟩
  · intro writable
    obtain ⟨x, y, resolved⟩ := Placement.exists_resolve_iff.mpr writable.placement
    obtain ⟨gate, gated⟩ := Window.exists_gate_iff.mpr writable.window
    obtain ⟨scaling, scaled⟩ := Size.exists_scaling_iff.mpr writable.size
    exact ⟨{ picture := watermark.path, scaling, x, y, gate },
      Graph.ofSettings?_eq_some_iff.mpr ⟨rfl, resolved, gated, scaled⟩⟩

/-- The list that the filter of a watermark returns holds a graph of its settings. -/
theorem fragment_eq_ok_iff
    {watermark : Watermark}
    {priority : Value}
    {format : Option Format}
    {arguments : List Argument} :
    (watermark.toFilter priority).fragment format = .ok (some arguments) ↔
      ∃ graph, watermark.graph? = some graph ∧ arguments = [.text "-vf", .text graph.render] := by
  rw [fragment_toFilter, fragment?]
  cases watermark.graph? with
  | none => simp [Except.map]
  | some graph => simp [Except.map, eq_comm]

end Watermark
end Filtergraph
