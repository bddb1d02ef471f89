import Filtergraph.Overlay.Operand

/-!
# Showing an overlay for a time

A window of the playing time becomes a gate, a predicate over the time `t`.  An end without a
start gives no gate.
-/

namespace Filtergraph

/-- The playing time during which an overlay is shown. -/
structure Window where
  /-- When it appears. -/
  start : Option Operand := none
  /-- When it disappears. -/
  finish : Option Operand := none
  deriving DecidableEq, Repr

/-- A predicate over the playing time, with its bounds as they are written. -/
inductive Gate where
  | always
  | onward (start : String)
  | between (start finish : String)
  deriving DecidableEq, Repr

namespace Gate

/-- The gate as an expression, which is empty for an overlay that is always shown. -/
def predicate : Gate -> String
  | .always => ""
  | .onward start => "gte(t," ++ start ++ ")"
  | .between start finish => "between(t," ++ start ++ "," ++ finish ++ ")"

/-- The clause that enables an overlay while a predicate holds; an empty one needs no clause. -/
def clause (predicate : String) : String :=
  if predicate = "" then "" else " :enable='" ++ predicate ++ "'"

end Gate

namespace Window

/-- The gate of a window, if its bounds can be written. -/
def gate? (window : Window) : Option Gate :=
  match given? window.start, given? window.finish with
  | none, _ => some .always
  | some start, none => do return .onward (← start.render?)
  | some start, some finish => do return .between (← start.render?) (← finish.render?)

/-- The gate of a setting that may be absent. -/
def settingGate? : Option Window -> Option Gate
  | some window => window.gate?
  | none => some .always

end Window
end Filtergraph
