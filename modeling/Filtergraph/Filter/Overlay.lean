import Filtergraph.Filter.Basic
import Filtergraph.Watermark

/-!
# Filters that draw watermarks

The filter of a watermark draws it by the settings it holds.  At first these are the checked
settings of the watermark; those that replace them are not checked, and what does not fit, is
missing or cannot be written shows when the watermark is drawn.
-/

namespace Filtergraph
namespace Holdings

/-- The kind of the filters that draw watermarks. -/
def overlayTypeName : String := "WatermarkFilter"

/-- The placement that is held. -/
def heldPlacement (holdings : Holdings) : Except Failure Placement := do
  match ← heldBy overlayTypeName coordinatesName holdings.coordinates with
  | .record (.placement placement) => return placement
  | value => throw (.wrongAttribute (.absent value.typeName "position"))

/-- The window that is held; null is one that is always open. -/
def heldWindow (holdings : Holdings) : Except Failure Window := do
  match ← heldBy overlayTypeName timeName holdings.time with
  | .null => return {}
  | .record (.window window) => return window
  | value => throw (.wrongAttribute (.absent value.typeName "start"))

/-- The size that is held; null is none. -/
def heldSize (holdings : Holdings) : Except Failure (Option Size) := do
  match ← heldBy overlayTypeName scaleName holdings.scale with
  | .null => return none
  | .record (.size size) => return some size
  | value => throw (.wrongAttribute (.absent value.typeName "is_complete"))

/-- The arguments of a watermark that is drawn by what is held. -/
def draw (holdings : Holdings) : Except Failure (List String) := do
  let placement ← holdings.heldPlacement
  let (x, y) ← Failure.written placement.resolve?
  let window ← holdings.heldWindow
  let gate ← Failure.written window.gate?
  let size ← holdings.heldSize
  let scaling ← Failure.written (Size.scaling? size)
  let held ← heldBy overlayTypeName pictureName holdings.picture
  let picture ← Failure.written held.plain?
  return ["-vf", ({ picture, scaling, x, y, gate } : Graph).render]

end Holdings

namespace Watermark

/-- What the filter of a watermark holds at first. -/
def holdings (watermark : Watermark) (priority : Value) : Holdings where
  priority := some priority
  picture := some (.text watermark.path)
  coordinates := some (.record (.placement watermark.placement))
  scale := some (.ofOption (fun size => .record (.size size)) watermark.size)
  time := some (.record (.window watermark.window))

/-- A watermark is drawn by what its filter holds at first. -/
theorem draw_holdings (watermark : Watermark) (priority : Value) :
    (watermark.holdings priority).draw = Failure.written watermark.fragment? := by
  have draws : (watermark.holdings priority).draw = (do
      let (x, y) ← Failure.written watermark.placement.resolve?
      let gate ← Failure.written watermark.window.gate?
      let scaling ← Failure.written (Size.scaling? watermark.size)
      return ["-vf", ({ picture := watermark.path, scaling, x, y, gate } : Graph).render]) := by
    cases watermark with
    | mk path placement size window => cases size <;> rfl
  rw [draws, fragment?, graph?, Graph.ofSettings?]
  -- the first part that cannot be written ends both sides
  cases watermark.placement.resolve? with
  | none => rfl
  | some point =>
    cases watermark.window.gate? with
    | none => rfl
    | some gate => cases Size.scaling? watermark.size <;> rfl

/-- The filter of a watermark. -/
def toFilter (watermark : Watermark) (priority : Value) : Filter where
  typeName := Holdings.overlayTypeName
  name := .text "watermark"
  holdings := watermark.holdings priority
  ownFragment := fun holdings _ => holdings.draw.map fun drawn => some (drawn.map .text)
  fixed := ["name", "priority", "watermark_path", "coordinates", "scale", "time"]

/-- The filter of a watermark contributes the arguments of the watermark for every format. -/
@[simp] theorem fragment_toFilter (watermark : Watermark) (priority : Value)
    (format : Option Format) :
    (watermark.toFilter priority).fragment format =
      (Failure.written watermark.fragment?).map fun drawn => some (drawn.map .text) := by
  have drawn : (watermark.toFilter priority).fragment format =
      (watermark.holdings priority).draw.map fun drawn => some (drawn.map .text) := rfl
  rw [drawn, draw_holdings]

/-- The filter of a watermark contributes the same wherever it stands. -/
theorem plain_toFilter (watermark : Watermark) (priority : Value) :
    (watermark.toFilter priority).Plain :=
  ⟨rfl, rfl, rfl, rfl⟩

end Watermark
end Filtergraph
