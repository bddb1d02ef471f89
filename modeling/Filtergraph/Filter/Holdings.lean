import Filtergraph.Data.Value

/-!
# What filters hold

A filter holds its priority and the oldest release that it works with, and the filter of a
watermark holds the settings of that.  Values can also be held in the place of what a filter does.
All are known by names, none is checked, and each may be missing.
-/

namespace Filtergraph

/-- The values that a filter holds. -/
structure Holdings where
  /-- The ordering key. -/
  priority : Option Value := none
  /-- The oldest release of the tool that the filter works with. -/
  minimum : Option Value := none
  /-- The file of the picture. -/
  picture : Option Value := none
  /-- Where the picture is placed. -/
  coordinates : Option Value := none
  /-- The size that is asked for; null is none. -/
  scale : Option Value := none
  /-- When the picture is shown; null is always. -/
  time : Option Value := none
  /-- What is held in the place of the arguments for a format. -/
  fragment : Option Value := none
  /-- What is held in the place of the arguments for a single input. -/
  single : Option Value := none
  /-- What is held in the place of the arguments for several inputs. -/
  multiple : Option Value := none
  deriving Repr

namespace Holdings

/-- The name of the ordering key. -/
def priorityName : String := "_priority"

/-- The name of the picture. -/
def pictureName : String := "_watermark_path"

/-- The name of the place of the picture. -/
def coordinatesName : String := "_coordinates"

/-- The name of the size of the picture. -/
def scaleName : String := "_scale"

/-- The name of the time of the picture. -/
def timeName : String := "_time"

/-- Holds a new value under a name; names that stand for nothing have no effect. -/
def assign (holdings : Holdings) (name : String) (value : Value) : Holdings :=
  if name = priorityName then { holdings with priority := some value }
  else if name = "minimum_tool_version" then { holdings with minimum := some value }
  else if name = pictureName then { holdings with picture := some value }
  else if name = coordinatesName then { holdings with coordinates := some value }
  else if name = scaleName then { holdings with scale := some value }
  else if name = timeName then { holdings with time := some value }
  else if name = "compile_fragment" then { holdings with fragment := some value }
  else if name = "apply" then { holdings with single := some value }
  else if name = "apply_complex" then { holdings with multiple := some value }
  else holdings

/-- Holds the values of members, and nothing else. -/
def ofMembers (members : List (String × Value)) : Holdings :=
  members.foldl (fun holdings member => holdings.assign member.1 member.2) {}

end Holdings
end Filtergraph
