import Filtergraph.Proofs.Overlay.Creation
import Filtergraph.Proofs.Overlay.Decoding

/-!
# Forms of settings

A setting of a watermark can be given as a table, as the record that the table is validated as, or
as the table of the fields of that record.  Whatever mixture of forms is given, it makes one and the
same filter.  What that contributes can be read off the tables themselves: operands that take effect
are written as they stand there.
-/

namespace Filtergraph

/-! ## Forms -/

namespace SettingKind

/-- The forms in which a setting can be given: not at all, or as a table that is validated as a
record, as that record, or as the table of its fields. -/
inductive Form (kind : SettingKind α) :
    Option Schema.Members -> Option α -> Option Value -> Prop where
  | absent : Form kind none none none
  | members
      {members : Schema.Members}
      {a : α} :
      Form kind (some members) (some a) (some (.table members))
  | record
      {members : Schema.Members}
      {a : α} :
      Form kind (some members) (some a) (some (.record (kind.toRecord a)))
  | fields
      {members : Schema.Members}
      {a : α} :
      Form kind (some members) (some a) (some (.table (kind.toRecord a).fields))

/-- All forms of a setting set the same. -/
theorem Form.gives
    {kind : SettingKind α}
    {members : Option Schema.Members}
    {found : Option α}
    {value : Option Value}
    (form : kind.Form members found value)
    (accepted : members.map kind.ofMembers = found.map .accepted) :
    kind.Gives (value.getD .null) found := by
  cases form with
  | absent => exact .absent
  | members => exact .validated (Option.some.inj accepted)
  | record => exact .kept _
  | fields => exact .validated (kind.ofMembers_fields _)

end SettingKind

/-! ## Members -/

namespace Value

/-- What is kept of a value that is accepted as an operand: truth values become integers, and all
others stay what they are. -/
def kept : Value -> Value
  | .bool b => .int (if b then 1 else 0)
  | value => value

/-- Whether a value counts as an operand: null and blank texts do not. -/
def counts : Value -> Bool
  | .int _ | .bool _ | .double _ => true
  | .text s => Text.hasVisible s
  | _ => false

/-- A value as an operand in an expression, if it can be written.  A text is written as it is. -/
def written? : Value -> Option String
  | .int n => integerText? n
  | .bool b => some (if b then "1" else "0")
  | .double x => some x.text
  | .text s => some s
  | _ => none

end Value

namespace Schema

variable {name : String}
variable {members : Members}
variable {setting : Option Operand}

/-- Whether the member of a name counts as an operand. -/
def counts (name : String) (members : Members) : Bool :=
  ((Value.member? name members).getD .null).counts

/-- The member of a name as an operand in an expression. -/
def written? (name : String) (members : Members) : Option String :=
  ((Value.member? name members).getD .null).written?

/-- What is kept of the member of a name; an absent one counts as null. -/
def kept (name : String) (members : Members) : Value :=
  ((Value.member? name members).getD .null).kept

theorem kept_of_accepted
    {value : Value}
    (accepted : optional operand value = .accepted setting) :
    Value.ofOption Operand.toValue setting = value.kept := by
  cases value <;> cases accepted <;> rfl

/-- An operand that is given is written as the value that counts for it. -/
theorem render?_of_accepted
    {value : Value}
    (accepted : optional operand value = .accepted setting) :
    (given? setting).map Operand.render? =
      if value.counts then some value.written? else none := by
  cases value with
  | bool b => cases accepted; cases b <;> rfl
  | text s =>
    cases accepted
    rw [given?, Option.filter, Operand.isSet, Value.counts]
    cases Text.hasVisible s <;> rfl
  | _ => cases accepted <;> rfl

theorem kept_of_setting (accepted : Schema.setting name operand members = .accepted setting) :
    Value.ofOption Operand.toValue setting = kept name members :=
  kept_of_accepted (setting_eq_accepted_iff.mp accepted)

theorem render?_of_setting (accepted : Schema.setting name operand members = .accepted setting) :
    (given? setting).map Operand.render? =
      if counts name members then some (written? name members) else none :=
  render?_of_accepted (setting_eq_accepted_iff.mp accepted)

/-! ## What tables are written as -/

/-- The members of a table ask for distances from the edges. -/
def isRelative (members : Members) : Bool :=
  match Value.member? "position" members with
  | some (.text s) => s == Position.relative.name
  | _ => false

/-- The coordinate along an axis that the members of a table ask for, by the names of the coordinate
itself and of the distances from the near and the far edge. -/
def writtenCoordinate? (axis : Axis) (own near far : String) (members : Members) : Option String :=
  if isRelative members then
    if counts near members then written? near members
    else if counts far members then do
      return axis.frame ++ " - " ++ (← written? far members) ++ " - " ++ axis.overlay
    else some "0"
  else if counts own members then written? own members
  else some "0"

/-- The clause for the time that the members of a table ask for. -/
def writtenGate? (members : Members) : Option String :=
  if counts "start" members then
    if counts "end" members then do
      let start ← written? "start" members
      let finish ← written? "end" members
      return " :enable='" ++ ("between(t," ++ start ++ "," ++ finish ++ ")") ++ "'"
    else do
      let start ← written? "start" members
      return " :enable='" ++ ("gte(t," ++ start ++ ")") ++ "'"
  else some ""

/-- The graph that two tables ask for, with a picture and its size. -/
def writtenGraph? (picture : String) (size : Option Size) (coordinates time : Members) :
    Option String := do
  let x ← writtenCoordinate? .horizontal "x" "left" "right" coordinates
  let y ← writtenCoordinate? .vertical "y" "top" "bottom" coordinates
  let clause ← writtenGate? time
  let scaling ← Size.scaling? size
  return "movie=" ++ picture ++ scaling.clause ++ " [watermark]; [in][watermark] overlay=" ++ x ++
    ":" ++ y ++ clause ++ " [out]"

/-- The fields of a placement, as the members of a table give them. -/
def keptPlacement (members : Members) : Members :=
  ("position", (Value.member? "position" members).getD (.text Position.absolute.name)) ::
    ["x", "y", "top", "bottom", "left", "right"].map fun name => (name, kept name members)

/-- The fields of a window, as the members of a table give them. -/
def keptWindow (members : Members) : Members :=
  ["start", "end"].map fun name => (name, kept name members)

section Placement

variable {p : Placement}

/-- A table that is accepted as a placement has a member for each field, or none. -/
theorem parts_of_placementMembers (accepted : placementMembers members = .accepted p) :
    field ["position"] (.accepted .absolute) position members = .accepted p.position ∧
      Schema.setting "x" operand members = .accepted p.x ∧
      Schema.setting "y" operand members = .accepted p.y ∧
      Schema.setting "top" operand members = .accepted p.top ∧
      Schema.setting "bottom" operand members = .accepted p.bottom ∧
      Schema.setting "left" operand members = .accepted p.left ∧
      Schema.setting "right" operand members = .accepted p.right := by
  simp only [placementMembers, Verdict.seq_eq_accepted_iff,
    Verdict.functor_map_eq_accepted_iff] at accepted
  obtain ⟨_, right, ⟨_, left, ⟨_, bottom, ⟨_, top, ⟨_, y, ⟨_, x, ⟨position, placed, rfl⟩, atX, rfl⟩,
    atY, rfl⟩, atTop, rfl⟩, atBottom, rfl⟩, atLeft, rfl⟩, atRight, rfl⟩ := accepted
  exact ⟨placed, atX, atY, atTop, atBottom, atLeft, atRight⟩

/-- A table that is accepted as a window has a member for each bound, or none. -/
theorem parts_of_windowMembers
    {w : Window}
    (accepted : windowMembers members = .accepted w) :
    Schema.setting "start" operand members = .accepted w.start ∧
      Schema.setting "end" operand members = .accepted w.finish := by
  simp only [windowMembers, Verdict.seq_eq_accepted_iff,
    Verdict.functor_map_eq_accepted_iff] at accepted
  obtain ⟨_, finish, ⟨start, begins, rfl⟩, ends, rfl⟩ := accepted
  exact ⟨begins, ends⟩

/-- Only a text is accepted as a way of placing, and it is the name of that. -/
theorem eq_name_of_position
    {value : Value}
    {way : Position}
    (accepted : position value = .accepted way) :
    value = .text way.name := by
  cases value with
  | text s =>
      rw [position] at accepted
      cases known : Position.ofName? s with
      | none =>
          rw [known] at accepted
          cases accepted
      | some found =>
          rw [known] at accepted
          obtain rfl := Verdict.accepted.inj accepted
          have named := List.find?_some known
          rw [beq_iff_eq.mp named]
  | _ => cases accepted

/-- The way of placing is the one that is named, and absolute if none is. -/
theorem member?_position
    {way : Position}
    (accepted : field ["position"] (.accepted .absolute) position members = .accepted way) :
    (Value.member? "position" members).getD (.text Position.absolute.name) = .text way.name ∧
      isRelative members = (way == .relative) := by
  rw [field_singleton] at accepted
  rw [isRelative]
  cases named : Value.member? "position" members with
  | none =>
      rw [named] at accepted
      obtain rfl := Verdict.accepted.inj accepted
      exact ⟨rfl, rfl⟩
  | some value =>
      rw [named] at accepted
      obtain rfl := eq_name_of_position (Verdict.under_eq_accepted_iff.mp accepted)
      cases way <;> exact ⟨rfl, by decide⟩

theorem fields_of_placementMembers (accepted : placementMembers members = .accepted p) :
    (Record.placement p).fields = keptPlacement members := by
  obtain ⟨placed, x, y, top, bottom, left, right⟩ := parts_of_placementMembers accepted
  simp only [Record.fields, keptPlacement, List.map, (member?_position placed).1,
    kept_of_setting x, kept_of_setting y, kept_of_setting top, kept_of_setting bottom,
    kept_of_setting left, kept_of_setting right]

theorem render?_ofCoordinate (axis : Axis) (coordinate : Option Operand) :
    (Offset.ofCoordinate coordinate).render? axis =
      ((given? coordinate).map Operand.render?).getD (some "0") := by
  rw [Offset.ofCoordinate]
  cases given? coordinate <;> rfl

theorem render?_ofDistances (axis : Axis) (near far : Option Operand) :
    (Offset.ofDistances near far).render? axis =
      match (given? near).map Operand.render?, (given? far).map Operand.render? with
      | some distance, _ => distance
      | none, some distance => distance.map axis.fromFar
      | none, none => some "0" := by
  rw [Offset.ofDistances]
  cases given? near <;> cases given? far <;> rfl

/-- An absolute coordinate is written as the member of its table. -/
theorem render?_of_coordinate
    {coordinate : Option Operand}
    (absolute : isRelative members = false)
    (accepted : Schema.setting name operand members = .accepted coordinate)
    (axis : Axis)
    (near far : String) :
    (Offset.ofCoordinate coordinate).render? axis =
      writtenCoordinate? axis name near far members := by
  rw [render?_ofCoordinate, render?_of_setting accepted, writtenCoordinate?, absolute,
    if_neg Bool.false_ne_true]
  split <;> rfl

/-- A coordinate by distances is written as the members of its table. -/
theorem render?_of_distances
    {near far : Option Operand}
    {nearName farName : String}
    (relative : isRelative members = true)
    (acceptedNear : Schema.setting nearName operand members = .accepted near)
    (acceptedFar : Schema.setting farName operand members = .accepted far)
    (axis : Axis)
    (own : String) :
    (Offset.ofDistances near far).render? axis =
      writtenCoordinate? axis own nearName farName members := by
  rw [render?_ofDistances, render?_of_setting acceptedNear, render?_of_setting acceptedFar,
    writtenCoordinate?, if_pos relative]
  cases counts nearName members with
  | true => rfl
  | false =>
      cases counts farName members with
      | true => cases written? farName members <;> rfl
      | false => rfl

/-- The coordinates of a placement are written as the members of its table. -/
theorem offsets_of_placementMembers (accepted : placementMembers members = .accepted p) :
    p.horizontal.render? .horizontal =
        writtenCoordinate? .horizontal "x" "left" "right" members ∧
      p.vertical.render? .vertical = writtenCoordinate? .vertical "y" "top" "bottom" members := by
  obtain ⟨placed, x, y, top, bottom, left, right⟩ := parts_of_placementMembers accepted
  have way := (member?_position placed).2
  rw [Placement.horizontal, Placement.vertical]
  cases position : p.position with
  | absolute =>
      rw [position] at way
      exact ⟨render?_of_coordinate way x _ _ _, render?_of_coordinate way y _ _ _⟩
  | relative =>
      rw [position] at way
      exact ⟨render?_of_distances way left right _ _, render?_of_distances way top bottom _ _⟩

end Placement

section Window

variable {w : Window}

theorem fields_of_windowMembers (accepted : windowMembers members = .accepted w) :
    (Record.window w).fields = keptWindow members := by
  obtain ⟨start, finish⟩ := parts_of_windowMembers accepted
  simp only [Record.fields, keptWindow, List.map, kept_of_setting start, kept_of_setting finish]

/-- The clause of a window, by the operands that are given. -/
theorem clause_gate? (w : Window) :
    w.gate?.map (fun gate => Gate.clause gate.predicate) =
      match (given? w.start).map Operand.render?, (given? w.finish).map Operand.render? with
      | none, _ => some ""
      | some start, none => do
        return " :enable='" ++ ("gte(t," ++ (← start) ++ ")") ++ "'"
      | some start, some finish => do
        return " :enable='" ++ ("between(t," ++ (← start) ++ "," ++ (← finish) ++ ")") ++ "'" := by
  rw [Window.gate?]
  cases given? w.start with
  | none => rfl
  | some start =>
      cases given? w.finish with
      | none =>
          dsimp only [Option.map_some, Option.map_none]
          cases start.render? with
          | none => rfl
          | some startText => exact congrArg some (Gate.onward startText).clause_predicate
      | some finish =>
          dsimp only [Option.map_some]
          cases start.render? with
          | none => rfl
          | some startText =>
              cases finish.render? with
              | none => rfl
              | some finishText =>
                  exact congrArg some (Gate.between startText finishText).clause_predicate

/-- The gate of a window is written as the members of its table. -/
theorem clause_of_windowMembers (accepted : windowMembers members = .accepted w) :
    w.gate?.map (fun gate => Gate.clause gate.predicate) = writtenGate? members := by
  obtain ⟨start, finish⟩ := parts_of_windowMembers accepted
  rw [clause_gate?, render?_of_setting start, render?_of_setting finish, writtenGate?]
  cases counts "start" members <;> cases counts "end" members <;> rfl

end Window

/-- What a watermark contributes is written as the members of its tables. -/
theorem render_of_members
    {path : String}
    {size : Option Size}
    {coordinates time : Members}
    {p : Placement}
    {w : Window}
    (placed : placementMembers coordinates = .accepted p)
    (timed : windowMembers time = .accepted w) :
    (Graph.ofSettings? path p size w).map Graph.render =
      writtenGraph? path size coordinates time := by
  obtain ⟨x, y⟩ := offsets_of_placementMembers placed
  rw [Graph.ofSettings?, writtenGraph?, Placement.resolve?, ← x, ← y,
    ← clause_of_windowMembers timed]
  -- the first part that cannot be written ends both sides
  cases p.horizontal.render? .horizontal with
  | none => rfl
  | some xText =>
    cases p.vertical.render? .vertical with
    | none => rfl
    | some yText =>
      cases w.gate? with
      | none => rfl
      | some gate => cases Size.scaling? size <;> rfl

/-- The integers among the members of a table have not too many digits. -/
def ShortIntegers (members : Members) : Prop :=
  ∀ name n, Value.member? name members = some (.int n) -> digitCount n ≤ digitLimit

/-- A member that counts is written, if it is no long integer. -/
theorem written?_of_counts
    (short : ShortIntegers members)
    (counting : counts name members = true) :
    ∃ text, written? name members = some text := by
  rw [counts] at counting
  rw [written?]
  cases member : Value.member? name members with
  | none =>
      rw [member] at counting
      cases counting
  | some value =>
      rw [member] at counting
      cases value with
      | int n =>
          exact ⟨_, congrArg (·.map Numeral.text) (Numeral.ofInt?_of_short (short name n member))⟩
      | bool b => exact ⟨_, rfl⟩
      | double x => exact ⟨_, rfl⟩
      | text s => exact ⟨_, rfl⟩
      | _ => cases counting

theorem exists_writtenCoordinate
    (short : ShortIntegers members)
    (axis : Axis)
    (own near far : String) :
    ∃ text, writtenCoordinate? axis own near far members = some text := by
  rw [writtenCoordinate?]
  split
  · split
    · next counting => exact written?_of_counts short counting
    · split
      · next counting =>
          obtain ⟨text, written⟩ := written?_of_counts short counting
          rw [written]
          exact ⟨_, rfl⟩
      · exact ⟨_, rfl⟩
  · split
    · next counting => exact written?_of_counts short counting
    · exact ⟨_, rfl⟩

theorem exists_writtenGate (short : ShortIntegers members) :
    ∃ clause, writtenGate? members = some clause := by
  rw [writtenGate?]
  split
  · next counting =>
      obtain ⟨start, writtenStart⟩ := written?_of_counts short counting
      split
      · next countingToo =>
          obtain ⟨finish, writtenFinish⟩ := written?_of_counts short countingToo
          rw [writtenStart, writtenFinish]
          exact ⟨_, rfl⟩
      · rw [writtenStart]
        exact ⟨_, rfl⟩
  · exact ⟨_, rfl⟩

/-- Tables without long integers are written. -/
theorem exists_writtenGraph
    {size : Option Size}
    {coordinates time : Members}
    (shortCoordinates : ShortIntegers coordinates)
    (shortTime : ShortIntegers time)
    (writable : Size.Writable size)
    (picture : String) :
    ∃ graph, writtenGraph? picture size coordinates time = some graph := by
  obtain ⟨x, writtenX⟩ := exists_writtenCoordinate shortCoordinates .horizontal "x" "left" "right"
  obtain ⟨y, writtenY⟩ := exists_writtenCoordinate shortCoordinates .vertical "y" "top" "bottom"
  obtain ⟨clause, writtenClause⟩ := exists_writtenGate shortTime
  obtain ⟨scaling, scaled⟩ := Size.exists_scaling_iff.mpr writable
  rw [writtenGraph?, writtenX, writtenY, writtenClause, scaled]
  exact ⟨_, rfl⟩

end Schema

/-! ## Filters -/

/-- A setting without a table is accepted like an empty one. -/
theorem SettingKind.accepted_getD
    {kind : SettingKind α}
    {members : Option Schema.Members}
    {found : Option α}
    {absent : α}
    (accepted : members.map kind.ofMembers = found.map .accepted)
    (empty : kind.ofMembers [] = .accepted absent) :
    kind.ofMembers (members.getD []) = .accepted (found.getD absent) := by
  cases members with
  | none =>
      cases found with
      | none => exact empty
      | some a => cases accepted
  | some members =>
      cases found with
      | none => cases accepted
      | some a => exact Option.some.inj accepted

namespace FilterRequest

/-- Whatever mixture of forms the settings of a watermark are given in, they make the same filter.
What it contributes is written as the tables are, and it fails exactly if they cannot be written: a
text that takes effect stands there character by character, and so do the numbers; a truth value is
written as an integer.  Tables without long integers can be written.  The fields of what is set are
the members of the tables, up to truth values. -/
theorem forms_make_same_filter
    {files : FileTree}
    {path : String}
    {coordinates scale time : Option Schema.Members}
    {placement : Option Placement}
    {size : Option Size}
    {window : Option Window}
    (there : files.isFile path = true)
    (placed : coordinates.map Schema.placementMembers = placement.map .accepted)
    (sized : scale.map Schema.sizeMembers = size.map .accepted)
    (timed : time.map Schema.windowMembers = window.map .accepted)
    (priority : Option Value) :
    let watermark := Watermark.ofFound path placement size window
    let filter := watermark.toFilter (priority.getD (.int 0))
    let written := Schema.writtenGraph? path size (coordinates.getD []) (time.getD [])
    (∀ placementForm sizeForm windowForm,
      SettingKind.placement.Form coordinates placement placementForm ->
      SettingKind.size.Form scale size sizeForm ->
      SettingKind.window.Form time window windowForm ->
      (ofValues path placementForm sizeForm windowForm priority).resolve files = .ok filter) ∧
    (∀ format, filter.fragment format =
      (Failure.written written).map fun graph => some [.text "-vf", .text graph]) ∧
    (Schema.ShortIntegers (coordinates.getD []) -> Schema.ShortIntegers (time.getD []) ->
      Size.Writable size ->
      ∃ graph, written = some graph ∧
        ∀ format, filter.fragment format = .ok (some [.text "-vf", .text graph])) ∧
    (Record.placement watermark.placement).fields = Schema.keptPlacement (coordinates.getD []) ∧
    (Record.window watermark.window).fields = Schema.keptWindow (time.getD []) := by
  intro watermark filter written
  have placedAll : Schema.placementMembers (coordinates.getD []) =
      .accepted (placement.getD {}) :=
    SettingKind.placement.accepted_getD placed rfl
  have timedAll : Schema.windowMembers (time.getD []) = .accepted (window.getD {}) :=
    SettingKind.window.accepted_getD timed rfl
  have contributes (format : Option Format) : filter.fragment format =
      (Failure.written written).map fun graph => some [.text "-vf", .text graph] := by
    have drawn : watermark.graph?.map Graph.render = written :=
      Schema.render_of_members placedAll timedAll
    rw [Watermark.fragment_toFilter, Watermark.fragment?, ← drawn]
    cases watermark.graph? <;> rfl
  refine ⟨?_, contributes, ?_, Schema.fields_of_placementMembers placedAll,
    Schema.fields_of_windowMembers timedAll⟩
  · intro placementForm sizeForm windowForm ofPlacement ofSize ofWindow
    rw [resolve_ofValues]
    exact (Watermark.Creation.made there (ofPlacement.gives placed) (ofSize.gives sized)
      (ofWindow.gives timed)).create_eq
  · intro shortCoordinates shortTime writable
    obtain ⟨graph, isWritten⟩ :=
      Schema.exists_writtenGraph shortCoordinates shortTime writable path
    refine ⟨graph, isWritten, ?_⟩
    intro format
    rw [contributes, show written = some graph from isWritten]
    rfl

/-- A table for a placement in which a blank distance does not count. -/
def cornerTable : Schema.Members :=
  [("position", .text "relative"), ("top", .text " 007"), ("left", .text " "), ("right", .int 5)]

/-- A table for a size under one short name and one long one. -/
def sidesTable : Schema.Members :=
  [("w", .int 64), ("height", .int 32)]

/-- A table for a window. -/
def boundsTable : Schema.Members :=
  [("start", .int 0), ("end", .text "n / 2")]

/-- The placement that the table is validated as. -/
def cornerPlacement : Placement where
  position := .relative
  top := some (.text " 007")
  left := some (.text " ")
  right := some (.int 5)

/-- The window that the table is validated as. -/
def boundsWindow : Window where
  start := some (.int 0)
  finish := some (.text "n / 2")

/-- The size that the table is validated as. -/
def sidesSize : Size where
  width := some 64
  height := some 32

/-- What the tables are written as. -/
def cornerGraph : String :=
  "movie=logo.png,scale=64:32 [watermark]; [in][watermark] " ++
    "overlay=main_w - 5 - overlay_w: 007 :enable='between(t,0,n / 2)' [out]"

theorem writtenGraph_cornerTable :
    Schema.writtenGraph? "logo.png" (some sidesSize) cornerTable boundsTable =
      some cornerGraph := by
  decide

/-- A table, a record and the table of the fields of a record make the filter that the three tables
make; leading zeros and inner blanks are written as they are given. -/
theorem forms_of_cornerTable :
    let files : FileTree := { files := [["logo.png"]] }
    let watermark : Watermark := ⟨"logo.png", cornerPlacement, some sidesSize, boundsWindow⟩
    files.isFile "logo.png" = true ∧
      (some cornerTable).map Schema.placementMembers = (some cornerPlacement).map .accepted ∧
      (some sidesTable).map Schema.sizeMembers = (some sidesSize).map .accepted ∧
      (some boundsTable).map Schema.windowMembers = (some boundsWindow).map .accepted ∧
      (ofValues "logo.png" (some (.table cornerTable)) (some (.record (.size sidesSize)))
        (some (.table (Record.window boundsWindow).fields)) none).resolve files =
          .ok (watermark.toFilter (.int 0)) ∧
      (watermark.toFilter (.int 0)).fragment none =
        .ok (some [.text "-vf", .text cornerGraph]) := by
  intro files watermark
  have there : files.isFile "logo.png" = true := by decide
  have placed : (some cornerTable).map Schema.placementMembers =
      (some cornerPlacement).map .accepted := rfl
  have sized : (some sidesTable).map Schema.sizeMembers = (some sidesSize).map .accepted := rfl
  have timed : (some boundsTable).map Schema.windowMembers =
      (some boundsWindow).map .accepted := rfl
  obtain ⟨made, contributes, -⟩ := forms_make_same_filter there placed sized timed none
  refine ⟨there, placed, sized, timed, made _ _ _ .members .record .fields, ?_⟩
  have written := contributes none
  rw [show Schema.writtenGraph? "logo.png" (some sidesSize) ((some cornerTable).getD [])
    ((some boundsTable).getD []) = some cornerGraph from writtenGraph_cornerTable] at written
  exact written

/-- A table for a placement with a coordinate of too many digits. -/
def distantTable : Schema.Members :=
  [("x", .text "abc"), ("y", .int (10 ^ digitLimit))]

/-- The placement that the table is validated as. -/
def distantPlacement : Placement where
  x := some (.text "abc")
  y := some (.int (10 ^ digitLimit))

/-- A table for a placement with a truth value for a coordinate. -/
def flagTable : Schema.Members :=
  [("x", .bool true)]

/-- The placement that the table is validated as. -/
def flagPlacement : Placement where
  x := some (.int 1)

/-- Not all tables are written as they are given.  One with an integer of too many digits makes a
filter, but this returns no arguments that a text of the table could stand in, and the integer has
no text.  A truth value is kept and written as an integer. -/
theorem tables_not_written_as_given :
    let files : FileTree := { files := [["logo.png"]] }
    let distant := Watermark.toFilter ⟨"logo.png", distantPlacement, none, {}⟩ (.int 0)
    let flag := Watermark.toFilter ⟨"logo.png", flagPlacement, none, {}⟩ (.int 0)
    files.isFile "logo.png" = true ∧
      (Schema.placementMembers distantTable = .accepted distantPlacement ∧
        (ofValues "logo.png" (some (.table distantTable)) none none none).resolve files =
          .ok distant ∧
        ∀ format, distant.fragment format = .error (.wrongValue .unwritable)) ∧
      (Schema.placementMembers flagTable = .accepted flagPlacement ∧
        (ofValues "logo.png" (some (.table flagTable)) none none none).resolve files = .ok flag ∧
        ∀ format, flag.fragment format = .ok (some [.text "-vf",
          .text "movie=logo.png [watermark]; [in][watermark] overlay=1:0 [out]"])) := by
  intro files distant flag
  have there : files.isFile "logo.png" = true := by decide
  have makes (table : Schema.Members) (placement : Placement)
      (placed : Schema.placementMembers table = .accepted placement) :
      (ofValues "logo.png" (some (.table table)) none none none).resolve files =
        .ok (Watermark.toFilter ⟨"logo.png", placement, none, {}⟩ (.int 0)) := by
    rw [resolve_ofValues]
    exact (Watermark.Creation.made there (.validated placed) .absent .absent).create_eq
  refine ⟨there, ⟨rfl, makes _ _ rfl, ?_⟩, rfl, makes _ _ rfl, fun _ => rfl⟩
  intro format
  have tooLong : Numeral.ofInt? (10 ^ digitLimit) = none :=
    Numeral.ofInt?_eq_none_iff.mpr (lt_digitCount_pow (by decide))
  have unwritten : distantPlacement.vertical.render? .vertical = none :=
    congrArg (·.map Numeral.text) tooLong
  rw [Watermark.fragment_toFilter, Watermark.fragment?, Watermark.graph?, Graph.ofSettings?,
    Placement.resolve?, unwritten]
  rfl

end FilterRequest
end Filtergraph
