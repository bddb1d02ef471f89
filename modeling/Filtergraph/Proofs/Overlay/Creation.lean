import Filtergraph.Proofs.Schema.Records
import Filtergraph.Session.Operation

/-!
# Making the filter of a watermark

The picture has to be a file.  Then the settings are looked at in a fixed order: one that is absent
is left at what it is by itself, a record of the right kind is kept, and a table counts for the
record it is validated as.  The first setting that is none of these is the failure.
-/

namespace Filtergraph

/-! ## Settings -/

/-- A kind of setting of a watermark, with the records that can be given for it. -/
structure SettingKind (α : Type) where
  /-- The setting. -/
  setting : Setting
  /-- The schema of its records. -/
  schema : Schema
  /-- The record of what is set. -/
  toRecord : α -> Record
  /-- What a record sets, if it is one of the schema. -/
  ofRecord? : Record -> Option α
  /-- What the members of a table set. -/
  ofMembers : Schema.Members -> Verdict α
  ofRecord?_eq_some_iff : ∀ {record a}, ofRecord? record = some a ↔ record = toRecord a
  /-- The fields of a record set what the record does. -/
  ofMembers_fields : ∀ a, ofMembers (toRecord a).fields = .accepted a

namespace SettingKind

/-- Where a watermark is placed. -/
def placement : SettingKind Placement where
  setting := .coordinates
  schema := .placement
  toRecord := .placement
  ofRecord? := fun | .placement p => some p | _ => none
  ofMembers := Schema.placementMembers
  ofRecord?_eq_some_iff := fun {record _} => by cases record <;> simp
  ofMembers_fields := Schema.placementMembers_fields

/-- The size of a watermark. -/
def size : SettingKind Size where
  setting := .scale
  schema := .size
  toRecord := .size
  ofRecord? := fun | .size s => some s | _ => none
  ofMembers := Schema.sizeMembers
  ofRecord?_eq_some_iff := fun {record _} => by cases record <;> simp
  ofMembers_fields := Schema.sizeMembers_fields

/-- When a watermark is shown. -/
def window : SettingKind Window where
  setting := .time
  schema := .window
  toRecord := .window
  ofRecord? := fun | .window w => some w | _ => none
  ofMembers := Schema.windowMembers
  ofRecord?_eq_some_iff := fun {record _} => by cases record <;> simp
  ofMembers_fields := Schema.windowMembers_fields

variable {kind : SettingKind α}
variable {value : Value}
variable {found : Option α}
variable {faults : List Fault}

/-- What a value sets. -/
inductive Gives (kind : SettingKind α) : Value -> Option α -> Prop where
  | absent : Gives kind .null none
  | kept (a : α) : Gives kind (.record (kind.toRecord a)) (some a)
  | validated
      {members : Schema.Members}
      {a : α}
      (accepted : kind.ofMembers members = .accepted a) :
      Gives kind (.table members) (some a)

/-- The faults of a value that sets nothing and is not null. -/
inductive Misfits (kind : SettingKind α) : Value -> List Fault -> Prop where
  | members
      {members : Schema.Members}
      {faults : List Fault}
      (rejected : kind.ofMembers members = .rejected faults) :
      Misfits kind (.table members) faults
  | other
      {value : Value}
      (given : value ≠ .null)
      (noTable : ∀ members, value ≠ .table members)
      (noRecord : ∀ a, value ≠ .record (kind.toRecord a)) :
      Misfits kind value [⟨[], .notRecord kind.schema⟩]

/-- The check of a setting of the kind. -/
def check (kind : SettingKind α) : Value -> Except Failure (Option α) :=
  WatermarkSettings.checkSetting kind.setting kind.schema
    (Schema.document kind.schema kind.ofRecord? kind.ofMembers)

/-- The failure of a setting with faults. -/
def failure (kind : SettingKind α) (faults : List Fault) : Failure :=
  .badSetting kind.setting ⟨kind.schema, faults⟩

theorem check_of_gives (gives : kind.Gives value found) : kind.check value = .ok found := by
  cases gives with
  | absent => rfl
  | kept a =>
      have known : kind.ofRecord? (kind.toRecord a) = some a :=
        kind.ofRecord?_eq_some_iff.mpr rfl
      simp only [check, WatermarkSettings.checkSetting, Schema.document, known]
      rfl
  | validated accepted =>
      simp only [check, WatermarkSettings.checkSetting, Schema.document, accepted]
      rfl

theorem check_of_misfits
    (misfits : kind.Misfits value faults) :
    kind.check value = .error (kind.failure faults) := by
  cases misfits with
  | members rejected =>
      simp only [check, WatermarkSettings.checkSetting, Schema.document, rejected]
      rfl
  | other given noTable noRecord =>
      cases value with
      | null => exact absurd rfl given
      | table members => exact absurd rfl (noTable members)
      | record record =>
          have unknown : kind.ofRecord? record = none := by
            rw [Option.eq_none_iff_forall_ne_some]
            intro a known
            exact noRecord a (congrArg Value.record (kind.ofRecord?_eq_some_iff.mp known))
          simp only [check, WatermarkSettings.checkSetting, Schema.document, unknown]
          rfl
      | _ => rfl

/-- Every value sets something, is null or has faults. -/
theorem gives_or_misfits (kind : SettingKind α) (value : Value) :
    (∃ found, kind.Gives value found) ∨ ∃ faults, kind.Misfits value faults := by
  cases value with
  | null => exact .inl ⟨none, .absent⟩
  | table members =>
      cases verdict : kind.ofMembers members with
      | accepted a => exact .inl ⟨some a, .validated verdict⟩
      | rejected faults => exact .inr ⟨faults, .members verdict⟩
  | record record =>
      cases known : kind.ofRecord? record with
      | some a =>
          obtain rfl := kind.ofRecord?_eq_some_iff.mp known
          exact .inl ⟨some a, .kept a⟩
      | none =>
          refine .inr ⟨_, .other nofun nofun ?_⟩
          rintro a ⟨⟩
          rw [kind.ofRecord?_eq_some_iff.mpr rfl] at known
          cases known
  | _ => exact .inr ⟨_, .other nofun nofun nofun⟩

/-- Only null sets nothing. -/
theorem Gives.eq_none_iff (gives : kind.Gives value found) : found = none ↔ value = .null := by
  cases gives <;> simp

end SettingKind

/-! ## Watermarks -/

namespace Watermark

/-- A watermark by what its settings set; absent ones are left at what they are by themselves. -/
def ofFound (path : String) (placement : Option Placement) (size : Option Size)
    (window : Option Window) : Watermark where
  path := path
  placement := placement.getD {}
  size := size
  window := window.getD {}

/-- What comes of making the filter of a watermark: the path comes before all settings, and these
come in the order of placement, size and window. -/
inductive Creation
    (files : FileTree)
    (path : String)
    (coordinates scale time priority : Value) :
    Except Failure Filter -> Prop where
  | noPicture
      (missing : files.isFile path = false) :
      Creation files path coordinates scale time priority (.error (.noPicture (.text path)))
  | badCoordinates
      {faults : List Fault}
      (there : files.isFile path = true)
      (misfits : SettingKind.placement.Misfits coordinates faults) :
      Creation files path coordinates scale time priority
        (.error (.badSetting .coordinates ⟨.placement, faults⟩))
  | badScale
      {placement : Option Placement}
      {faults : List Fault}
      (there : files.isFile path = true)
      (placed : SettingKind.placement.Gives coordinates placement)
      (misfits : SettingKind.size.Misfits scale faults) :
      Creation files path coordinates scale time priority
        (.error (.badSetting .scale ⟨.size, faults⟩))
  | badTime
      {placement : Option Placement}
      {size : Option Size}
      {faults : List Fault}
      (there : files.isFile path = true)
      (placed : SettingKind.placement.Gives coordinates placement)
      (sized : SettingKind.size.Gives scale size)
      (misfits : SettingKind.window.Misfits time faults) :
      Creation files path coordinates scale time priority
        (.error (.badSetting .time ⟨.window, faults⟩))
  | made
      {placement : Option Placement}
      {size : Option Size}
      {window : Option Window}
      (there : files.isFile path = true)
      (placed : SettingKind.placement.Gives coordinates placement)
      (sized : SettingKind.size.Gives scale size)
      (timed : SettingKind.window.Gives time window) :
      Creation files path coordinates scale time priority
        (.ok ((ofFound path placement size window).toFilter priority))

section Creation

variable {files : FileTree}
variable {path : String}
variable {coordinates scale time priority : Value}

/-- Making a watermark checks the path and then the settings, one after the other. -/
theorem create_text :
    create files ⟨.text path, coordinates, scale, time⟩ =
      if files.isFile path then do
        let placement ← SettingKind.placement.check coordinates
        let size ← SettingKind.size.check scale
        let window ← SettingKind.window.check time
        return ofFound path placement size window
      else .error (.noPicture (.text path)) := by
  rw [create, WatermarkSettings.checkPath]
  cases files.isFile path <;> rfl

/-- Something comes of making the filter of a watermark. -/
theorem exists_creation
    (files : FileTree)
    (path : String)
    (coordinates scale time priority : Value) :
    ∃ outcome, Creation files path coordinates scale time priority outcome := by
  cases there : files.isFile path with
  | false => exact ⟨_, .noPicture there⟩
  | true =>
      obtain ⟨placement, placed⟩ | ⟨faults, misfits⟩ :=
        SettingKind.placement.gives_or_misfits coordinates
      · obtain ⟨size, sized⟩ | ⟨faults, misfits⟩ := SettingKind.size.gives_or_misfits scale
        · obtain ⟨window, timed⟩ | ⟨faults, misfits⟩ := SettingKind.window.gives_or_misfits time
          · exact ⟨_, .made there placed sized timed⟩
          · exact ⟨_, .badTime there placed sized misfits⟩
        · exact ⟨_, .badScale there placed misfits⟩
      · exact ⟨_, .badCoordinates there misfits⟩

theorem Creation.create_eq
    {outcome : Except Failure Filter}
    (creation : Creation files path coordinates scale time priority outcome) :
    (create files ⟨.text path, coordinates, scale, time⟩).map (·.toFilter priority) = outcome := by
  rw [create_text]
  cases creation with
  | noPicture missing =>
      rw [missing]
      rfl
  | badCoordinates there misfits =>
      rw [if_pos there, SettingKind.check_of_misfits misfits]
      rfl
  | badScale there placed misfits =>
      rw [if_pos there, SettingKind.check_of_gives placed, SettingKind.check_of_misfits misfits]
      rfl
  | badTime there placed sized misfits =>
      rw [if_pos there, SettingKind.check_of_gives placed, SettingKind.check_of_gives sized,
        SettingKind.check_of_misfits misfits]
      rfl
  | made there placed sized timed =>
      rw [if_pos there, SettingKind.check_of_gives placed, SettingKind.check_of_gives sized,
        SettingKind.check_of_gives timed]
      rfl

end Creation
end Watermark

namespace FilterRequest

/-- The request for the filter of a watermark by values, some of which may be absent. -/
def ofValues (path : String) (coordinates scale time priority : Option Value) : FilterRequest :=
  .watermark (.plain (.text path)) (coordinates.map .plain) (scale.map .plain) (time.map .plain)
    (priority.map .plain)

theorem resolveOption_plain (value : Option Value) (absent : Value) :
    Draft.resolveOption (value.map .plain) absent = .ok (value.getD absent) := by
  cases value with
  | none => rfl
  | some value => exact Draft.resolve.eq_1 value

theorem resolve_ofValues
    (files : FileTree)
    (path : String)
    (coordinates scale time priority : Option Value) :
    (ofValues path coordinates scale time priority).resolve files =
      (Watermark.create files ⟨.text path, coordinates.getD .null, scale.getD .null,
        time.getD .null⟩).map (·.toFilter (priority.getD (.int 0))) := by
  rw [ofValues, resolve, Draft.resolve.eq_1]
  simp only [resolveOption_plain]
  rfl

/-- Making the filter of a watermark fails with the path if that is no file, whatever the settings
are; else with the first setting that does not fit; and it does not fail in any other way.  Absent
settings count as null, and without a priority that is zero.  The filter that is made holds the
path, the priority, and what the settings set; its size is null exactly if none was given. -/
theorem resolve_watermark_iff
    (files : FileTree)
    (path : String)
    (coordinates scale time priority : Option Value) :
    (∀ outcome, (ofValues path coordinates scale time priority).resolve files = outcome ↔
      Watermark.Creation files path (coordinates.getD .null) (scale.getD .null) (time.getD .null)
        (priority.getD (.int 0)) outcome) ∧
    ∀ filter, (ofValues path coordinates scale time priority).resolve files = .ok filter ->
      ∃ placement size window,
        SettingKind.placement.Gives (coordinates.getD .null) placement ∧
        SettingKind.size.Gives (scale.getD .null) size ∧
        SettingKind.window.Gives (time.getD .null) window ∧
        filter.holdings =
          { priority := some (priority.getD (.int 0))
            picture := some (.text path)
            coordinates := some (.record (.placement (placement.getD {})))
            scale := some (.ofOption (fun size => .record (.size size)) size)
            time := some (.record (.window (window.getD {}))) } ∧
        (size = none ↔ scale.getD .null = .null) := by
  have creates {outcome : Except Failure Filter} :
      (ofValues path coordinates scale time priority).resolve files = outcome ↔
        Watermark.Creation files path (coordinates.getD .null) (scale.getD .null)
          (time.getD .null) (priority.getD (.int 0)) outcome := by
    rw [resolve_ofValues]
    refine ⟨?_, Watermark.Creation.create_eq⟩
    rintro rfl
    obtain ⟨outcome, creation⟩ := Watermark.exists_creation files path (coordinates.getD .null)
      (scale.getD .null) (time.getD .null) (priority.getD (.int 0))
    rwa [creation.create_eq]
  refine ⟨fun _ => creates, ?_⟩
  intro filter made
  cases creates.mp made with
  | made there placed sized timed =>
      exact ⟨_, _, _, placed, sized, timed, rfl, sized.eq_none_iff⟩

end FilterRequest
end Filtergraph
