import Filtergraph.Data.Numeral

/-!
# Encodings

An encoding is a profile with a quality, as a constant rate factor, and a preset.  A factor that
is absent or zero gives way to the factor of the profile, an absent or empty preset to `medium`.
Without a factor that can be written there are no codec arguments.
-/

namespace Filtergraph

/-- The supported kinds of output. -/
inductive Profile where
  | h264
  | vp9
  | copyAudio
  deriving DecidableEq, Repr

namespace Profile

/-- All profiles. -/
def all : List Profile := [.h264, .vp9, .copyAudio]

/-- The name of a profile. -/
def name : Profile -> String
  | .h264 => "h264"
  | .vp9 => "vp9"
  | .copyAudio => "copy_audio"

/-- The profile of a name. -/
def ofName? (name : String) : Option Profile :=
  all.find? fun profile => profile.name == name

/-- The rate factor of a profile. -/
def quality : Profile -> Int
  | .h264 => 18
  | .vp9 => 32
  | .copyAudio => 18

/-- No profile has zero for its rate factor. -/
theorem quality_ne_zero (profile : Profile) : profile.quality ≠ 0 := by
  cases profile <;> decide

/-- The codec arguments with a given factor and preset.  Words of the command are turned into
arguments by `word`. -/
def arguments (word : String -> α) (quality preset : α) : Profile -> List α
  | .h264 =>
    [word "-c:v", word "libx264", word "-crf", quality, word "-preset", preset,
      word "-pix_fmt", word "yuv420p"]
  | .vp9 => [word "-c:v", word "libvpx-vp9", word "-crf", quality, word "-b:v", word "0"]
  | .copyAudio =>
    [word "-c:v", word "libx264", word "-crf", quality, word "-c:a", word "copy"]

end Profile

/-- The preset in place of an absent one. -/
def defaultPreset : String := "medium"

/-- What the output is encoded as. -/
structure Encoding where
  /-- The kind of output. -/
  profile : Profile
  /-- The constant rate factor. -/
  quality : Option Int := none
  /-- The encoding preset. -/
  preset : Option String := none
  deriving DecidableEq, Repr

namespace Encoding

/-- The rate factor that takes effect. -/
def effectiveQuality (encoding : Encoding) : Int :=
  match encoding.quality with
  | none => encoding.profile.quality
  | some factor => if factor = 0 then encoding.profile.quality else factor

/-- A factor that is asked for takes effect unless it is zero. -/
theorem effectiveQuality_of_asked {encoding : Encoding} {c : Int}
    (asked : encoding.quality = some c) :
    encoding.effectiveQuality = if c = 0 then encoding.profile.quality else c := by
  rw [effectiveQuality, asked]

/-- Only a factor of zero does not take effect. -/
theorem effectiveQuality_eq_iff {encoding : Encoding} {c : Int}
    (asked : encoding.quality = some c) :
    encoding.effectiveQuality = c ↔ c ≠ 0 := by
  rw [effectiveQuality_of_asked asked]
  by_cases zero : c = 0
  · simp [zero, encoding.profile.quality_ne_zero]
  · simp [zero]

/-- The preset that takes effect. -/
def effectivePreset (encoding : Encoding) : String :=
  match encoding.preset with
  | none => defaultPreset
  | some preset => if preset = "" then defaultPreset else preset

/-- The codec arguments, if the rate factor can be written. -/
def arguments? (encoding : Encoding) : Option (List String) := do
  let quality ← Numeral.ofInt? encoding.effectiveQuality
  return encoding.profile.arguments id quality.text encoding.effectivePreset

/-- There are codec arguments exactly if the factor that takes effect can be written. -/
theorem arguments?_eq_some_iff {encoding : Encoding} {codec : List String} :
    encoding.arguments? = some codec ↔
      digitCount encoding.effectiveQuality ≤ digitLimit ∧
        encoding.profile.arguments id (toString encoding.effectiveQuality)
          encoding.effectivePreset = codec := by
  rw [arguments?]
  by_cases short : digitCount encoding.effectiveQuality ≤ digitLimit
  · rw [Numeral.ofInt?_of_short short]
    exact ⟨fun same => ⟨short, Option.some.inj same⟩, fun same => congrArg some same.2⟩
  · rw [Numeral.ofInt?_eq_none_iff.mpr (Nat.lt_of_not_le short)]
    exact ⟨nofun, fun same => absurd same.1 short⟩

theorem arguments?_eq_none_iff {encoding : Encoding} :
    encoding.arguments? = none ↔ digitLimit < digitCount encoding.effectiveQuality := by
  rw [arguments?, ← Numeral.ofInt?_eq_none_iff]
  cases Numeral.ofInt? encoding.effectiveQuality <;> simp

end Encoding
end Filtergraph
