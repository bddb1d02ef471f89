import Filtergraph.Proofs.Schema.Verdicts
import Filtergraph.Proofs.Text.Marks
import Filtergraph.Proofs.World.Pipelines

/-!
# Qualities of commands

The rate factor of an encoding is written behind its option, in the codec arguments in front of the
output of every command for that encoding.  A factor of zero is taken for none and gives way to the
factor of the profile, so that asking for one is the same as asking for the other; any other factor
that can be written reaches the command, and one of too many digits leaves no codec arguments.
-/

namespace Filtergraph

/-- The argument behind the first occurrence of an option. -/
def operandOf? [DecidableEq α] (option : α) : List α -> Option α
  | [] => none
  | argument :: rest => if argument = option then rest.head? else operandOf? option rest

/-! ## Codec arguments -/

/-- The rate factor of a profile can be written. -/
theorem Profile.short_quality (profile : Profile) : digitCount profile.quality ≤ digitLimit := by
  cases profile <;> decide

namespace Encoding

variable {encoding other : Encoding}
variable {codec : List String}
variable {c d : Int}

/-- Of two different factors the same takes effect only if one of them is zero and the other one is
the factor of the profile. -/
theorem effectiveQuality_eq_effectiveQuality_iff
    (sameProfile : other.profile = encoding.profile)
    (asked : encoding.quality = some c)
    (askedToo : other.quality = some d)
    (different : d ≠ c) :
    encoding.effectiveQuality = other.effectiveQuality ↔
      c = 0 ∧ d = encoding.profile.quality ∨ d = 0 ∧ c = encoding.profile.quality := by
  rw [effectiveQuality_of_asked asked, effectiveQuality_of_asked askedToo, sameProfile]
  have nonzero := encoding.profile.quality_ne_zero
  split <;> split <;> omega

/-- The factor that takes effect is written behind its option. -/
theorem operandOf_arguments (written : encoding.arguments? = some codec) :
    operandOf? "-crf" codec = some (toString encoding.effectiveQuality) := by
  obtain ⟨-, rfl⟩ := arguments?_eq_some_iff.mp written
  cases encoding.profile <;> rfl

/-- Encodings of one profile have the same arguments if the same factor takes effect and can be
written, and the same preset where presets are written. -/
theorem same_arguments_iff (sameProfile : other.profile = encoding.profile) :
    (∃ codec, encoding.arguments? = some codec ∧ other.arguments? = some codec) ↔
      (digitCount encoding.effectiveQuality ≤ digitLimit ∧
        encoding.effectiveQuality = other.effectiveQuality) ∧
        (encoding.profile = .h264 -> encoding.effectivePreset = other.effectivePreset) := by
  constructor
  · rintro ⟨codec, written, writtenToo⟩
    have sameQuality : encoding.effectiveQuality = other.effectiveQuality := int_eq_of_toString
      (Option.some.inj ((operandOf_arguments written).symm.trans (operandOf_arguments writtenToo)))
    obtain ⟨short, rfl⟩ := arguments?_eq_some_iff.mp written
    obtain ⟨-, same⟩ := arguments?_eq_some_iff.mp writtenToo
    refine ⟨⟨short, sameQuality⟩, ?_⟩
    intro presets
    rw [sameProfile, presets] at same
    simpa [Profile.arguments, sameQuality] using same.symm
  · rintro ⟨⟨short, sameQuality⟩, samePreset⟩
    refine ⟨_, arguments?_eq_some_iff.mpr ⟨short, rfl⟩, arguments?_eq_some_iff.mpr ?_⟩
    rw [← sameQuality, sameProfile]
    refine ⟨short, ?_⟩
    cases profile : encoding.profile with
    | h264 => rw [samePreset profile]
    | vp9 => rfl
    | copyAudio => rfl

end Encoding

/-! ## Requests -/

namespace Schema

variable {members : Members}
variable {encoding : Encoding}

/-- Members make an encoding exactly if they make its parts. -/
theorem encodingMembers_eq_accepted_iff :
    encodingMembers members = .accepted encoding ↔
      required "kind" profile members = .accepted encoding.profile ∧
        setting "crf" integer members = .accepted encoding.quality ∧
        setting "preset" text members = .accepted encoding.preset := by
  cases encoding
  simp [encodingMembers, Verdict.seq_eq_accepted_iff, Verdict.functor_map_eq_accepted_iff]

end Schema

/-- Asking for a checked format asks for a rate factor. -/
inductive FormatRequest.AsksFor (c : Int) : FormatRequest -> Prop where
  | ofProfile
      {profile : Profile}
      {arguments : Draft}
      {members : Schema.Members}
      (resolved : arguments.members = .ok members)
      (named : Schema.setting "crf" Schema.integer members = .accepted (some c)) :
      AsksFor c (.ofProfile profile arguments)
  | ofTable
      {document : Draft}
      {members : Schema.Members}
      (resolved : document.resolve = .ok (.table members))
      (named : Schema.setting "crf" Schema.integer members = .accepted (some c)) :
      AsksFor c (.checked document)
  | ofRecord
      {document : Draft}
      {encoding : Encoding}
      (resolved : document.resolve = .ok (.record (.encoding encoding)))
      (named : encoding.quality = some c) :
      AsksFor c (.checked document)

namespace FormatRequest

variable {c : Int}

/-- The maker of a profile passes on the factor that it is given. -/
theorem setting_makerMembers
    {profile : Profile}
    {arguments : Schema.Members}
    (named : Schema.setting "crf" Schema.integer arguments = .accepted (some c)) :
    Schema.setting "crf" Schema.integer (makerMembers profile arguments) = .accepted (some c) := by
  rw [Schema.setting_eq_accepted_iff] at named ⊢
  have passedOn : Value.member? "crf" (makerMembers profile arguments) =
      some ((Value.member? "crf" arguments).getD (.int profile.quality)) := rfl
  rw [passedOn, Option.getD_some]
  cases given : Value.member? "crf" arguments with
  | none =>
      rw [given] at named
      cases named
  | some value => rwa [given] at named

/-- A checked format has the rate factor that is asked for. -/
theorem AsksFor.quality_eq
    {request : FormatRequest}
    {format : Format}
    (asks : request.AsksFor c)
    (resolved : request.resolve = .ok format) :
    ∃ encoding, format = .checked encoding ∧ encoding.quality = some c := by
  -- Members that ask for the factor can only become an encoding with that factor.
  have ofMembers {members : Schema.Members} {encoding : Encoding}
      (named : Schema.setting "crf" Schema.integer members = .accepted (some c))
      (checked : encodingOf (.table members) = .ok encoding) : encoding.quality = some c := by
    have parts := Schema.encodingMembers_eq_accepted_iff.mp
      (Verdict.mapError_toExcept_eq_ok_iff.mp checked)
    exact Verdict.accepted.inj (parts.2.1.symm.trans named)
  cases asks with
  | ofProfile members named =>
      simp only [resolve, bind_eq_ok_iff] at resolved
      obtain ⟨arguments, sameMembers, _, _, encoding, checked, result⟩ := resolved
      obtain rfl := Except.ok.inj (members.symm.trans sameMembers)
      exact ⟨encoding, (Except.ok.inj result).symm, ofMembers (setting_makerMembers named) checked⟩
  | ofTable table named =>
      simp only [resolve, bind_eq_ok_iff] at resolved
      obtain ⟨document, sameDocument, encoding, checked, result⟩ := resolved
      obtain rfl := Except.ok.inj (table.symm.trans sameDocument)
      exact ⟨encoding, (Except.ok.inj result).symm, ofMembers named checked⟩
  | ofRecord record named =>
      simp only [resolve, bind_eq_ok_iff] at resolved
      obtain ⟨document, sameDocument, encoding, checked, result⟩ := resolved
      obtain rfl := Except.ok.inj (record.symm.trans sameDocument)
      obtain rfl := Verdict.accepted.inj (Verdict.mapError_toExcept_eq_ok_iff.mp checked)
      exact ⟨_, (Except.ok.inj result).symm, named⟩

end FormatRequest

/-! ## Commands -/

/-- The arguments of a checked format are those of its encoding. -/
theorem Format.checked_arguments_eq_ok_iff
    {encoding : Encoding}
    {arguments : List Argument} :
    (Format.checked encoding).arguments = .ok arguments ↔
      ∃ codec, encoding.arguments? = some codec ∧ codec.map .text = arguments := by
  rw [Format.arguments]
  cases encoding.arguments? <;> simp [bind, Except.bind, pure, Except.pure]

namespace Pipeline

/-- Every command for an encoding ends with the codec arguments of the encoding and the output. -/
theorem codec_suffix_of_build
    {world after : World}
    {id : PipelineId}
    {source : Source}
    {output : Argument}
    {format : Option Format}
    {tool : Value}
    {strict : Bool}
    {arguments : List Argument}
    {encoding : Encoding}
    (encoded : source.outputFormat format = some (.checked encoding))
    (built : (build id source output format tool strict).perform world = (.ok arguments, after)) :
    ∃ codec front, encoding.arguments? = some codec ∧
      arguments = front ++ codec.map .text ++ [output] := by
  rw [perform_build] at built
  dsimp only at built
  split at built
  · cases (Prod.mk.inj built).1
  · split at built
    · cases (Prod.mk.inj built).1
    · obtain ⟨parts, codec, _, codecOk, joined⟩ := assemble_eq_ok_iff.mp (Prod.mk.inj built).1
      rw [encoded] at codecOk
      obtain ⟨codecText, written, rfl⟩ := Format.checked_arguments_eq_ok_iff.mp codecOk
      exact ⟨codecText, _, written, joined.symm⟩

end Pipeline

namespace Encoding

/-- What becomes of the rate factor of an encoding. -/
structure WritesQuality (encoding : Encoding) (c : Int) : Prop where
  codec :
    (Format.checked encoding).arguments =
      (Failure.written encoding.arguments?).map fun codec => codec.map .text
  reaches :
    (∃ codec, encoding.arguments? = some codec ∧
      operandOf? "-crf" codec = some (toString c)) ↔ c ≠ 0 ∧ digitCount c ≤ digitLimit
  givesWay :
    c = 0 -> ∃ codec, encoding.arguments? = some codec ∧
      operandOf? "-crf" codec = some (toString encoding.profile.quality)
  tooLong : digitLimit < digitCount c -> encoding.arguments? = none
  commands :
    ∀ (world after : World) (id : PipelineId) (source : Source) (output : Argument)
      (format : Option Format) (tool : Value) (strict : Bool) (arguments : List Argument),
      source.outputFormat format = some (.checked encoding) ->
      (Pipeline.build id source output format tool strict).perform world =
        (.ok arguments, after) ->
      ∃ codec front, encoding.arguments? = some codec ∧
        arguments = front ++ codec.map .text ++ [output]
  others :
    ∀ (other : Encoding) (d : Int), other.profile = encoding.profile ->
      other.quality = some d -> d ≠ c ->
      ((∃ codec, encoding.arguments? = some codec ∧ other.arguments? = some codec) ↔
        (c = 0 ∧ d = encoding.profile.quality ∨ d = 0 ∧ c = encoding.profile.quality) ∧
          (encoding.profile = .h264 -> encoding.effectivePreset = other.effectivePreset))

section WritesQuality

variable {encoding : Encoding}
variable {c : Int}

/-- A factor that is asked for and is not zero is written if it is not too long. -/
theorem reaches_of_asked (asked : encoding.quality = some c) :
    (∃ codec, encoding.arguments? = some codec ∧
      operandOf? "-crf" codec = some (toString c)) ↔ c ≠ 0 ∧ digitCount c ≤ digitLimit := by
  constructor
  · rintro ⟨codec, written, operand⟩
    rw [operandOf_arguments written] at operand
    have effective := int_eq_of_toString (Option.some.inj operand)
    have short := (arguments?_eq_some_iff.mp written).1
    rw [effective] at short
    exact ⟨(effectiveQuality_eq_iff asked).mp effective, short⟩
  · rintro ⟨nonzero, short⟩
    have effective := (effectiveQuality_eq_iff asked).mpr nonzero
    have written := arguments?_eq_some_iff.mpr ⟨effective.symm ▸ short, rfl⟩
    exact ⟨_, written, by rw [operandOf_arguments written, effective]⟩

/-- In the place of zero the factor of the profile is written. -/
theorem givesWay_of_asked (asked : encoding.quality = some 0) :
    ∃ codec, encoding.arguments? = some codec ∧
      operandOf? "-crf" codec = some (toString encoding.profile.quality) := by
  have effective : encoding.effectiveQuality = encoding.profile.quality := by
    rw [effectiveQuality_of_asked asked, if_pos rfl]
  have written := arguments?_eq_some_iff.mpr
    ⟨effective.symm ▸ encoding.profile.short_quality, rfl⟩
  exact ⟨_, written, by rw [operandOf_arguments written, effective]⟩

/-- A factor of too many digits leaves no codec arguments. -/
theorem tooLong_of_asked
    (asked : encoding.quality = some c)
    (long : digitLimit < digitCount c) :
    encoding.arguments? = none := by
  have nonzero : c ≠ 0 := by
    rintro rfl
    exact absurd long (by decide)
  rw [Option.eq_none_iff_forall_ne_some]
  intro codec written
  have short := (arguments?_eq_some_iff.mp written).1
  rw [(effectiveQuality_eq_iff asked).mpr nonzero] at short
  exact absurd long (Nat.not_lt.mpr short)

/-- Encodings with different factors have the same arguments only where zero gives way to the
other factor. -/
theorem others_of_asked
    {other : Encoding}
    {d : Int}
    (asked : encoding.quality = some c)
    (sameProfile : other.profile = encoding.profile)
    (askedToo : other.quality = some d)
    (different : d ≠ c) :
    (∃ codec, encoding.arguments? = some codec ∧ other.arguments? = some codec) ↔
      (c = 0 ∧ d = encoding.profile.quality ∨ d = 0 ∧ c = encoding.profile.quality) ∧
        (encoding.profile = .h264 -> encoding.effectivePreset = other.effectivePreset) := by
  have sameQuality :=
    effectiveQuality_eq_effectiveQuality_iff sameProfile asked askedToo different
  have effective : c = 0 ∨ c = encoding.profile.quality ->
      encoding.effectiveQuality = encoding.profile.quality := by
    rw [effectiveQuality_of_asked asked]
    split <;> omega
  rw [same_arguments_iff sameProfile, ← sameQuality]
  refine and_congr_left' ⟨And.right, ?_⟩
  intro same
  refine ⟨?_, same⟩
  rw [effective ((sameQuality.mp same).imp And.left And.right)]
  exact encoding.profile.short_quality

end WritesQuality

theorem writesQuality_of_asked
    {encoding : Encoding}
    {c : Int}
    (asked : encoding.quality = some c) :
    encoding.WritesQuality c where
  codec := by
    rw [Format.arguments]
    cases encoding.arguments? <;> rfl
  reaches := reaches_of_asked asked
  givesWay := by
    rintro rfl
    exact givesWay_of_asked asked
  tooLong := tooLong_of_asked asked
  commands := fun _ _ _ _ _ _ _ _ _ => Pipeline.codec_suffix_of_build
  others := fun _ _ => others_of_asked asked

/-- A rate factor that an encoding has, or that a checked format is asked for with, reaches every
command exactly if it is not zero and has not too many digits. -/
theorem quality_reaches_command_unless_zero (c : Int) :
    (∀ encoding : Encoding, encoding.quality = some c -> encoding.WritesQuality c) ∧
      ∀ (request : FormatRequest) (format : Format), request.AsksFor c ->
        request.resolve = .ok format ->
        ∃ encoding, format = .checked encoding ∧ encoding.WritesQuality c := by
  refine ⟨fun _ => writesQuality_of_asked, ?_⟩
  intro request format asks resolved
  obtain ⟨encoding, checked, asked⟩ := asks.quality_eq resolved
  exact ⟨encoding, checked, writesQuality_of_asked asked⟩

/-- The request for the maker of a profile with a rate factor. -/
def requestOf (profile : Profile) (c : Int) : FormatRequest :=
  .ofProfile profile (.table [("crf", .plain (.int c))])

/-- The encoding that the maker of `h264` makes with a rate factor. -/
def usualWith (c : Int) : Encoding where
  profile := .h264
  quality := some c
  preset := some defaultPreset

theorem asksFor_requestOf (profile : Profile) (c : Int) : (requestOf profile c).AsksFor c :=
  .ofProfile rfl rfl

/-- A factor of 23 is asked for and written. -/
theorem quality_of_usual_reaches_command :
    (requestOf .h264 23).AsksFor 23 ∧
      (requestOf .h264 23).resolve = .ok (.checked (usualWith 23)) ∧
      ∃ codec, (usualWith 23).arguments? = some codec ∧
        operandOf? "-crf" codec = some "23" := by
  have resolved : (requestOf .h264 23).resolve = .ok (.checked (usualWith 23)) := rfl
  have asks := asksFor_requestOf .h264 23
  obtain ⟨encoding, checked, writes⟩ :=
    (quality_reaches_command_unless_zero 23).2 (requestOf .h264 23) _ asks resolved
  obtain rfl := Format.checked.inj checked
  exact ⟨asks, resolved, writes.reaches.mpr ⟨by decide, by decide⟩⟩

/-- A factor of zero is asked for, but the one of the profile is written. -/
theorem quality_zero_not_in_command :
    (requestOf .h264 0).resolve = .ok (.checked (usualWith 0)) ∧
      (requestOf .h264 18).resolve = .ok (.checked (usualWith 18)) ∧
      (usualWith 0).quality = some 0 ∧
      ∃ codec, (usualWith 0).arguments? = some codec ∧
        operandOf? "-crf" codec ≠ some (toString (0 : Int)) ∧
        (usualWith 18).arguments? = some codec :=
  ⟨rfl, rfl, rfl, _, rfl, by decide, rfl⟩

end Encoding
end Filtergraph
