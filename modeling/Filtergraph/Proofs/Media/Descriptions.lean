import Filtergraph.Media.Description
import Filtergraph.Proofs.Order.Permutation
import Filtergraph.Proofs.Schema.Verdicts

/-!
# What descriptions tell

A description tells about a file exactly if it is a table, its streams up to the first that carries
video are tables, and the members that are looked at can be read.  What is absent or null stays
unknown, and so does a duration that does not count as true.
-/

namespace Filtergraph
namespace Description

open Schema (Members)

/-! ## Streams -/

/-- A stream carries video. -/
def carriesVideo (stream : Members) : Bool :=
  match Value.member? "codec_type" stream with
  | some (.text kind) => kind == "video"
  | _ => false

/-- The first stream that carries video, behind others that do not, or no members if there is none.
Nothing is known about the streams behind it. -/
inductive FirstVideo : List Value -> Members -> Prop where
  | absent : FirstVideo [] []
  | here
      {stream : Members}
      {rest : List Value}
      (carries : carriesVideo stream = true) :
      FirstVideo (.table stream :: rest) stream
  | behind
      {stream found : Members}
      {rest : List Value}
      (other : carriesVideo stream = false)
      (further : FirstVideo rest found) :
      FirstVideo (.table stream :: rest) found

theorem get_eq_ok_iff
    {name : String}
    {value : Value}
    {found : Option Value} :
    get? name value = .ok found ↔
      ∃ members, value = .table members ∧ Value.member? name members = found := by
  cases value <;> simp [get?]

theorem items_eq_ok_iff
    {value : Value}
    {streams : List Value} :
    items value = .ok streams ↔ value.items? = some streams := by
  rw [items]
  cases value.items? <;> simp

/-- Only tables can be looked into. -/
theorem isVideo_eq_ok_iff
    {stream : Value}
    {carries : Bool} :
    isVideo stream = .ok carries ↔
      ∃ members, stream = .table members ∧ carriesVideo members = carries := by
  cases stream with
  | table members =>
      have looked : isVideo (.table members) = .ok (carriesVideo members) := by
        rw [carriesVideo]
        change (match Value.member? "codec_type" members with
          | some (.text kind) => Except.ok (kind == "video")
          | _ => Except.ok false) = _
        split <;> rfl
      simp [looked]
  | _ => simp [isVideo, get?, bind, Except.bind]

theorem firstVideo_eq_ok_iff
    {streams : List Value}
    {video : Value} :
    firstVideo streams = .ok video ↔ ∃ found, video = .table found ∧ FirstVideo streams found := by
  induction streams with
  | nil =>
      constructor
      · intro found
        exact ⟨[], (Except.ok.inj found).symm, .absent⟩
      · rintro ⟨_, rfl, ⟨⟩⟩
        rfl
  | cons stream rest inductionHypothesis =>
      rw [firstVideo, bind_eq_ok_iff]
      constructor
      · rintro ⟨carries, looked, found⟩
        obtain ⟨members, rfl, rfl⟩ := isVideo_eq_ok_iff.mp looked
        cases carries : carriesVideo members with
        | true =>
            rw [carries] at found
            exact ⟨members, (Except.ok.inj found).symm, .here carries⟩
        | false =>
            rw [carries] at found
            obtain ⟨later, rfl, further⟩ := inductionHypothesis.mp found
            exact ⟨later, rfl, .behind carries further⟩
      · rintro ⟨found, rfl, first⟩
        cases first with
        | here carries => exact ⟨true, isVideo_eq_ok_iff.mpr ⟨_, rfl, carries⟩, rfl⟩
        | behind other further =>
            exact ⟨false, isVideo_eq_ok_iff.mpr ⟨_, rfl, other⟩,
              inductionHypothesis.mpr ⟨_, rfl, further⟩⟩

/-! ## Durations -/

/-- A value is read as a duration; what does not count as true is none. -/
inductive Seconds : Value -> Option Double -> Prop where
  | none
      {value : Value}
      (untrue : value.isTrue = false) :
      Seconds value none
  | written
      {s : String}
      {x : Double}
      (given : s ≠ "")
      (read : Double.readLenient? s = some x) :
      Seconds (.text s) (some x)
  | whole
      {n : Int}
      {x : Double}
      (nonzero : n ≠ 0)
      (inRange : Double.ofInt? n = some x) :
      Seconds (.int n) (some x)
  | exact
      {x : Double}
      (nonzero : x.isZero = false) :
      Seconds (.double x) (some x)
  | truth : Seconds (.bool true) (some (.ofRatio false 1 1))

/-- Exactly what counts as true is a duration. -/
theorem Seconds.isTrue_eq
    {value : Value}
    {duration : Option Double}
    (readable : Seconds value duration) :
    value.isTrue = duration.isSome := by
  cases readable with
  | none untrue => exact untrue
  | written given => exact bne_iff_ne.mpr given
  | whole nonzero => exact bne_iff_ne.mpr nonzero
  | exact nonzero => simp [Value.isTrue, nonzero]
  | truth => rfl

/-- What does not count as true is no duration. -/
theorem seconds_of_untrue
    {value : Value}
    (untrue : value.isTrue = false) :
    seconds value = .ok .null := by
  cases value <;> simp_all [seconds, Value.isTrue]

theorem seconds_eq_ok_iff
    {value length : Value} :
    seconds value = .ok length ↔
      ∃ duration, Seconds value duration ∧ length = .ofOption .double duration := by
  constructor
  · intro read
    cases counts : value.isTrue with
    | false =>
        rw [seconds_of_untrue counts] at read
        exact ⟨none, .none counts, (Except.ok.inj read).symm⟩
    | true =>
        cases value with
        | text s =>
            have given : s ≠ "" := bne_iff_ne.mp counts
            rw [seconds, if_neg given] at read
            split at read
            · next x readable => exact ⟨some x, .written given readable, (Except.ok.inj read).symm⟩
            · cases read
        | int n =>
            have nonzero : n ≠ 0 := bne_iff_ne.mp counts
            rw [seconds, if_neg nonzero] at read
            split at read
            · next x inRange => exact ⟨some x, .whole nonzero inRange, (Except.ok.inj read).symm⟩
            · cases read
        | double x =>
            have nonzero : x.isZero = false := by simpa [Value.isTrue] using counts
            rw [seconds, nonzero] at read
            exact ⟨some x, .exact nonzero, (Except.ok.inj read).symm⟩
        | bool b =>
            obtain rfl : b = true := counts
            exact ⟨_, .truth, (Except.ok.inj read).symm⟩
        | _ => simp [seconds, counts] at read
  · rintro ⟨duration, readable, rfl⟩
    cases readable with
    | none untrue => exact seconds_of_untrue untrue
    | written given read => simp [seconds, given, read, Value.ofOption]
    | whole nonzero inRange => simp [seconds, nonzero, inRange, Value.ofOption]
    | exact nonzero => simp [seconds, nonzero, Value.ofOption]
    | truth => rfl

/-- The value for the duration of a file: that of the stream, unless it does not count as true, or
else that of the container. -/
inductive Length (document video : Members) : Value -> Prop where
  | own
      (counts : ((Value.member? "duration" video).getD .null).isTrue = true) :
      Length document video ((Value.member? "duration" video).getD .null)
  | ofContainer
      {container : Members}
      (untrue : ((Value.member? "duration" video).getD .null).isTrue = false)
      (described : (Value.member? "format" document).getD (.table []) = .table container) :
      Length document video ((Value.member? "duration" container).getD .null)

theorem duration_eq_ok_iff
    {document video : Members}
    {length : Value} :
    duration (.table document) (.table video) = .ok length ↔ Length document video length := by
  have looked : duration (.table document) (.table video) =
      let own := (Value.member? "duration" video).getD .null
      if own.isTrue then .ok own
      else
        get? "duration" ((Value.member? "format" document).getD (.table [])) >>= fun found =>
          .ok (found.getD .null) := by
    simp only [duration, get?]
    rfl
  rw [looked]
  dsimp only
  constructor
  · intro found
    split at found
    · next counts =>
      obtain rfl := Except.ok.inj found
      exact .own counts
    · next untrue =>
      obtain ⟨_, got, same⟩ := bind_eq_ok_iff.mp found
      obtain ⟨container, described, rfl⟩ := get_eq_ok_iff.mp got
      obtain rfl := Except.ok.inj same
      exact .ofContainer (Bool.eq_false_iff.mpr untrue) described
  · intro length
    cases length with
    | own counts => rw [if_pos counts]
    | ofContainer untrue described =>
        rw [if_neg (Bool.eq_false_iff.mp untrue), described]
        rfl

/-! ## Files -/

/-- What a table tells about a file. -/
structure Tells (document : Members) (asset : Asset) (streams : List Value) (video : Members)
    (length : Value) : Prop where
  listed : ((Value.member? "streams" document).getD (.list [])).items? = some streams
  first : FirstVideo streams video
  lasts : Length document video length
  width :
    Schema.optional Schema.integer ((Value.member? "width" video).getD .null) =
      .accepted asset.width
  height :
    Schema.optional Schema.integer ((Value.member? "height" video).getD .null) =
      .accepted asset.height
  duration : Seconds length asset.duration

/-- The file of a path is all that a description tells. -/
def Describes (description : Value) (path : String) (asset : Asset) : Prop :=
  asset.path = path ∧
    ∃ document streams video length, description = .table document ∧
      Tells document asset streams video length

/-- A file is known by its path and the other members exactly if these have the right types. -/
theorem assetOf_eq_ok_iff
    {path : String}
    {members : Members}
    {asset : Asset} :
    assetOf (.text path) members = .ok asset ↔
      asset.path = path ∧
        Schema.setting "width" Schema.integer members = .accepted asset.width ∧
        Schema.setting "height" Schema.integer members = .accepted asset.height ∧
        Schema.setting "duration" Schema.number members = .accepted asset.duration := by
  have parts : Schema.checkAsset (.table (("path", .text path) :: members)) =
      .accepted (Asset.mk path) <*> Schema.setting "width" Schema.integer members
        <*> Schema.setting "height" Schema.integer members
        <*> Schema.setting "duration" Schema.number members := rfl
  rw [assetOf, Verdict.mapError_toExcept_eq_ok_iff, parts]
  simp only [Verdict.seq_eq_accepted_iff, Verdict.accepted.injEq]
  constructor
  · rintro ⟨_, duration, ⟨_, height, ⟨_, width, rfl, widthRead, rfl⟩, heightRead, rfl⟩,
      durationRead, rfl⟩
    exact ⟨rfl, widthRead, heightRead, durationRead⟩
  · rintro ⟨rfl, widthRead, heightRead, durationRead⟩
    exact ⟨_, _, ⟨_, _, ⟨_, _, rfl, widthRead, rfl⟩, heightRead, rfl⟩, durationRead, rfl⟩

theorem members_eq_ok_iff
    {description : Value}
    {members : Members} :
    Description.members description = .ok members ↔
      ∃ document streams video length duration, description = .table document ∧
        ((Value.member? "streams" document).getD (.list [])).items? = some streams ∧
        FirstVideo streams video ∧ Length document video length ∧ Seconds length duration ∧
        members = [("width", (Value.member? "width" video).getD .null),
          ("height", (Value.member? "height" video).getD .null),
          ("duration", .ofOption .double duration)] := by
  simp only [Description.members, bind_eq_ok_iff, get_eq_ok_iff, items_eq_ok_iff,
    firstVideo_eq_ok_iff, seconds_eq_ok_iff]
  constructor
  · rintro ⟨_, ⟨document, rfl, rfl⟩, streams, listed, _, ⟨video, rfl, first⟩, length, lasts,
      _, ⟨_, same, rfl⟩, _, ⟨_, sameToo, rfl⟩, _, ⟨duration, readable, rfl⟩, joined⟩
    obtain rfl := Value.table.inj same
    obtain rfl := Value.table.inj sameToo
    exact ⟨document, streams, video, length, duration, rfl, listed, first,
      duration_eq_ok_iff.mp lasts, readable, (Except.ok.inj joined).symm⟩
  · rintro ⟨document, streams, video, length, duration, rfl, listed, first, lasts, readable, rfl⟩
    exact ⟨_, ⟨document, rfl, rfl⟩, streams, listed, _, ⟨video, rfl, first⟩, length,
      duration_eq_ok_iff.mpr lasts, _, ⟨video, rfl, rfl⟩, _, ⟨video, rfl, rfl⟩, _,
      ⟨duration, readable, rfl⟩, rfl⟩

/-- A file is known exactly if a description tells about it. -/
theorem toAsset_eq_ok_iff
    {path : String}
    {description : Value}
    {asset : Asset} :
    toAsset (.text path) description = .ok asset ↔ Describes description path asset := by
  have known (duration : Option Double) :
      Schema.optional Schema.number (.ofOption .double duration) = .accepted duration := by
    cases duration <;> rfl
  rw [toAsset, bind_eq_ok_iff]
  simp only [members_eq_ok_iff, assetOf_eq_ok_iff, Schema.setting_eq_accepted_iff]
  constructor
  · rintro ⟨_, ⟨document, streams, video, length, duration, rfl, listed, first, lasts, readable,
      rfl⟩, samePath, width, height, sameDuration⟩
    obtain rfl := Verdict.accepted.inj ((known duration).symm.trans sameDuration)
    exact ⟨samePath, document, streams, video, length, rfl, listed, first, lasts, width, height,
      readable⟩
  · rintro ⟨samePath, document, streams, video, length, rfl, tells⟩
    exact ⟨_, ⟨document, streams, video, length, asset.duration, rfl, tells.listed, tells.first,
      tells.lasts, tells.duration, rfl⟩, samePath, tells.width, tells.height, known asset.duration⟩

end Description
end Filtergraph
