import Filtergraph.Proofs.World.Probing
import Mathlib.Logic.Relation

/-!
# Video streams of probed files

Where a description is laid out as the probing tool lays it out, what is known about a file is what
the first stream that carries video tells, and the duration of the container where that stream lacks
one.  No other stream has an effect: others may come and go, and change places, as long as the first
that carries video stays the first.
-/

namespace Filtergraph

open Schema (Members)
open Description (carriesVideo)

/-! ## Members of streams -/

/-- The integer that a member is, if it is one. -/
def wholeNumber? (name : String) (stream : Members) : Option Int :=
  match Value.member? name stream with
  | some (.int n) => some n
  | _ => none

/-- The duration that a stream or a container tells in words, if it does. -/
def writtenSeconds? (members : Members) : Option Double :=
  match Value.member? "duration" members with
  | some (.text s) => Double.readLenient? s
  | _ => none

/-- A member is absent, null or an integer. -/
def HasWholeNumber (name : String) (stream : Members) : Prop :=
  ∀ value, Value.member? name stream = some value -> value = .null ∨ ∃ n, value = .int n

/-- A duration is absent, null or the text of a number. -/
def HasSeconds (members : Members) : Prop :=
  ∀ value, Value.member? "duration" members = some value ->
    value = .null ∨ ∃ s x, value = .text s ∧ Double.readLenient? s = some x

/-- The dimensions and the duration of a stream are numbers where they are given. -/
structure WellTyped (stream : Members) : Prop where
  width : HasWholeNumber "width" stream
  height : HasWholeNumber "height" stream
  duration : HasSeconds stream

/-- A number that may be absent or null is accepted as it is. -/
theorem optional_integer_of_hasWholeNumber
    {name : String}
    {stream : Members}
    (has : HasWholeNumber name stream) :
    Schema.optional Schema.integer ((Value.member? name stream).getD .null) =
      .accepted (wholeNumber? name stream) := by
  rw [wholeNumber?]
  cases given : Value.member? name stream with
  | none => rfl
  | some value =>
      obtain rfl | ⟨n, rfl⟩ := has value given
      · rfl
      · rfl

/-- No number is written as nothing at all. -/
theorem ne_empty_of_readLenient
    {s : String}
    {x : Double}
    (read : Double.readLenient? s = some x) :
    s ≠ "" := by
  rintro rfl
  cases read

/-- A duration is read as it is written. -/
theorem seconds_of_hasSeconds
    {members : Members}
    (has : HasSeconds members) :
    Description.Seconds ((Value.member? "duration" members).getD .null)
      (writtenSeconds? members) := by
  rw [writtenSeconds?]
  cases given : Value.member? "duration" members with
  | none => exact .none rfl
  | some value =>
      obtain rfl | ⟨s, x, rfl, read⟩ := has value given
      · exact .none rfl
      · dsimp only
        rw [read]
        exact .written (ne_empty_of_readLenient read) read

/-! ## The first video -/

/-- A description is laid out as a list of streams and a container, where one that is absent is as
good as one that is empty. -/
structure LaidOut (document : Members) (streams : List Members) (container : Members) : Prop where
  streams : (Value.member? "streams" document).getD (.list []) = .list (streams.map .table)
  container : (Value.member? "format" document).getD (.table []) = .table container

/-- What the first stream that carries video tells about a file.  A duration that it lacks is taken
from the container. -/
def Asset.ofFirstVideo (path : String) (streams : List Members) (container : Members) : Asset :=
  let video := streams.find? carriesVideo
  { path
    width := video.bind (wholeNumber? "width")
    height := video.bind (wholeNumber? "height")
    duration := video.bind writtenSeconds? <|> writtenSeconds? container }

/-- Where no stream carries video, one without members does as well. -/
theorem Asset.ofFirstVideo_eq (path : String) (streams : List Members) (container : Members) :
    ofFirstVideo path streams container =
      let video := (streams.find? carriesVideo).getD []
      { path
        width := wholeNumber? "width" video
        height := wholeNumber? "height" video
        duration := writtenSeconds? video <|> writtenSeconds? container } := by
  rw [ofFirstVideo]
  cases streams.find? carriesVideo <;> rfl

/-- The first stream that carries video is found among tables. -/
theorem firstVideo_of_tables (streams : List Members) :
    Description.FirstVideo (streams.map .table) ((streams.find? carriesVideo).getD []) := by
  induction streams with
  | nil => exact .absent
  | cons stream rest inductionHypothesis =>
      cases carries : carriesVideo stream with
      | true =>
          rw [List.find?_cons_of_pos carries]
          exact .here carries
      | false =>
          rw [List.find?_cons_of_neg (Bool.eq_false_iff.mp carries)]
          exact .behind carries inductionHypothesis

/-- The duration of a video that tells one, or else that of the container. -/
theorem exists_length
    {document video container : Members}
    (described : (Value.member? "format" document).getD (.table []) = .table container)
    (videoHas : HasSeconds video)
    (containerHas : HasSeconds container) :
    ∃ length, Description.Length document video length ∧
      Description.Seconds length (writtenSeconds? video <|> writtenSeconds? container) := by
  have own := seconds_of_hasSeconds videoHas
  cases written : writtenSeconds? video with
  | none =>
      rw [written] at own
      exact ⟨_, .ofContainer own.isTrue_eq described, seconds_of_hasSeconds containerHas⟩
  | some x =>
      rw [written] at own
      exact ⟨_, .own own.isTrue_eq, own⟩

/-- A description that is laid out well tells what the first video and the container tell. -/
theorem LaidOut.describes
    {document container : Members}
    {streams : List Members}
    (laidOut : LaidOut document streams container)
    (wellTyped : ∀ video, streams.find? carriesVideo = some video -> WellTyped video)
    (hasSeconds : HasSeconds container)
    (path : String) :
    Description.Describes (.table document) path (.ofFirstVideo path streams container) := by
  have typed : WellTyped ((streams.find? carriesVideo).getD []) := by
    cases found : streams.find? carriesVideo with
    | none => exact ⟨nofun, nofun, nofun⟩
    | some video => exact wellTyped video found
  have listed : ((Value.member? "streams" document).getD (.list [])).items? =
      some (streams.map .table) := by
    rw [laidOut.streams]
    rfl
  obtain ⟨length, lasts, seconds⟩ := exists_length laidOut.container typed.duration hasSeconds
  rw [Asset.ofFirstVideo_eq]
  exact ⟨rfl, document, streams.map .table, _, length, rfl, listed, firstVideo_of_tables streams,
    lasts, optional_integer_of_hasWholeNumber typed.width,
    optional_integer_of_hasWholeNumber typed.height, seconds⟩

/-! ## Other streams -/

/-- A change that leaves the first stream that carries video: a stream that carries none comes or
goes, streams change places but those that carry video stay in order, or anything behind a stream
that carries video becomes something else. -/
inductive StreamEdit : List Members -> List Members -> Prop where
  | insert
      {front back : List Members}
      {stream : Members}
      (other : carriesVideo stream = false) :
      StreamEdit (front ++ back) (front ++ stream :: back)
  | delete
      {front back : List Members}
      {stream : Members}
      (other : carriesVideo stream = false) :
      StreamEdit (front ++ stream :: back) (front ++ back)
  | reorder
      {before after : List Members}
      (permuted : before.Perm after)
      (sameVideos : after.filter carriesVideo = before.filter carriesVideo) :
      StreamEdit before after
  | behind
      {front back changed : List Members}
      {video : Members}
      (carries : carriesVideo video = true) :
      StreamEdit (front ++ video :: back) (front ++ video :: changed)

variable {before after : List Members}

/-- After one change the first video is the same. -/
theorem StreamEdit.find_eq (edit : StreamEdit before after) :
    after.find? carriesVideo = before.find? carriesVideo := by
  cases edit with
  | insert other =>
      rw [List.find?_append, List.find?_append, List.find?_cons_of_neg (Bool.eq_false_iff.mp other)]
  | delete other =>
      rw [List.find?_append, List.find?_append, List.find?_cons_of_neg (Bool.eq_false_iff.mp other)]
  | reorder permuted sameVideos => rw [← List.head?_filter, ← List.head?_filter, sameVideos]
  | behind carries =>
      rw [List.find?_append, List.find?_append, List.find?_cons_of_pos carries,
        List.find?_cons_of_pos carries]

/-- After any number of changes the first video is the same. -/
theorem find_eq_of_edits (edits : Relation.ReflTransGen StreamEdit before after) :
    after.find? carriesVideo = before.find? carriesVideo := by
  induction edits with
  | refl => rfl
  | tail _ edit inductionHypothesis => rw [edit.find_eq, inductionHypothesis]

namespace Context

open World

/-- The next call succeeds and prints a table. -/
def Prints (world : World) (document : Members) : Prop :=
  ∃ status output errors, world.nextOutcome = .finished status (some output) errors ∧
    isSuccess status = true ∧ Json.read world.depthLimit output = .ok (.table document)

/-- A description that is laid out well makes a file known. -/
theorem probe_laidOut
    {world : World}
    {document container : Members}
    {streams : List Members}
    (prints : Prints world document)
    (laidOut : LaidOut document streams container)
    (wellTyped : ∀ video, streams.find? carriesVideo = some video -> WellTyped video)
    (hasSeconds : HasSeconds container)
    (id : ContextId)
    (path : String) :
    ((probe id (.text path)).perform world).1 = .ok (.ofFirstVideo path streams container) := by
  obtain ⟨status, output, errors, outcome, success, read⟩ := prints
  rw [probe_eq_ok_iff, outcome]
  exact .described success read (laidOut.describes wellTyped hasSeconds path)

/-- What is known about a file is what its first video tells, and changes of other streams have no
effect on it. -/
theorem probe_tells_first_video
    {world : World}
    {document container : Members}
    {streams : List Members}
    (prints : Prints world document)
    (laidOut : LaidOut document streams container)
    (wellTyped : ∀ video, streams.find? carriesVideo = some video -> WellTyped video)
    (hasSeconds : HasSeconds container)
    (id : ContextId)
    (path : String) :
    ((probe id (.text path)).perform world).1 = .ok (.ofFirstVideo path streams container) ∧
      ∀ (later : World) (laterId : ContextId) (changed : Members) (changedStreams : List Members),
        Prints later changed -> LaidOut changed changedStreams container ->
        Relation.ReflTransGen StreamEdit streams changedStreams ->
        ((probe laterId (.text path)).perform later).1 =
          ((probe id (.text path)).perform world).1 := by
  have known := probe_laidOut prints laidOut wellTyped hasSeconds id path
  refine ⟨known, ?_⟩
  intro later laterId changed changedStreams printsToo laidOutToo edits
  have sameVideo := find_eq_of_edits edits
  have typed : ∀ video, changedStreams.find? carriesVideo = some video -> WellTyped video := by
    rw [sameVideo]
    exact wellTyped
  rw [known, probe_laidOut printsToo laidOutToo typed hasSeconds laterId path,
    Asset.ofFirstVideo, sameVideo, Asset.ofFirstVideo]

/-- A world in which the probing tool prints a text. -/
def printingWorld (output : String) : World where
  script := [.succeeded (some output) (some "")]

/-- A stream that carries video and tells its width. -/
def wideStream : Members := [("codec_type", .text "video"), ("width", .int 640)]

/-- A container that tells its duration. -/
def timedContainer : Members := [("duration", .text "2")]

/-- What is read from a list of streams and that container. -/
def documentOf (streams : List Members) : Members :=
  [("streams", .list (streams.map .table)), ("format", .table timedContainer)]

/-- The description of that stream alone. -/
def wideText : String :=
  "\x7b\"streams\":[\x7b\"codec_type\":\"video\",\"width\":640\x7d]," ++
    "\"format\":\x7b\"duration\":\"2\"\x7d\x7d"

/-- The same behind a stream of which nothing is told. -/
def mutedText : String :=
  "\x7b\"streams\":[\x7b\x7d,\x7b\"codec_type\":\"video\",\"width\":640\x7d]," ++
    "\"format\":\x7b\"duration\":\"2\"\x7d\x7d"

section Reading

open Json Json.Machine

theorem scan_width (rest : List Char) :
    scan '6' ('4' :: '0' :: '\x7d' :: rest) = (.scalar (.int 640), 2) := rfl

theorem read_wideText : Json.read 1000 wideText = .ok (.table (documentOf [wideStream])) := by
  unfold wideText
  simp [documentOf, wideStream, timedContainer, Json.read, feed, isSeparator, ↓ scan_width, scan,
    readText, Machine.step, takeValue, enter, leave, supply, put, result, bind, Except.bind]

theorem read_mutedText : Json.read 1000 mutedText = .ok (.table (documentOf [[], wideStream])) := by
  unfold mutedText
  simp [documentOf, wideStream, timedContainer, Json.read, feed, isSeparator, ↓ scan_width, scan,
    readText, Machine.step, takeValue, enter, leave, supply, put, result, bind, Except.bind]

end Reading

theorem laidOut_documentOf (streams : List Members) :
    LaidOut (documentOf streams) streams timedContainer :=
  ⟨rfl, rfl⟩

theorem wellTyped_wideStream : WellTyped wideStream where
  width := by
    rintro value ⟨⟩
    exact .inr ⟨640, rfl⟩
  height := nofun
  duration := nofun

/-- The width of the video and the duration of the container are known, and still are when a stream
comes before the video. -/
theorem probe_tells_first_video_of_wideText :
    Prints (printingWorld wideText) (documentOf [wideStream]) ∧
      ((probe 0 (.text "a.mp4")).perform (printingWorld wideText)).1 =
        .ok ⟨"a.mp4", some 640, none, some (.finite false 4503599627370496 (-51))⟩ ∧
      ((probe 0 (.text "a.mp4")).perform (printingWorld mutedText)).1 =
        ((probe 0 (.text "a.mp4")).perform (printingWorld wideText)).1 := by
  have prints : Prints (printingWorld wideText) (documentOf [wideStream]) :=
    ⟨_, _, _, rfl, rfl, read_wideText⟩
  have printsToo : Prints (printingWorld mutedText) (documentOf [[], wideStream]) :=
    ⟨_, _, _, rfl, rfl, read_mutedText⟩
  have typed : ∀ video, [wideStream].find? carriesVideo = some video -> WellTyped video := by
    rintro video ⟨⟩
    exact wellTyped_wideStream
  have timed : HasSeconds timedContainer := by
    rintro value ⟨⟩
    exact .inr ⟨"2", .finite false 4503599627370496 (-51), rfl, rfl⟩
  obtain ⟨known, unchanged⟩ := probe_tells_first_video prints (laidOut_documentOf [wideStream])
    typed timed 0 "a.mp4"
  have edit : StreamEdit ([] ++ [wideStream]) ([] ++ [] :: [wideStream]) := .insert rfl
  exact ⟨prints, known, unchanged _ 0 _ _ printsToo (laidOut_documentOf _) (.single edit)⟩

end Context
end Filtergraph
