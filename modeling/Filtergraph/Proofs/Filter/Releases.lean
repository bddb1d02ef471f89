import Mathlib.Data.List.ReduceOption
import Filtergraph.Proofs.Filter.Compilation
import Filtergraph.Proofs.Version.Comparison

/-!
# Filters and the release of the tool

A filter is outdated by a tool whose release is older than the oldest one it works with, and nothing
can be told where one of the two is no release number.  The check tells so in the order in which
filters are emitted, before anything is compiled; if it is strict it ends with the first filter that
is outdated.
-/

namespace Filtergraph

namespace Version

/-- All components can be read. -/
def Readable (s : String) : Prop :=
  ∀ run ∈ runs (dropMark (Text.trim Text.isBlank s.toList)), run.length ≤ digitLimit

instance (s : String) : Decidable (Readable s) :=
  inferInstanceAs (Decidable (∀ run ∈ runs _, run.length ≤ digitLimit))

theorem Readable.parse
    {s : String}
    (readable : Readable s) :
    ∃ release, Version.parse s = .ok release := by
  rw [Version.parse]
  split
  · exact ⟨none, rfl⟩
  · have read := mapM_readNumeral_eq_ok_iff.mpr ⟨readable, rfl⟩
    exact ⟨_, by rw [read]; rfl⟩

/-- The components of a release number that was read can be read. -/
theorem Readable.of_parse
    {s : String}
    {release : Version}
    (reads : Version.parse s = .ok (some release)) :
    Readable s := by
  obtain ⟨mark, components, rest, spells, short, -⟩ := parse_eq_some_iff.mp reads
  obtain ⟨sameRuns, -⟩ := exists_spells_iff.mp ⟨mark, rest, spells⟩
  rwa [Readable, sameRuns]

end Version

namespace Filter

variable {tool : String}
variable {strict : Bool}
variable {filter : Filter}
variable {filters : List Filter}

/-! ## One filter -/

/-- What is read of the release of the tool and of the oldest one that the filter works with; none
is read of a text that is no release number. -/
def Reads (tool : String) (filter : Filter) (found oldest : Option Version) : Prop :=
  ∃ required, filter.minimum = .text required ∧
    Version.parse tool = .ok found ∧ Version.parse required = .ok oldest

theorem compare_of_reads
    {found oldest : Option Version}
    (reads : Reads tool filter found oldest) :
    Version.compare (.text tool) filter.minimum =
      .ok (do
        let found ← found
        let oldest ← oldest
        return found.atLeast oldest) := by
  obtain ⟨required, minimum, readTool, readRequired⟩ := reads
  rw [minimum, Version.compare_of_parse readTool readRequired]

/-- The release of the tool is older than the oldest one that the filter works with. -/
def Outdated (tool : String) (filter : Filter) : Prop :=
  ∃ found oldest, Reads tool filter (some found) (some oldest) ∧ found < oldest

/-- One of the two is no release number. -/
def Incomparable (tool : String) (filter : Filter) : Prop :=
  ∃ found oldest, Reads tool filter found oldest ∧ (found = none ∨ oldest = none)

/-- The release of the tool is as recent as the oldest one that the filter works with. -/
def Supported (tool : String) (filter : Filter) : Prop :=
  ∃ found oldest, Reads tool filter (some found) (some oldest) ∧ ¬ found < oldest

/-- What the check notes on a filter: a warning if the tool is older, something of less weight if
that cannot be told, and nothing otherwise. -/
inductive Noted (tool : String) (filter : Filter) : Option Note -> Prop
  | outdated (older : filter.Outdated tool) :
      Noted tool filter (some ⟨.warning, (filter.outdated (.text tool)).message⟩)
  | incomparable (unknown : filter.Incomparable tool) :
      Noted tool filter (some (filter.incomparableNote (.text tool)))
  | supported (recent : filter.Supported tool) : Noted tool filter none

/-- The oldest release that the filter works with is a text whose components can be read. -/
def RequiresReadable (filter : Filter) : Prop :=
  ∃ required, filter.minimum = .text required ∧ Version.Readable required

theorem exists_noted_of_reads
    {found oldest : Option Version}
    (reads : Reads tool filter found oldest) :
    ∃ note, Noted tool filter note := by
  match found, oldest with
  | none, oldest => exact ⟨_, .incomparable ⟨none, oldest, reads, .inl rfl⟩⟩
  | some found, none => exact ⟨_, .incomparable ⟨some found, none, reads, .inr rfl⟩⟩
  | some found, some oldest =>
      by_cases older : found < oldest
      · exact ⟨_, .outdated ⟨found, oldest, reads, older⟩⟩
      · exact ⟨_, .supported ⟨found, oldest, reads, older⟩⟩

theorem exists_noted
    (readable : Version.Readable tool)
    (requires : filter.RequiresReadable) :
    ∃ note, Noted tool filter note := by
  obtain ⟨required, minimum, readableToo⟩ := requires
  obtain ⟨found, readTool⟩ := readable.parse
  obtain ⟨oldest, readRequired⟩ := readableToo.parse
  exact exists_noted_of_reads ⟨required, minimum, readTool, readRequired⟩

theorem checkRelease_of_outdated
    (older : filter.Outdated tool)
    (strict : Bool) :
    checkRelease (.text tool) strict filter =
      if strict then .ofExcept (.error (filter.outdated (.text tool)))
      else .note .warning (filter.outdated (.text tool)).message := by
  obtain ⟨found, oldest, reads, less⟩ := older
  simp [checkRelease, compare_of_reads reads, Version.atLeast, less]

/-- A filter that does not end the check leaves what is noted on it. -/
theorem checkRelease_of_noted
    {note : Option Note}
    (noted : Noted tool filter note)
    (passes : strict = true -> ¬ filter.Outdated tool) :
    checkRelease (.text tool) strict filter = ⟨note.toList, .ok ()⟩ := by
  cases noted with
  | outdated older =>
      have lenient : strict = false := by
        cases strict with
        | false => rfl
        | true => exact absurd older (passes rfl)
      rw [checkRelease_of_outdated older, lenient]
      rfl
  | incomparable unknown =>
      obtain ⟨found, oldest, reads, missing⟩ := unknown
      have unknown : (do
          let found ← found
          let oldest ← oldest
          return found.atLeast oldest) = (none : Option Bool) := by
        rcases missing with rfl | rfl
        · rfl
        · cases found <;> rfl
      rw [checkRelease, compare_of_reads reads, unknown]
      rfl
  | supported recent =>
      obtain ⟨found, oldest, reads, notLess⟩ := recent
      have recent : found.atLeast oldest = true := by simp [Version.atLeast, notLess]
      simp only [checkRelease, compare_of_reads reads]
      simp [recent]
      rfl

theorem checkReleases_append
    (tool : Value)
    (strict : Bool)
    (filters others : List Filter) :
    checkReleases tool strict (filters ++ others) =
      (checkReleases tool strict filters).andThen fun _ => checkReleases tool strict others := by
  induction filters with
  | nil => rfl
  | cons filter rest inductionHypothesis =>
      rw [List.cons_append, checkReleases, checkReleases, Report.andThen_assoc]
      simp only [inductionHypothesis]

/-- Filters that do not end the check leave what is noted on them, in order. -/
theorem checkReleases_of_noted
    {notes : List (Option Note)}
    (noted : List.Forall₂ (Noted tool) filters notes)
    (passes : strict = true -> ∀ filter ∈ filters, ¬ filter.Outdated tool) :
    checkReleases (.text tool) strict filters = ⟨notes.reduceOption, .ok ()⟩ := by
  induction noted with
  | nil => rfl
  | @cons filter note rest others own _ inductionHypothesis =>
      have first := checkRelease_of_noted own fun isStrict => passes isStrict _ List.mem_cons_self
      have further := inductionHypothesis fun isStrict other member =>
        passes isStrict other (List.mem_cons_of_mem _ member)
      rw [checkReleases, first, further]
      cases note <;> simp [Report.andThen]

theorem exists_noted_each
    (readable : Version.Readable tool)
    (requires : ∀ filter ∈ filters, filter.RequiresReadable) :
    ∃ notes, List.Forall₂ (Noted tool) filters notes := by
  induction filters with
  | nil => exact ⟨[], .nil⟩
  | cons filter rest inductionHypothesis =>
      obtain ⟨note, noted⟩ := exists_noted readable (requires filter List.mem_cons_self)
      obtain ⟨notes, others⟩ := inductionHypothesis fun other member =>
        requires other (List.mem_cons_of_mem _ member)
      exact ⟨note :: notes, .cons noted others⟩

/-- The filter is outdated, and none in front of it is. -/
structure FirstOutdated
    (tool : String)
    (filters earlier : List Filter)
    (first : Filter) : Prop where
  split : ∃ later, filters = earlier ++ first :: later
  earlier : ∀ filter ∈ earlier, ¬ filter.Outdated tool
  first : first.Outdated tool

theorem exists_firstOutdated
    (older : ∃ filter ∈ filters, filter.Outdated tool) :
    ∃ earlier first, FirstOutdated tool filters earlier first := by
  induction filters with
  | nil => simp at older
  | cons filter rest inductionHypothesis =>
      by_cases own : filter.Outdated tool
      · exact ⟨[], filter, ⟨rest, rfl⟩, by simp, own⟩
      · have olderRest : ∃ other ∈ rest, other.Outdated tool := by simpa [own] using older
        obtain ⟨earlier, first, ⟨later, rfl⟩, supported, outdated⟩ := inductionHypothesis olderRest
        exact ⟨filter :: earlier, first, ⟨later, rfl⟩, by simpa [own] using supported, outdated⟩

/-- A strict check ends with the first filter that is outdated. -/
theorem checkReleases_of_firstOutdated
    {earlier : List Filter}
    {first : Filter}
    {notes : List (Option Note)}
    (outdated : FirstOutdated tool filters earlier first)
    (noted : List.Forall₂ (Noted tool) earlier notes) :
    checkReleases (.text tool) true filters =
      ⟨notes.reduceOption, .error (first.outdated (.text tool))⟩ := by
  obtain ⟨later, rfl⟩ := outdated.split
  rw [checkReleases_append, checkReleases_of_noted noted fun _ => outdated.earlier, checkReleases,
    checkRelease_of_outdated outdated.first]
  simp [Report.andThen, Report.ofExcept]

/-- Filters that are not outdated leave no warnings. -/
theorem level_of_noted
    {notes : List (Option Note)}
    (noted : List.Forall₂ (Noted tool) filters notes)
    (supported : ∀ filter ∈ filters, ¬ filter.Outdated tool) :
    ∀ note ∈ notes.reduceOption, note.level = .debug := by
  induction noted with
  | nil => simp
  | @cons filter note rest others own _ inductionHypothesis =>
      have further := inductionHypothesis fun other member =>
        supported other (List.mem_cons_of_mem _ member)
      cases own with
      | outdated older => exact absurd older (supported filter List.mem_cons_self)
      | incomparable unknown => simpa [incomparableNote] using further
      | supported recent => simpa using further

/-! ## What a check depends on -/

/-- Two filters have the same name, oldest release and priority, whatever they contribute. -/
structure SameClaims (filter other : Filter) : Prop where
  name : other.name = filter.name
  minimum : other.minimum = filter.minimum
  priority : other.priority = filter.priority

theorem SameClaims.checkRelease_eq
    {other : Filter}
    (same : SameClaims filter other)
    (tool : Value)
    (strict : Bool) :
    other.checkRelease tool strict = filter.checkRelease tool strict := by
  simp only [checkRelease, incomparableNote, outdated, same.name, same.minimum]

theorem SameClaims.integerPriority?_eq
    {other : Filter}
    (same : SameClaims filter other) :
    other.integerPriority? = filter.integerPriority? := by
  rw [integerPriority?, same.priority, integerPriority?]

theorem checkReleases_map_congr
    {filterOf filterToo : α -> Filter}
    {items : List α}
    (same : ∀ item ∈ items, SameClaims (filterOf item) (filterToo item))
    (tool : Value)
    (strict : Bool) :
    checkReleases tool strict (items.map filterToo) =
      checkReleases tool strict (items.map filterOf) := by
  induction items with
  | nil => rfl
  | cons item rest inductionHypothesis =>
      have others := inductionHypothesis fun other member =>
        same other (List.mem_cons_of_mem item member)
      rw [List.map_cons, List.map_cons, checkReleases, checkReleases, others,
        (same item List.mem_cons_self).checkRelease_eq]

/-- Filters with the same priorities are arranged alike. -/
theorem arrange_congr [BEq α]
    {filterOf filterToo : α -> Filter}
    {items : List α}
    (integral : ∀ item ∈ items, (filterOf item).HasIntegerPriority)
    (same : ∀ item ∈ items, SameClaims (filterOf item) (filterToo item)) :
    arrange filterToo items = arrange filterOf items := by
  have integralToo : ∀ item ∈ items, (filterToo item).HasIntegerPriority := by
    intro item member
    rw [HasIntegerPriority, (same item member).integerPriority?_eq]
    exact integral item member
  obtain ⟨arranged, arranges, stably⟩ := arrange_of_integerPriorities integral
  obtain ⟨arrangedToo, arrangesToo, stablyToo⟩ := arrange_of_integerPriorities integralToo
  have sameRank : ∀ item ∈ items, (filterOf item).rank = (filterToo item).rank := by
    intro item member
    rw [rank, rank, (same item member).integerPriority?_eq]
  rw [arranges, arrangesToo, stably.eq_of_ranks stablyToo sameRank]

/-! ## Compiling for a tool -/

section Compile

variable [BEq α]
variable {filterOf : α -> Filter}
variable {items arranged : List α}

theorem releaseCheck_text
    (given : tool ≠ "")
    (strict : Bool)
    (filters : List Filter) :
    releaseCheck (.text tool) strict filters = checkReleases (.text tool) strict filters := by
  simp [releaseCheck, Value.isTrue, given]

theorem compile_of_noted
    {notes : List (Option Note)}
    (given : tool ≠ "")
    (arranges : arrange filterOf items = .ok arranged)
    (noted : List.Forall₂ (Noted tool) (arranged.map filterOf) notes)
    (passes : strict = true -> ∀ filter ∈ arranged.map filterOf, ¬ filter.Outdated tool)
    (format : Option Format) :
    compile filterOf items format (.text tool) strict =
      (⟨notes.reduceOption, .ok ()⟩ : Report Unit).andThen fun _ =>
        compile filterOf items format .null false := by
  rw [compile_eq arranges, compile_eq arranges, releaseCheck_text given,
    checkReleases_of_noted noted passes]
  rfl

/-- Behind the first filter that is outdated nothing counts, and of all filters no more than their
names, oldest releases and priorities. -/
theorem compile_of_firstOutdated
    {filterToo : α -> Filter}
    {earlier : List Filter}
    {first : Filter}
    {notes : List (Option Note)}
    (given : tool ≠ "")
    (integral : ∀ item ∈ items, (filterOf item).HasIntegerPriority)
    (arranges : arrange filterOf items = .ok arranged)
    (outdated : FirstOutdated tool (arranged.map filterOf) earlier first)
    (noted : List.Forall₂ (Noted tool) earlier notes)
    (same : ∀ item ∈ items, SameClaims (filterOf item) (filterToo item))
    (format : Option Format) :
    compile filterToo items format (.text tool) true =
      ⟨notes.reduceOption,
        .error (.toolTooOld first.name.plain first.minimum.characters tool)⟩ := by
  have arrangesToo : arrange filterToo items = .ok arranged :=
    (arrange_congr integral same).trans arranges
  have sameArranged : ∀ item ∈ arranged, SameClaims (filterOf item) (filterToo item) :=
    fun item member => same item ((arrange_perm arranges).mem_iff.mp member)
  rw [compile_eq arrangesToo, releaseCheck_text given, checkReleases_map_congr sameArranged,
    checkReleases_of_firstOutdated outdated noted]
  rfl

end Compile

/-- For a tool whose release is given, filters with integers for priorities and texts for their
oldest releases are checked in their stable arrangement.  A lenient check leaves one note for each
filter that is not known to be supported, and then all is as without a check.  A strict check ends
with the first filter that is outdated, without a warning and whatever the filters contribute; if
none is outdated it is the same as a lenient one.  So a tool that is too old is a failure of a
strict check exactly if some filter is outdated, and never one of a lenient check, unless what a
filter does by itself fails that way. -/
theorem compile_checks_releases [BEq α]
    (filterOf : α -> Filter)
    (items : List α)
    (tool : String)
    (given : tool ≠ "")
    (readable : Version.Readable tool)
    (integral : ∀ item ∈ items, (filterOf item).HasIntegerPriority)
    (requires : ∀ item ∈ items, (filterOf item).RequiresReadable) :
    ∃ arranged, StablyArranges (fun item => (filterOf item).rank) items arranged ∧
      ∀ format,
        let inOrder := arranged.map filterOf
        let unchecked := compile filterOf items format .null false
        let lenient := compile filterOf items format (.text tool) false
        let strict := compile filterOf items format (.text tool) true
        (unchecked.notes = [] ∧
          ∀ failure, unchecked.outcome = .error failure ↔
            FirstFailure (fun filter => filter.fragment format) inOrder failure) ∧
        (∃ notes, List.Forall₂ (Noted tool) inOrder notes ∧
          lenient = (⟨notes.reduceOption, .ok ()⟩ : Report Unit).andThen fun _ => unchecked) ∧
        ((∃ item ∈ items, (filterOf item).Outdated tool) ->
          ∃ earlier first notes, FirstOutdated tool inOrder earlier first ∧
            List.Forall₂ (Noted tool) earlier notes ∧
            strict = ⟨notes.reduceOption,
              .error (.toolTooOld first.name.plain first.minimum.characters tool)⟩ ∧
            (∀ note ∈ strict.notes, note.level = .debug) ∧
            ∀ filterToo formatToo,
              (∀ item ∈ items, SameClaims (filterOf item) (filterToo item)) ->
                compile filterToo items formatToo (.text tool) true = strict) ∧
        ((∀ item ∈ items, ¬ (filterOf item).Outdated tool) -> strict = lenient) ∧
        ((∃ name required found, strict.outcome = .error (.toolTooOld name required found)) ↔
          (∃ item ∈ items, (filterOf item).Outdated tool) ∨
            ∃ name required found, unchecked.outcome = .error (.toolTooOld name required found)) ∧
        ∀ name required found, unchecked.outcome = .error (.toolTooOld name required found) ->
          ∃ item ∈ items,
            (filterOf item).fragment format = .error (.toolTooOld name required found) := by
  obtain ⟨arranged, arranges, stably⟩ := arrange_of_integerPriorities integral
  have requiresEach : ∀ filter ∈ arranged.map filterOf, filter.RequiresReadable := by
    intro filter member
    obtain ⟨item, there, rfl⟩ := List.mem_map.mp member
    exact requires item (stably.perm.mem_iff.mp there)
  have outdated_iff : (∃ filter ∈ arranged.map filterOf, filter.Outdated tool) ↔
      ∃ item ∈ items, (filterOf item).Outdated tool := by
    simp only [List.mem_map, exists_exists_and_eq_and, stably.perm.mem_iff]
  obtain ⟨notes, noted⟩ := exists_noted_each readable requiresEach
  refine ⟨arranged, stably, ?_⟩
  intro format inOrder unchecked lenient strict
  have uncheckedEq : unchecked =
      .ofExcept (gather (fun filter => filter.fragment format) inOrder) :=
    compile_eq arranges format .null false
  have lenientEq : lenient =
      (⟨notes.reduceOption, .ok ()⟩ : Report Unit).andThen fun _ => unchecked :=
    compile_of_noted given arranges noted (by simp) format
  have strictEq (supported : ¬ ∃ item ∈ items, (filterOf item).Outdated tool) :
      strict = lenient := by
    rw [lenientEq]
    refine compile_of_noted given arranges noted ?_ format
    intro _ filter member older
    exact supported (outdated_iff.mp ⟨filter, member, older⟩)
  have endsWith (older : ∃ item ∈ items, (filterOf item).Outdated tool) :
      ∃ earlier first notes, FirstOutdated tool inOrder earlier first ∧
        List.Forall₂ (Noted tool) earlier notes := by
    obtain ⟨earlier, first, outdated⟩ := exists_firstOutdated (outdated_iff.mpr older)
    obtain ⟨later, split⟩ := outdated.split
    have requiresEarlier : ∀ filter ∈ earlier, filter.RequiresReadable :=
      fun filter member => requiresEach filter (split ▸ List.mem_append_left _ member)
    obtain ⟨notesEarlier, notedEarlier⟩ := exists_noted_each readable requiresEarlier
    exact ⟨earlier, first, notesEarlier, outdated, notedEarlier⟩
  refine ⟨⟨?_, ?_⟩, ⟨notes, noted, lenientEq⟩, ?_, ?_, ?_, ?_⟩
  · rw [uncheckedEq]
    rfl
  · intro failure
    rw [uncheckedEq]
    exact gather_eq_error_iff
  · intro older
    obtain ⟨earlier, first, notesEarlier, outdated, notedEarlier⟩ := endsWith older
    have ends : strict = _ := compile_of_firstOutdated given integral arranges outdated notedEarlier
      (fun _ _ => ⟨rfl, rfl, rfl⟩) format
    refine ⟨earlier, first, notesEarlier, outdated, notedEarlier, ends, ?_, ?_⟩
    · rw [ends]
      exact level_of_noted notedEarlier outdated.earlier
    · intro filterToo formatToo same
      rw [ends]
      exact compile_of_firstOutdated given integral arranges outdated notedEarlier same formatToo
  · intro supported
    exact strictEq (by simpa using supported)
  · by_cases older : ∃ item ∈ items, (filterOf item).Outdated tool
    · obtain ⟨earlier, first, notesEarlier, outdated, notedEarlier⟩ := endsWith older
      have ends : strict = _ := compile_of_firstOutdated given integral arranges outdated
        notedEarlier (fun _ _ => ⟨rfl, rfl, rfl⟩) format
      exact iff_of_true ⟨_, _, _, congrArg Report.outcome ends⟩ (.inl older)
    · rw [strictEq older, lenientEq, Report.andThen_outcome]
      exact (or_iff_right older).symm
  · intro name required found ownFailure
    rw [uncheckedEq] at ownFailure
    obtain ⟨filter, member, fails⟩ := (gather_eq_error_iff.mp ownFailure).exists_fails
    obtain ⟨item, there, rfl⟩ := List.mem_map.mp member
    refine ⟨item, stably.perm.mem_iff.mp there, ?_⟩
    generalize (filterOf item).fragment format = contribution at fails
    cases fails
    rfl

/-- The filter that tags commands with a name and works from a release on. -/
def requiringTag (settings : String × Int × String) : Filter :=
  ({ name := .text settings.1 } : Literal).toFilter
    { priority := .int settings.2.1, minimum := .text settings.2.2 }

/-- Both filters are outdated, and the one that is emitted first counts, though it was inserted
last. -/
theorem compile_checks_outdated_tags :
    "4.4" ≠ "" ∧ Version.Readable "4.4" ∧
      (∀ item ∈ [("new", 2, "5.0"), ("newer", 1, "4.4.1")],
        (requiringTag item).HasIntegerPriority) ∧
      (∀ item ∈ [("new", 2, "5.0"), ("newer", 1, "4.4.1")],
        (requiringTag item).RequiresReadable) ∧
      compile requiringTag [("new", 2, "5.0"), ("newer", 1, "4.4.1")] none (.text "4.4") true =
        ⟨[], .error (.toolTooOld "newer" "4.4.1" "4.4")⟩ := by
  have ranks (settings : String × Int × String) :
      (requiringTag settings).HasIntegerPriority ∧ (requiringTag settings).rank = settings.2.1 :=
    rank_of_priority rfl
  have integral : ∀ item ∈ [("new", 2, "5.0"), ("newer", 1, "4.4.1")],
      (requiringTag item).HasIntegerPriority := fun item _ => (ranks item).1
  have requires : ∀ item ∈ [("new", 2, "5.0"), ("newer", 1, "4.4.1")],
      (requiringTag item).RequiresReadable := by
    have readable : ∀ item ∈ [("new", (2 : Int), "5.0"), ("newer", 1, "4.4.1")],
        Version.Readable item.2.2 := by decide
    exact fun item member => ⟨item.2.2, rfl, readable item member⟩
  have newer : (requiringTag ("newer", 1, "4.4.1")).Outdated "4.4" :=
    ⟨[4, 4], [4, 4, 1], ⟨"4.4.1", rfl, rfl, rfl⟩, by decide⟩
  obtain ⟨arranged, stably, checks⟩ := compile_checks_releases requiringTag
    [("new", 2, "5.0"), ("newer", 1, "4.4.1")] "4.4" (by decide) (by decide) integral requires
  have expected : StablyArranges (fun item => (requiringTag item).rank)
      [("new", 2, "5.0"), ("newer", 1, "4.4.1")] [("newer", 1, "4.4.1"), ("new", 2, "5.0")] := by
    refine ⟨List.Perm.swap _ _ [], by simp [ranks], ?_⟩
    intro r
    simp only [rankClass, ranks, List.filter_cons, List.filter_nil, decide_eq_true_eq]
    grind
  obtain rfl : arranged = _ := expected.eq_of_classes stably fun _ => rfl
  obtain ⟨-, -, ends, -⟩ := checks none
  obtain ⟨earlier, first, notes, outdated, noted, strict, -⟩ :=
    ends ⟨("newer", 1, "4.4.1"), by simp, newer⟩
  obtain ⟨later, split⟩ := outdated.split
  cases earlier with
  | nil =>
      obtain ⟨rfl, -⟩ := List.cons.inj split
      cases noted
      exact ⟨by decide, by decide, integral, requires, strict⟩
  | cons head others =>
      obtain ⟨rfl, -⟩ := List.cons.inj split
      exact absurd newer (outdated.earlier _ List.mem_cons_self)

end Filter
end Filtergraph
