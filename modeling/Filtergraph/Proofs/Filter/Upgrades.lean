import Filtergraph.Proofs.Filter.Releases

/-!
# Upgrading the tool

A tool that is as recent as another one passes each strict check that the other one passes, and a
lenient check warns about no filters but those it warned about for the other one.  Components of a
release that are zero can decide a check: a tool may fail it for nothing but zeros that are missing
in its release.
-/

namespace Filtergraph

/-- The notes of a report that are warnings. -/
def Report.warnings (report : Report α) : List Note :=
  report.notes.filter fun note => note.level = .warning

namespace Filter

variable {tool older newer : String}
variable {filter : Filter}
variable {filters : List Filter}

/-! ## Strict checks -/

/-- A strict check of one filter fails where the release of the tool is older than the one that is
required, and where the required one cannot be read. -/
theorem checkRelease_strict_outcome
    {release : Version}
    (reads : Version.parse tool = .ok (some release)) :
    (filter.checkRelease (.text tool) true).outcome =
      match Version.ofValue filter.minimum with
      | .error failure => .error failure
      | .ok none => .ok ()
      | .ok (some oldest) =>
        if release < oldest then .error (filter.outdated (.text tool)) else .ok () := by
  rw [checkRelease, Version.compare_of_release reads]
  cases Version.ofValue filter.minimum with
  | error failure => rfl
  | ok oldest? =>
      cases oldest? with
      | none => rfl
      | some oldest =>
          by_cases less : release < oldest
          · simp [Except.map, Version.atLeast, less, Report.ofExcept]
          · simp [Except.map, Version.atLeast, less]
            rfl

theorem checkRelease_strict_eq_ok_iff
    {required : String}
    {release oldest : Version}
    (reads : Version.parse tool = .ok (some release))
    (minimum : filter.minimum = .text required)
    (readsToo : Version.parse required = .ok (some oldest)) :
    (filter.checkRelease (.text tool) true).outcome = .ok () ↔ ¬ release < oldest := by
  rw [checkRelease_strict_outcome reads, minimum, Version.ofValue_text_eq_ok_iff.mpr readsToo]
  by_cases less : release < oldest <;> simp [less]

/-- The tool does not fail as one that is too old. -/
def NotTooOld (outcome : Except Failure α) : Prop :=
  ∀ name required found, outcome ≠ .error (.toolTooOld name required found)

theorem NotTooOld.of_bind
    {outcome : Except Failure α}
    {next : α -> Except Failure β}
    (passes : NotTooOld (outcome >>= next)) :
    NotTooOld outcome := by
  intro name required found tooOld
  rw [tooOld] at passes
  exact passes name required found rfl

theorem checkRelease_of_satisfies
    (upgrades : Version.Satisfies newer older)
    (passes : NotTooOld (filter.checkRelease (.text older) true).outcome) :
    (filter.checkRelease (.text newer) true).outcome =
      (filter.checkRelease (.text older) true).outcome := by
  obtain ⟨release, earlier, reads, readsEarlier, recent⟩ := Version.satisfies_iff.mp upgrades
  rw [checkRelease_strict_outcome readsEarlier] at passes ⊢
  rw [checkRelease_strict_outcome reads]
  match Version.ofValue filter.minimum, passes with
  | .error failure, _ => rfl
  | .ok none, _ => rfl
  | .ok (some oldest), passes =>
      by_cases less : earlier < oldest
      · exact absurd (if_pos less) (passes _ _ _)
      · have lessToo : ¬ release < oldest := by
          rw [List.not_lt] at recent less ⊢
          exact List.le_trans less recent
        simp [less, lessToo]

/-- What the checks of some filters come to stays, unless the older tool is too old. -/
theorem checkReleases_of_satisfies
    (upgrades : Version.Satisfies newer older)
    (passes : NotTooOld (checkReleases (.text older) true filters).outcome) :
    (checkReleases (.text newer) true filters).outcome =
      (checkReleases (.text older) true filters).outcome := by
  induction filters with
  | nil => rfl
  | cons filter rest inductionHypothesis =>
      rw [checkReleases, Report.andThen_outcome] at passes ⊢
      rw [checkReleases, Report.andThen_outcome,
        checkRelease_of_satisfies upgrades passes.of_bind]
      cases own : (filter.checkRelease (.text older) true).outcome with
      | error failure => simp only [bind, Except.bind]
      | ok _ =>
          rw [own] at passes
          exact inductionHypothesis passes

/-! ## Warnings -/

/-- The release of the tool is older than the oldest one that the filter works with. -/
def isOutdated (tool : String) (filter : Filter) : Bool :=
  match Version.compare (.text tool) filter.minimum with
  | .ok (some supported) => !supported
  | _ => false

/-- The warning that a filter is outdated. -/
def outdatedNote (tool : String) (filter : Filter) : Note :=
  ⟨.warning, (filter.outdated (.text tool)).message⟩

theorem isOutdated_of_reads
    {found oldest : Option Version}
    (reads : Reads tool filter found oldest) :
    isOutdated tool filter =
      match found, oldest with
      | some release, some oldest => decide (release < oldest)
      | _, _ => false := by
  rw [isOutdated, compare_of_reads reads]
  match found, oldest with
  | none, _ => rfl
  | some _, none => rfl
  | some release, some oldest => exact Bool.not_not _

/-- What is noted on a filter is a warning exactly if the filter is outdated. -/
theorem warning_of_noted
    {note : Option Note}
    (noted : Noted tool filter note) :
    note.toList.filter (fun note => note.level = .warning) =
      if isOutdated tool filter then [outdatedNote tool filter] else [] := by
  cases noted with
  | outdated older =>
      obtain ⟨found, oldest, reads, less⟩ := older
      simp [isOutdated_of_reads reads, less, outdatedNote]
  | incomparable unknown =>
      obtain ⟨found, oldest, reads, missing⟩ := unknown
      rcases missing with rfl | rfl
      · simp [isOutdated_of_reads reads, incomparableNote]
      · simp [isOutdated_of_reads reads, incomparableNote]
  | supported recent =>
      obtain ⟨found, oldest, reads, notLess⟩ := recent
      simp [isOutdated_of_reads reads, notLess]

theorem warnings_of_noted
    {notes : List (Option Note)}
    (noted : List.Forall₂ (Noted tool) filters notes) :
    notes.reduceOption.filter (fun note => note.level = .warning) =
      (filters.filter (isOutdated tool)).map (outdatedNote tool) := by
  induction noted with
  | nil => rfl
  | @cons filter note rest others own _ inductionHypothesis =>
      have split : (note :: others).reduceOption = note.toList ++ others.reduceOption := by
        cases note <;> rfl
      rw [split, List.filter_append, inductionHypothesis, warning_of_noted own, List.filter_cons]
      split <;> simp

/-- A filter that is outdated for the newer tool is outdated for the older one. -/
theorem isOutdated_of_satisfies
    (upgrades : Version.Satisfies newer older)
    (outdated : isOutdated newer filter = true) :
    isOutdated older filter = true := by
  obtain ⟨release, earlier, reads, readsEarlier, recent⟩ := Version.satisfies_iff.mp upgrades
  rw [isOutdated, Version.compare_of_release reads] at outdated
  rw [isOutdated, Version.compare_of_release readsEarlier]
  match Version.ofValue filter.minimum, outdated with
  | .ok (some oldest), outdated =>
      have less : release < oldest := by simpa [Except.map, Version.atLeast] using outdated
      have lessToo : earlier < oldest := by
        rw [List.not_lt] at recent
        exact List.lt_of_le_of_lt recent less
      simp [Except.map, Version.atLeast, lessToo]

/-! ## Compiling for a newer tool -/

section Compile

variable [BEq α]
variable {filterOf : α -> Filter}
variable {items arranged : List α}

/-- The items whose filters are outdated, in the order in which they are emitted. -/
def warned (filterOf : α -> Filter) (items : List α) (tool : String) : List α :=
  match arrange filterOf items with
  | .ok arranged => arranged.filter fun item => isOutdated tool (filterOf item)
  | .error _ => []

theorem compile_of_arrange_error
    {failure : Failure}
    (fails : arrange filterOf items = .error failure)
    (format : Option Format)
    (tool : Value)
    (strict : Bool) :
    compile filterOf items format tool strict = .ofExcept (.error failure) := by
  rw [compile, ordered, fails]
  rfl

/-- A release is not named by an empty text. -/
theorem ne_empty_of_parse
    {release : Version}
    (reads : Version.parse tool = .ok (some release)) :
    tool ≠ "" := by
  rintro rfl
  cases reads

/-- Filters that can be arranged are checked, and then they contribute. -/
theorem compile_outcome_of_arrange
    (given : tool ≠ "")
    (arranges : arrange filterOf items = .ok arranged)
    (format : Option Format)
    (strict : Bool) :
    (compile filterOf items format (.text tool) strict).outcome =
      (checkReleases (.text tool) strict (arranged.map filterOf)).outcome >>= fun _ =>
        gather (fun filter => filter.fragment format) (arranged.map filterOf) := by
  rw [compile_eq arranges, Report.andThen_outcome, releaseCheck_text given]
  rfl

theorem compile_strict_of_satisfies
    (upgrades : Version.Satisfies newer older)
    {format : Option Format}
    (passes : NotTooOld (compile filterOf items format (.text older) true).outcome) :
    (compile filterOf items format (.text newer) true).outcome =
      (compile filterOf items format (.text older) true).outcome := by
  obtain ⟨release, earlier, reads, readsEarlier, -⟩ := Version.satisfies_iff.mp upgrades
  cases arranges : arrange filterOf items with
  | error failure => rw [compile_of_arrange_error arranges, compile_of_arrange_error arranges]
  | ok arranged =>
      rw [compile_outcome_of_arrange (ne_empty_of_parse readsEarlier) arranges] at passes ⊢
      rw [compile_outcome_of_arrange (ne_empty_of_parse reads) arranges,
        checkReleases_of_satisfies upgrades passes.of_bind]

/-- A lenient compilation warns about the filters that are outdated, in the order in which they are
emitted. -/
theorem warnings_compile
    {release : Version}
    (reads : Version.parse tool = .ok (some release))
    (requires : ∀ item ∈ items, (filterOf item).RequiresReadable)
    (format : Option Format) :
    (compile filterOf items format (.text tool) false).warnings =
      (warned filterOf items tool).map fun item => outdatedNote tool (filterOf item) := by
  cases arranges : arrange filterOf items with
  | error failure =>
      rw [compile_of_arrange_error arranges, warned, arranges]
      rfl
  | ok arranged =>
      have requiresEach : ∀ filter ∈ arranged.map filterOf, filter.RequiresReadable := by
        intro filter member
        obtain ⟨item, there, rfl⟩ := List.mem_map.mp member
        exact requires item ((arrange_perm arranges).mem_iff.mp there)
      obtain ⟨notes, noted⟩ := exists_noted_each (.of_parse reads) requiresEach
      rw [compile_eq arranges, Report.warnings, Report.notes_andThen_ofExcept,
        releaseCheck_text (ne_empty_of_parse reads), checkReleases_of_noted noted (by simp), warned,
        arranges, warnings_of_noted noted, List.filter_map, List.map_map]
      rfl

theorem warned_sublist
    (upgrades : Version.Satisfies newer older)
    (filterOf : α -> Filter)
    (items : List α) :
    (warned filterOf items newer).Sublist (warned filterOf items older) := by
  unfold warned
  split
  · exact List.monotone_filter_right _ fun item => isOutdated_of_satisfies upgrades
  · exact .slnil

end Compile

/-- For a tool that is as recent as another one, filters whose oldest releases are texts compile at
least as well.  What a strict compilation comes to stays the same, unless the older tool was too
old, and a lenient one warns about some of the filters it warned about for the older tool, in the
same order.  All this rests on releases being compared by a total preorder. -/
theorem compile_for_upgraded_tool [BEq α]
    (filterOf : α -> Filter)
    (items : List α)
    (upgrades : Version.Satisfies newer older)
    (requires : ∀ item ∈ items, (filterOf item).RequiresReadable) :
    (∀ format,
      let before := (compile filterOf items format (.text older) true).outcome
      let after := (compile filterOf items format (.text newer) true).outcome
      NotTooOld before -> NotTooOld after ∧ after = before) ∧
    (∀ format,
      let before := compile filterOf items format (.text older) false
      let after := compile filterOf items format (.text newer) false
      before.warnings =
          (warned filterOf items older).map (fun item => outdatedNote older (filterOf item)) ∧
        after.warnings =
          (warned filterOf items newer).map (fun item => outdatedNote newer (filterOf item)) ∧
        (warned filterOf items newer).Sublist (warned filterOf items older)) ∧
    (∀ s, Version.IsRelease s -> Version.Satisfies s s) ∧
    (∀ s t, Version.IsRelease s -> Version.IsRelease t ->
      Version.Satisfies s t ∨ Version.Satisfies t s) ∧
    ∀ s t u, Version.Satisfies s t -> Version.Satisfies t u -> Version.Satisfies s u := by
  obtain ⟨release, earlier, reads, readsEarlier, -⟩ := Version.satisfies_iff.mp upgrades
  refine ⟨?_, ?_, fun s => Version.satisfies_refl, fun s t => Version.satisfies_total,
    fun s t u => Version.satisfies_trans⟩
  · intro format before after passes
    have same : after = before := compile_strict_of_satisfies upgrades passes
    exact ⟨same ▸ passes, same⟩
  · intro format before after
    exact ⟨warnings_compile readsEarlier requires format, warnings_compile reads requires format,
      warned_sublist upgrades filterOf items⟩

/-- Two filters that work from different releases on, the one emitted first inserted last. -/
def requiringTags : List (String × Int × String) :=
  [("new", 2, "5.0"), ("newer", 1, "4.4.1")]

theorem arrange_requiringTags :
    arrange requiringTag requiringTags = .ok [("newer", 1, "4.4.1"), ("new", 2, "5.0")] := by
  have integral :
      requiringTags.all (fun item => (requiringTag item).integerPriority?.isSome) = true := rfl
  have behind :
      (requiringTag ("new", 2, "5.0")).precedes (requiringTag ("newer", 1, "4.4.1")) = false := rfl
  rw [arrange, if_pos integral]
  simp [requiringTags, List.mergeSort, behind]

/-- With each upgrade there is less to warn about, and the upgrade to the first release that passes
the strict check is the last one that changes the outcome. -/
theorem compile_requiringTags :
    Version.Satisfies "4.4.2" "4.4" ∧ Version.Satisfies "6.1" "n5.0-3" ∧
      (∀ item ∈ requiringTags, (requiringTag item).RequiresReadable) ∧
      (compile requiringTag requiringTags none (.text "4.4") false).warnings =
        [outdatedNote "4.4" (requiringTag ("newer", 1, "4.4.1")),
          outdatedNote "4.4" (requiringTag ("new", 2, "5.0"))] ∧
      (compile requiringTag requiringTags none (.text "4.4.2") false).warnings =
        [outdatedNote "4.4.2" (requiringTag ("new", 2, "5.0"))] ∧
      NotTooOld (compile requiringTag requiringTags none (.text "n5.0-3") true).outcome ∧
      (compile requiringTag requiringTags none (.text "6.1") true).outcome =
        .ok [.text "-tag", .text "newer", .text "-tag", .text "new"] := by
  have upgrades : Version.Satisfies "4.4.2" "4.4" := rfl
  have upgradesToo : Version.Satisfies "6.1" "n5.0-3" := rfl
  have requires : ∀ item ∈ requiringTags, (requiringTag item).RequiresReadable := by
    have readable : ∀ item ∈ requiringTags, Version.Readable item.2.2 := by decide
    exact fun item member => ⟨item.2.2, rfl, readable item member⟩
  have warnedBefore : warned requiringTag requiringTags "4.4" =
      [("newer", 1, "4.4.1"), ("new", 2, "5.0")] := by
    rw [warned, arrange_requiringTags]
    decide
  have warnedAfter : warned requiringTag requiringTags "4.4.2" = [("new", 2, "5.0")] := by
    rw [warned, arrange_requiringTags]
    decide
  have passes : (compile requiringTag requiringTags none (.text "n5.0-3") true).outcome =
      .ok [.text "-tag", .text "newer", .text "-tag", .text "new"] := by
    rw [compile_outcome_of_arrange (by decide) arrange_requiringTags]
    rfl
  have notTooOld : NotTooOld
      (compile requiringTag requiringTags none (.text "n5.0-3") true).outcome := by
    simp [NotTooOld, passes]
  obtain ⟨-, warnings, -⟩ := compile_for_upgraded_tool requiringTag requiringTags upgrades requires
  obtain ⟨strict, -⟩ := compile_for_upgraded_tool requiringTag requiringTags upgradesToo requires
  obtain ⟨before, after, -⟩ := warnings none
  rw [warnedBefore] at before
  rw [warnedAfter] at after
  exact ⟨upgrades, upgradesToo, requires, before, after, notTooOld,
    (strict none notTooOld).2.trans passes⟩

/-! ## Zeros in releases -/

/-- Components that are zero can be added to the release of the tool and to the one that is required
without an effect on how the two compare, and on whether a filter passes a strict check, exactly if
they do not matter: the two differ in more than such components, or it stays as it was which of them
is longer. -/
theorem comparison_with_zeros_iff
    {found longerFound required longerRequired : String}
    {count countToo : Nat}
    {release oldest : Version}
    (reads : Version.parse found = .ok (some release))
    (readsToo : Version.parse required = .ok (some oldest))
    (appends : Version.AppendsZeros count found longerFound)
    (appendsToo : Version.AppendsZeros countToo required longerRequired) :
    (Version.compare (.text longerFound) (.text longerRequired) =
        Version.compare (.text found) (.text required) ↔
      ¬ Version.ZerosMatter release oldest count countToo) ∧
    ∀ filter longer : Filter,
      filter.minimum = .text required -> longer.minimum = .text longerRequired ->
      (((longer.checkRelease (.text longerFound) true).outcome = .ok () ↔
          (filter.checkRelease (.text found) true).outcome = .ok ()) ↔
        ¬ Version.ZerosMatter release oldest count countToo) := by
  have readsLonger := appends.parse reads
  have readsLongerToo := appendsToo.parse readsToo
  have unaffected := Version.lt_append_zeros_iff release oldest count countToo
  constructor
  · rw [← unaffected, Version.compare_of_release reads, Version.compare_of_release readsLonger,
      Version.ofValue_text_eq_ok_iff.mpr readsToo,
      Version.ofValue_text_eq_ok_iff.mpr readsLongerToo]
    simp [Except.map, Version.atLeast]
  · intro filter longer minimum minimumLonger
    rw [← unaffected, checkRelease_strict_eq_ok_iff reads minimum readsToo,
      checkRelease_strict_eq_ok_iff readsLonger minimumLonger readsLongerToo]
    exact not_iff_not

/-- Zeros behind releases that differ otherwise change nothing. -/
theorem comparison_with_zeros_of_older :
    Version.parse "n4.4-2" = .ok (some [4, 4]) ∧ Version.parse "5" = .ok (some [5]) ∧
      Version.AppendsZeros 2 "n4.4-2" "n4.4.0.0-2" ∧ Version.AppendsZeros 1 "5" "5.0 " ∧
      Version.compare (.text "n4.4.0.0-2") (.text "5.0 ") =
        Version.compare (.text "n4.4-2") (.text "5") := by
  have reads : Version.parse "n4.4-2" = .ok (some [4, 4]) := by decide
  have readsToo : Version.parse "5" = .ok (some [5]) := by decide
  have appends : Version.AppendsZeros 2 "n4.4-2" "n4.4.0.0-2" :=
    ⟨['n'], [['4'], ['4']], ['-', '2'], by decide, by decide⟩
  have appendsToo : Version.AppendsZeros 1 "5" "5.0 " := ⟨[], [['5']], [], by decide, by decide⟩
  have different : ¬ Version.ZerosMatter [4, 4] [5] 2 1 := fun matter => by
    simpa using matter.1 0
  exact ⟨reads, readsToo, appends, appendsToo,
    (comparison_with_zeros_iff reads readsToo appends appendsToo).1.mpr different⟩

/-- A tool of the release 6.1 does for a filter that requires 6.1, and is too old for one that
requires 6.1.0. -/
theorem comparison_with_zero_of_same :
    Version.AppendsZeros 1 "6.1" "6.1.0" ∧
      Version.compare (.text "6.1") (.text "6.1") = .ok (some true) ∧
      Version.compare (.text "6.1") (.text "6.1.0") = .ok (some false) ∧
      (compile requiringTag [("new", 0, "6.1")] none (.text "6.1") true).outcome =
        .ok [.text "-tag", .text "new"] ∧
      (compile requiringTag [("new", 0, "6.1.0")] none (.text "6.1") true).outcome =
        .error (.toolTooOld "new" "6.1.0" "6.1") := by
  have arranges (required : String) :
      arrange requiringTag [("new", 0, required)] = .ok [("new", 0, required)] := by
    have integral : [("new", 0, required)].all
        (fun item => (requiringTag item).integerPriority?.isSome) = true := rfl
    rw [arrange, if_pos integral, List.mergeSort_singleton]
  refine ⟨⟨[], [['6'], ['1']], [], by decide, by decide⟩, rfl, rfl, ?_, ?_⟩
  · rw [compile_outcome_of_arrange (by decide) (arranges "6.1")]
    rfl
  · rw [compile_outcome_of_arrange (by decide) (arranges "6.1.0")]
    rfl

end Filter
end Filtergraph
