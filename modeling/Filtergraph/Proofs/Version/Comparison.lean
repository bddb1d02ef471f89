import Mathlib.Data.List.GetD
import Mathlib.Data.Nat.Find
import Filtergraph.Proofs.Version.Grammar

/-!
# Comparing release numbers

Being as recent as another release is a total preorder on all texts that name one.  Release numbers
are compared at their first difference, where a missing component counts as zero; only where there
is no difference the length counts.  So components that are zero can be added to a release number
without an effect, unless it is, but for such components, the number it is compared with.
-/

namespace Filtergraph
namespace Version

/-! ## The order of texts -/

/-- A release number can be read off the text. -/
def IsRelease (s : String) : Prop :=
  ∃ version, parse s = .ok (some version)

/-- The release that one text names is as recent as the release that another one names. -/
def Satisfies (found required : String) : Prop :=
  compare (.text found) (.text required) = .ok (some true)

theorem ofValue_text_eq_ok_iff
    {s : String}
    {outcome : Option Version} :
    ofValue (.text s) = .ok outcome ↔ parse s = .ok outcome := by
  rw [ofValue]
  cases parse s <;> simp [Except.mapError]

/-- Two texts are compared by the releases that they name, if both name one. -/
theorem compare_of_parse
    {found required : String}
    {release oldest : Option Version}
    (reads : parse found = .ok release)
    (readsToo : parse required = .ok oldest) :
    compare (.text found) (.text required) =
      .ok (do
        let release ← release
        let oldest ← oldest
        return release.atLeast oldest) := by
  rw [compare, ofValue_text_eq_ok_iff.mpr reads, ofValue_text_eq_ok_iff.mpr readsToo]
  rfl

/-- Where the release that is found is known, the one that is required decides. -/
theorem compare_of_release
    {found : String}
    {release : Version}
    (reads : parse found = .ok (some release))
    (required : Value) :
    compare (.text found) required = (ofValue required).map (Option.map release.atLeast) := by
  rw [compare, ofValue_text_eq_ok_iff.mpr reads]
  match ofValue required with
  | .error failure => rfl
  | .ok none => rfl
  | .ok (some oldest) => rfl

/-- A release is recent enough if it does not come before the oldest one. -/
theorem atLeast_iff
    {release oldest : Version} :
    release.atLeast oldest = true ↔ ¬ release < oldest := by
  simp [atLeast]

/-- Only texts that name releases satisfy each other. -/
theorem satisfies_iff
    {found required : String} :
    Satisfies found required ↔
      ∃ release oldest, parse found = .ok (some release) ∧ parse required = .ok (some oldest) ∧
        ¬ release < oldest := by
  constructor
  · intro satisfies
    obtain ⟨release?, reads, satisfies⟩ := bind_eq_ok_iff.mp satisfies
    obtain ⟨oldest?, readsToo, satisfies⟩ := bind_eq_ok_iff.mp satisfies
    rw [ofValue_text_eq_ok_iff] at reads readsToo
    cases release? with
    | none => cases satisfies
    | some release =>
        cases oldest? with
        | none => cases satisfies
        | some oldest =>
            have recent : release.atLeast oldest = true :=
              Option.some.inj (Except.ok.inj satisfies)
            exact ⟨release, oldest, reads, readsToo, atLeast_iff.mp recent⟩
  · rintro ⟨release, oldest, reads, readsToo, recent⟩
    have known : release.atLeast oldest = true := atLeast_iff.mpr recent
    rw [Satisfies, compare_of_parse reads readsToo, ← known]
    rfl

theorem satisfies_refl
    {s : String}
    (isRelease : IsRelease s) :
    Satisfies s s := by
  obtain ⟨version, reads⟩ := isRelease
  exact satisfies_iff.mpr ⟨version, version, reads, reads, List.lt_irrefl version⟩

/-- Of two releases one satisfies the other. -/
theorem satisfies_total
    {s t : String}
    (isRelease : IsRelease s)
    (isReleaseToo : IsRelease t) :
    Satisfies s t ∨ Satisfies t s := by
  obtain ⟨version, reads⟩ := isRelease
  obtain ⟨versionToo, readsToo⟩ := isReleaseToo
  by_cases older : version < versionToo
  · exact .inr (satisfies_iff.mpr ⟨_, _, readsToo, reads, List.lt_asymm older⟩)
  · exact .inl (satisfies_iff.mpr ⟨_, _, reads, readsToo, older⟩)

theorem satisfies_trans
    {s t u : String}
    (first : Satisfies s t)
    (second : Satisfies t u) :
    Satisfies s u := by
  obtain ⟨a, b, readsA, readsB, notLess⟩ := satisfies_iff.mp first
  obtain ⟨other, c, readsOther, readsC, notLessToo⟩ := satisfies_iff.mp second
  obtain rfl : other = b := Option.some.inj (Except.ok.inj (readsOther.symm.trans readsB))
  refine satisfies_iff.mpr ⟨a, c, readsA, readsC, ?_⟩
  rw [List.not_lt] at notLess notLessToo ⊢
  exact List.le_trans notLessToo notLess

/-! ## Missing components -/

/-- Two release numbers have the same components, where a missing one counts as zero. -/
def SameComponents (version other : Version) : Prop :=
  ∀ i, version.getD i 0 = other.getD i 0

/-- Zeros at the end are components that were missing. -/
theorem sameComponents_append_zeros (version : Version) (count : Nat) :
    SameComponents version (version ++ List.replicate count 0) := by
  intro i
  by_cases there : i < version.length
  · rw [List.getD_append _ _ _ _ there]
  · rw [List.getD_append_right _ _ _ _ (Nat.not_lt.mp there),
      List.getD_eq_default _ _ (Nat.not_lt.mp there), List.getD_eq_getElem?_getD,
      List.getElem?_getD_replicate_default_eq]

/-- Between release numbers with the same components, the shorter one is the older. -/
theorem SameComponents.lt_iff_length_lt
    {version other : Version}
    (same : SameComponents version other) :
    version < other ↔ version.length < other.length := by
  induction version generalizing other with
  | nil =>
      cases other with
      | nil => simp
      | cons b other => simp
  | cons a version inductionHypothesis =>
      cases other with
      | nil => simp
      | cons b other =>
          have sameHead : a = b := same 0
          have sameTail : SameComponents version other := fun i => same (i + 1)
          rw [List.cons_lt_cons_iff, inductionHypothesis sameTail]
          simp [sameHead]

/-- The first difference decides. -/
theorem lt_of_first_difference
    {version other : Version}
    {i : Nat}
    (same : ∀ j < i, version.getD j 0 = other.getD j 0)
    (less : version.getD i 0 < other.getD i 0) :
    version < other := by
  induction i generalizing version other with
  | zero =>
      cases other with
      | nil => simp at less
      | cons b other =>
          cases version with
          | nil => exact List.nil_lt_cons b other
          | cons a version => exact List.cons_lt_cons_iff.mpr (.inl less)
  | succ i inductionHypothesis =>
      cases other with
      | nil => simp at less
      | cons b other =>
          cases version with
          | nil => exact List.nil_lt_cons b other
          | cons a version =>
              have sameHead : a = b := same 0 (Nat.succ_pos i)
              have further := inductionHypothesis
                (fun j before => same (j + 1) (Nat.succ_lt_succ before)) less
              exact List.cons_lt_cons_iff.mpr (.inr ⟨sameHead, further⟩)

/-- Which one of two release numbers with different components is older depends on nothing but the
components. -/
theorem SameComponents.lt_congr
    {version longer other longerOther : Version}
    (same : SameComponents version longer)
    (sameToo : SameComponents other longerOther)
    (different : ¬ SameComponents version other) :
    longer < longerOther ↔ version < other := by
  have exists_difference : ∃ i, version.getD i 0 ≠ other.getD i 0 := by
    simpa [SameComponents] using different
  classical
  -- The least difference is the same one in the longer numbers, where it decides as well.
  obtain ⟨i, difference, first⟩ :
      ∃ i, version.getD i 0 ≠ other.getD i 0 ∧
        ∀ j < i, version.getD j 0 = other.getD j 0 :=
    ⟨Nat.find exists_difference, Nat.find_spec exists_difference,
      fun j before => not_not.mp (Nat.find_min exists_difference before)⟩
  have firstToo : ∀ j < i, longer.getD j 0 = longerOther.getD j 0 := by
    intro j before
    rw [← same j, ← sameToo j, first j before]
  rcases Nat.lt_or_gt_of_ne difference with less | greater
  · have lessToo : longer.getD i 0 < longerOther.getD i 0 := by rwa [← same i, ← sameToo i]
    exact iff_of_true (lt_of_first_difference firstToo lessToo) (lt_of_first_difference first less)
  · have greaterToo : longerOther.getD i 0 < longer.getD i 0 := by rwa [← same i, ← sameToo i]
    have after := lt_of_first_difference (fun j before => (first j before).symm) greater
    have afterToo := lt_of_first_difference (fun j before => (firstToo j before).symm) greaterToo
    exact iff_of_false (List.lt_asymm afterToo) (List.lt_asymm after)

/-! ## Zeros behind a release number -/

/-- Without the blanks around them, the second text is the first one with more components behind the
release number, which are all zero. -/
def AppendsZeros (count : Nat) (s longer : String) : Prop :=
  ∃ mark components rest,
    Spells (Text.trim Text.isBlank s.toList) mark components rest ∧
      Spells (Text.trim Text.isBlank longer.toList) mark
        (components ++ List.replicate count ['0']) rest

/-- A text with zeros at the end names the release with these zeros. -/
theorem AppendsZeros.parse
    {count : Nat}
    {s longer : String}
    {version : Version}
    (appends : AppendsZeros count s longer)
    (reads : Version.parse s = .ok (some version)) :
    Version.parse longer = .ok (some (version ++ List.replicate count 0)) := by
  obtain ⟨mark, components, rest, spells, spellsLonger⟩ := appends
  obtain ⟨markToo, componentsToo, restToo, spellsToo, short, rfl⟩ := parse_eq_some_iff.mp reads
  obtain ⟨sameRuns, -⟩ := exists_spells_iff.mp ⟨mark, rest, spells⟩
  obtain ⟨rfl, -⟩ := sameRuns ▸ exists_spells_iff.mp ⟨markToo, restToo, spellsToo⟩
  refine parse_eq_some_iff.mpr ⟨mark, _, rest, spellsLonger, ?_, ?_⟩
  · intro run member
    rcases List.mem_append.mp member with own | added
    · exact short run own
    · rw [List.eq_of_mem_replicate added]
      decide
  · rw [List.map_append, List.map_replicate]
    rfl

/-- The release number that zeros are added to cannot be told from the one that it is compared with,
but by its length, and the zeros change which of the two is longer. -/
def ZerosMatter (release oldest : Version) (count countToo : Nat) : Prop :=
  SameComponents release oldest ∧
    ¬ (release.length + count < oldest.length + countToo ↔ release.length < oldest.length)

/-- Zeros matter only where nothing else tells the releases apart. -/
theorem lt_append_zeros_iff
    (release oldest : Version)
    (count countToo : Nat) :
    (release ++ List.replicate count 0 < oldest ++ List.replicate countToo 0 ↔
      release < oldest) ↔ ¬ ZerosMatter release oldest count countToo := by
  have sameRelease := sameComponents_append_zeros release count
  have sameOldest := sameComponents_append_zeros oldest countToo
  by_cases same : SameComponents release oldest
  · have sameLonger : SameComponents (release ++ List.replicate count 0)
        (oldest ++ List.replicate countToo 0) :=
      fun i => (sameRelease i).symm.trans ((same i).trans (sameOldest i))
    rw [sameLonger.lt_iff_length_lt, same.lt_iff_length_lt]
    simp [ZerosMatter, same]
  · refine iff_of_true (sameRelease.lt_congr sameOldest same) ?_
    exact fun matter => same matter.1

end Version
end Filtergraph
