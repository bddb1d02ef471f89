import Filtergraph.World.Context
import Mathlib.Data.List.TakeWhile

/-!
# The release that a text tells

A text tells a release where the mark stands with a word directly behind it.  The word behind the
first such mark is the release; marks that no word follows are passed over.
-/

namespace Filtergraph

/-- Behind the first part of a text stands the mark of a release, and directly behind the mark a
word that goes up to the next blank or to the end. -/
structure TellsRelease (cs before word : List Char) : Prop where
  split : ∃ after, cs = before ++ (releaseMark ++ (word ++ after)) ∧
    ∀ c ∈ after.head?, Text.isBlank c
  solid : ∀ c ∈ word, Text.isBlank c = false
  nonempty : word ≠ []

/-- The word behind the leftmost mark that a word follows. -/
def TellsFirst (cs word : List Char) : Prop :=
  ∃ before, TellsRelease cs before word ∧
    ∀ other otherWord, TellsRelease cs other otherWord -> before.length ≤ other.length

variable {cs before word : List Char}
variable {c d : Char}

/-- A word goes up to the next blank, or to the end. -/
theorem firstWord_append
    {after : List Char}
    (solid : ∀ c ∈ word, Text.isBlank c = false)
    (ends : ∀ c ∈ after.head?, Text.isBlank c) :
    firstWord (word ++ after) = word := by
  have inside : ∀ c ∈ word, (!Text.isBlank c) = true := by simpa using solid
  rw [firstWord, List.takeWhile_append_of_pos inside]
  cases after with
  | nil => simp
  | cons c rest =>
      have blank : Text.isBlank c := ends c rfl
      simp [blank]

theorem blank_of_head_dropWhile :
    ∀ c ∈ (cs.dropWhile fun c => !Text.isBlank c).head?, Text.isBlank c := by
  intro c head
  have stops := List.head?_dropWhile_not (fun c => !Text.isBlank c) cs
  rw [Option.mem_def.mp head] at stops
  simpa using stops

/-- At the beginning of a text, the mark and the first word behind it decide. -/
theorem tellsRelease_nil_iff :
    TellsRelease cs [] word ↔
      releaseMark.isPrefixOf cs ∧ firstWord (cs.drop releaseMark.length) = word ∧ word ≠ [] := by
  constructor
  · rintro ⟨⟨after, rfl, ends⟩, solid, nonempty⟩
    refine ⟨?_, ?_, nonempty⟩
    · exact List.isPrefixOf_iff_prefix.mpr (List.prefix_append _ _)
    · rw [List.nil_append, List.drop_left]
      exact firstWord_append solid ends
  · rintro ⟨marked, rfl, nonempty⟩
    obtain ⟨rest, rfl⟩ := List.isPrefixOf_iff_prefix.mp marked
    rw [List.drop_left]
    refine ⟨⟨rest.dropWhile fun c => !Text.isBlank c, ?_, blank_of_head_dropWhile⟩, ?_, ?_⟩
    · rw [firstWord, List.takeWhile_append_dropWhile, List.nil_append]
    · intro c member
      simpa using List.mem_takeWhile_imp member
    · rwa [List.drop_left] at nonempty

/-- Whether a mark stands further behind does not depend on what comes first. -/
theorem tellsRelease_cons_iff :
    TellsRelease (c :: cs) (d :: before) word ↔ c = d ∧ TellsRelease cs before word := by
  constructor
  · rintro ⟨⟨after, split, ends⟩, solid, nonempty⟩
    obtain ⟨same, rest⟩ := List.cons.inj split
    exact ⟨same, ⟨after, rest, ends⟩, solid, nonempty⟩
  · rintro ⟨rfl, ⟨after, rfl, ends⟩, solid, nonempty⟩
    exact ⟨⟨after, rfl, ends⟩, solid, nonempty⟩

theorem not_tellsRelease_nil : ¬ TellsRelease [] before word := by
  rintro ⟨⟨after, split, -⟩, -, nonempty⟩
  obtain ⟨-, behind⟩ := List.append_eq_nil_iff.mp split.symm
  obtain ⟨-, rest⟩ := List.append_eq_nil_iff.mp behind
  exact nonempty (List.append_eq_nil_iff.mp rest).1

/-- A mark at the beginning is the first one. -/
theorem TellsFirst.of_nil (tells : TellsRelease cs [] word) : TellsFirst cs word :=
  ⟨[], tells, fun _ _ _ => Nat.zero_le _⟩

/-- The first mark of the rest is the first one if none stands at the beginning. -/
theorem TellsFirst.cons
    (untold : ∀ word, ¬ TellsRelease (c :: cs) [] word)
    (tells : TellsFirst cs word) :
    TellsFirst (c :: cs) word := by
  obtain ⟨before, tells, first⟩ := tells
  refine ⟨c :: before, tellsRelease_cons_iff.mpr ⟨rfl, tells⟩, ?_⟩
  intro other otherWord tellsToo
  cases other with
  | nil => exact absurd tellsToo (untold otherWord)
  | cons head rest =>
      exact Nat.succ_le_succ (first rest otherWord (tellsRelease_cons_iff.mp tellsToo).2)

/-- The search goes on behind the first character exactly if no release is told at the beginning. -/
theorem findRelease_cons (c : Char) (cs : List Char) :
    (∃ word, TellsRelease (c :: cs) [] word ∧ findRelease? (c :: cs) = some (String.ofList word)) ∨
      (∀ word, ¬ TellsRelease (c :: cs) [] word) ∧ findRelease? (c :: cs) = findRelease? cs := by
  rw [findRelease?]
  by_cases marked : releaseMark.isPrefixOf (c :: cs)
  · rw [if_pos marked]
    cases first : firstWord ((c :: cs).drop releaseMark.length) with
    | nil =>
        refine .inr ⟨?_, rfl⟩
        intro word tells
        obtain ⟨-, rfl, nonempty⟩ := tellsRelease_nil_iff.mp tells
        exact nonempty first
    | cons head rest =>
        exact .inl ⟨_, tellsRelease_nil_iff.mpr ⟨marked, first, by simp⟩, rfl⟩
  · rw [if_neg marked]
    exact .inr ⟨fun word tells => marked (tellsRelease_nil_iff.mp tells).1, rfl⟩

/-- The word that is found stands behind the first mark. -/
theorem tellsFirst_of_findRelease
    {release : String}
    (found : findRelease? cs = some release) :
    TellsFirst cs release.toList := by
  induction cs with
  | nil => cases found
  | cons c cs inductionHypothesis =>
      obtain ⟨word, tells, here⟩ | ⟨untold, later⟩ := findRelease_cons c cs
      · obtain rfl := Option.some.inj (here.symm.trans found)
        rw [String.toList_ofList]
        exact .of_nil tells
      · exact .cons untold (inductionHypothesis (later.symm.trans found))

/-- Nothing is found exactly if no mark stands in front of a word. -/
theorem findRelease_eq_none_iff :
    findRelease? cs = none ↔ ∀ before word, ¬ TellsRelease cs before word := by
  induction cs with
  | nil => exact iff_of_true rfl fun _ _ => not_tellsRelease_nil
  | cons c cs inductionHypothesis =>
      obtain ⟨word, tells, here⟩ | ⟨untold, later⟩ := findRelease_cons c cs
      · rw [here]
        exact iff_of_false (by simp) fun none => none [] word tells
      · rw [later, inductionHypothesis]
        constructor
        · intro none before word tells
          cases before with
          | nil => exact untold word tells
          | cons d before => exact none before word (tellsRelease_cons_iff.mp tells).2
        · intro none before word tells
          exact none (c :: before) word (tellsRelease_cons_iff.mpr ⟨rfl, tells⟩)

/-- What is told at a position of a text is one word. -/
theorem TellsRelease.word_eq
    {other otherWord : List Char}
    (tells : TellsRelease cs before word)
    (tellsToo : TellsRelease cs other otherWord)
    (same : before.length = other.length) :
    word = otherWord := by
  induction before generalizing cs other with
  | nil =>
      obtain rfl := List.eq_nil_of_length_eq_zero same.symm
      exact (tellsRelease_nil_iff.mp tells).2.1.symm.trans (tellsRelease_nil_iff.mp tellsToo).2.1
  | cons d before inductionHypothesis =>
      cases other with
      | nil => cases same
      | cons e other =>
          cases cs with
          | nil => exact absurd tells not_tellsRelease_nil
          | cons c cs =>
              exact inductionHypothesis (tellsRelease_cons_iff.mp tells).2
                (tellsRelease_cons_iff.mp tellsToo).2 (Nat.succ.inj same)

/-- There is one word behind the first mark. -/
theorem TellsFirst.unique
    {other : List Char}
    (tells : TellsFirst cs word)
    (tellsToo : TellsFirst cs other) :
    word = other := by
  obtain ⟨before, here, first⟩ := tells
  obtain ⟨beforeToo, hereToo, firstToo⟩ := tellsToo
  exact here.word_eq hereToo (Nat.le_antisymm (first _ _ hereToo) (firstToo _ _ here))

/-- The release of a text is the word behind the leftmost mark that a word follows. -/
theorem findRelease_eq_some_iff
    {release : String} :
    findRelease? cs = some release ↔ TellsFirst cs release.toList := by
  constructor
  · exact tellsFirst_of_findRelease
  · intro tells
    cases found : findRelease? cs with
    | none =>
        obtain ⟨before, here, -⟩ := tells
        exact absurd here (findRelease_eq_none_iff.mp found before release.toList)
    | some other =>
        have same := tells.unique (tellsFirst_of_findRelease found)
        exact congrArg some (String.toList_inj.mp same).symm

end Filtergraph
