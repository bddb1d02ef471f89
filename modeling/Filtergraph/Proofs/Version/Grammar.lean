import Mathlib.Tactic.MkIffOfInductiveProp
import Filtergraph.Version
import Filtergraph.Proofs.Order.Permutation
import Filtergraph.Proofs.Text.Blanks
import Filtergraph.Proofs.Text.Marks

/-!
# The grammar of release numbers

A text names a release if it begins, apart from blanks and a mark, with runs of digits that have
single points between them.  The runs are as many and as long as they can be: what stands behind
them would not go on with the number.  Reading a release number gives the values of the runs, so
that the decimal text of some numbers is read as these numbers.
-/

namespace Filtergraph

namespace Version

/-! ## Runs of digits -/

/-- A run of digits holds nothing else, and at least one. -/
@[mk_iff]
structure IsRun (run : List Char) : Prop where
  nonempty : run ≠ []
  digits : ∀ c ∈ run, Text.isDigit c = true

instance (run : List Char) : Decidable (IsRun run) :=
  decidable_of_iff (run ≠ [] ∧ run.all Text.isDigit = true) (by simp [isRun_iff])

/-- Runs of digits with single points between them. -/
def dotted (components : List (List Char)) : List Char :=
  ['.'].intercalate components

/-- What stands behind a number does not go on with it: neither with a digit, nor with a point and a
digit. -/
@[mk_iff]
structure Ends (rest : List Char) : Prop where
  noDigit : ∀ c ∈ rest.head?, Text.isDigit c = false
  noPoint : rest.head? = some '.' -> ∀ c ∈ rest.tail.head?, Text.isDigit c = false

instance (rest : List Char) : Decidable (Ends rest) :=
  decidable_of_iff
    (rest.head?.any Text.isDigit = false ∧
      (rest.head? = some '.' -> rest.tail.head?.any Text.isDigit = false))
    (by simp only [ends_iff, Option.any_eq_false, Option.mem_def])

@[simp] theorem dotted_singleton (run : List Char) : dotted [run] = run :=
  List.intercalate_singleton

theorem dotted_cons
    {more : List (List Char)}
    (some : more ≠ [])
    (run : List Char) :
    dotted (run :: more) = run ++ '.' :: dotted more := by
  cases more with
  | nil => exact absurd rfl some
  | cons next others =>
      rw [dotted, List.intercalate_cons_cons, List.append_assoc]
      rfl

/-- A point in front of runs is one behind an empty run. -/
theorem dotted_nil_cons
    {components : List (List Char)}
    (some : components ≠ []) :
    dotted ([] :: components) = '.' :: dotted components := by
  rw [dotted_cons some, List.nil_append]

theorem dotted_cons_cons
    (c : Char)
    (run : List Char)
    (more : List (List Char)) :
    dotted ((c :: run) :: more) = c :: dotted (run :: more) := by
  cases more with
  | nil => rfl
  | cons next others =>
      have some : next :: others ≠ [] := List.cons_ne_nil next others
      rw [dotted_cons some, dotted_cons some, List.cons_append]

theorem Ends.of_prefix
    {rest shorter : List Char}
    (ends : Ends rest)
    (isPrefix : shorter <+: rest) :
    Ends shorter := by
  obtain ⟨behind, rfl⟩ := isPrefix
  constructor
  · intro c head
    exact ends.noDigit c (by cases shorter with | nil => cases head | cons d cs => exact head)
  · intro point c second
    cases shorter with
    | nil => cases point
    | cons d cs =>
        refine ends.noPoint point c ?_
        cases cs with
        | nil => cases second
        | cons e cs => exact second

/-- There is always a first run, though it may be empty. -/
theorem exists_runs (cs : List Char) : ∃ run more, runs cs = run :: more := by
  cases cs with
  | nil => exact ⟨_, _, rfl⟩
  | cons c rest =>
      rw [runs]
      split
      · split <;> exact ⟨_, _, rfl⟩
      · split
        · split <;> exact ⟨_, _, rfl⟩
        · exact ⟨_, _, rfl⟩

theorem runs_digit_cons
    {c : Char}
    {rest run : List Char}
    {more : List (List Char)}
    (digit : Text.isDigit c = true)
    (follows : runs rest = run :: more) :
    runs (c :: rest) = (c :: run) :: more := by
  rw [runs, if_pos digit, follows]

theorem runs_point_cons
    {rest run : List Char}
    {more : List (List Char)}
    (follows : runs rest = run :: more) :
    runs ('.' :: rest) = if run = [] then [[]] else [] :: run :: more := by
  have noDigit : ¬ Text.isDigit '.' = true := by decide
  rw [runs, if_neg noDigit, if_pos rfl, follows]
  cases run <;> rfl

theorem runs_other_cons
    {c : Char}
    (noDigit : Text.isDigit c = false)
    (noPoint : c ≠ '.')
    (rest : List Char) :
    runs (c :: rest) = [[]] := by
  rw [runs, if_neg (by simp [noDigit]), if_neg noPoint]

/-- The first run is empty exactly if there is no digit at the beginning. -/
theorem head_runs_eq_nil_iff
    {cs run : List Char}
    {more : List (List Char)}
    (reads : runs cs = run :: more) :
    run = [] ↔ ∀ c ∈ cs.head?, Text.isDigit c = false := by
  cases cs with
  | nil =>
      obtain ⟨rfl, -⟩ := List.cons.inj reads
      simp
  | cons c rest =>
      obtain ⟨next, others, follows⟩ := exists_runs rest
      cases digit : Text.isDigit c with
      | true =>
          rw [runs_digit_cons digit follows] at reads
          obtain ⟨rfl, -⟩ := List.cons.inj reads
          simp [digit]
      | false =>
          have first : run = [] := by
            by_cases point : c = '.'
            · subst c
              rw [runs_point_cons follows] at reads
              split at reads <;> exact (List.cons.inj reads).1.symm
            · rw [runs_other_cons digit point] at reads
              exact (List.cons.inj reads).1.symm
          simp [digit, first]

theorem runs_of_ends
    {rest : List Char}
    (ends : Ends rest) :
    runs rest = [[]] := by
  cases rest with
  | nil => rfl
  | cons c tail =>
      have noDigit : Text.isDigit c = false := ends.noDigit c rfl
      by_cases point : c = '.'
      · subst c
        obtain ⟨run, more, follows⟩ := exists_runs tail
        rw [runs_point_cons follows,
          if_pos ((head_runs_eq_nil_iff follows).mpr (ends.noPoint rfl))]
      · exact runs_other_cons noDigit point tail

theorem runs_digits_append
    {run rest first : List Char}
    {more : List (List Char)}
    (digits : ∀ c ∈ run, Text.isDigit c = true)
    (follows : runs rest = first :: more) :
    runs (run ++ rest) = (run ++ first) :: more := by
  induction run with
  | nil => exact follows
  | cons c run inductionHypothesis =>
      have others := inductionHypothesis fun d member => digits d (List.mem_cons_of_mem c member)
      exact runs_digit_cons (digits c List.mem_cons_self) others

/-- The runs of a dotted text are the ones it is made of. -/
theorem runs_dotted
    {components : List (List Char)}
    {rest : List Char}
    (some : components ≠ [])
    (solid : ∀ run ∈ components, IsRun run)
    (ends : Ends rest) :
    runs (dotted components ++ rest) = components := by
  induction components with
  | nil => exact absurd rfl some
  | cons run more inductionHypothesis =>
      have digits := (solid run List.mem_cons_self).digits
      cases more with
      | nil =>
          rw [dotted_singleton, runs_digits_append digits (runs_of_ends ends),
            List.append_nil]
      | cons next others =>
          have further := inductionHypothesis (by simp) fun other member =>
            solid other (List.mem_cons_of_mem run member)
          have nextSome : next ≠ [] := (solid next (by simp)).nonempty
          have point := runs_point_cons further
          rw [if_neg nextSome] at point
          rw [dotted_cons (by simp), List.append_assoc, List.cons_append,
            runs_digits_append digits point, List.append_nil]

/-- A text is made of runs, of which only the first may be empty, and of what ends them. -/
structure MadeOf (cs : List Char) (components : List (List Char)) (rest : List Char) : Prop where
  split : cs = dotted components ++ rest
  digits : ∀ run ∈ components, ∀ c ∈ run, Text.isDigit c = true
  solid : ∀ run ∈ components.tail, run ≠ []
  ends : Ends rest

theorem MadeOf.of_ends
    {cs : List Char}
    (ends : Ends cs) :
    MadeOf cs [[]] cs :=
  ⟨rfl, by simp, by simp, ends⟩

/-- A digit goes on with the first run. -/
theorem MadeOf.digit_cons
    {c : Char}
    {cs run rest : List Char}
    {more : List (List Char)}
    (digit : Text.isDigit c = true)
    (made : MadeOf cs (run :: more) rest) :
    MadeOf (c :: cs) ((c :: run) :: more) rest where
  split := by rw [dotted_cons_cons, List.cons_append, ← made.split]
  digits := by
    intro other member d inOther
    rcases List.mem_cons.mp member with rfl | later
    · rcases List.mem_cons.mp inOther with rfl | inRun
      · exact digit
      · exact made.digits run List.mem_cons_self d inRun
    · exact made.digits other (List.mem_cons_of_mem run later) d inOther
  solid := made.solid
  ends := made.ends

/-- A point begins a new run in front of one that is not empty. -/
theorem MadeOf.point_cons
    {cs run rest : List Char}
    {more : List (List Char)}
    (runSome : run ≠ [])
    (made : MadeOf cs (run :: more) rest) :
    MadeOf ('.' :: cs) ([] :: run :: more) rest where
  split := by rw [dotted_nil_cons (by simp), List.cons_append, ← made.split]
  digits := by simpa using made.digits
  solid := by
    intro other member
    rcases List.mem_cons.mp member with rfl | later
    · exact runSome
    · exact made.solid other later
  ends := made.ends

/-- All texts are made of their runs and of what ends these. -/
theorem exists_madeOf (cs : List Char) : ∃ rest, MadeOf cs (runs cs) rest := by
  -- A point is kept only if a run follows it, so that no run but the first one is ever empty.
  induction cs with
  | nil => exact ⟨[], .of_ends ⟨by simp, by simp⟩⟩
  | cons c cs inductionHypothesis =>
      obtain ⟨rest, made⟩ := inductionHypothesis
      obtain ⟨run, more, follows⟩ := exists_runs cs
      rw [follows] at made
      by_cases digit : Text.isDigit c = true
      · rw [runs_digit_cons digit follows]
        exact ⟨rest, made.digit_cons digit⟩
      · have noDigit : Text.isDigit c = false := Bool.eq_false_iff.mpr digit
        by_cases point : c = '.'
        · subst c
          rw [runs_point_cons follows]
          split
          next empty =>
            have behind := (head_runs_eq_nil_iff follows).mp empty
            exact ⟨_, .of_ends ⟨by simpa using noDigit, fun _ => behind⟩⟩
          next runSome => exact ⟨rest, made.point_cons runSome⟩
        · rw [runs_other_cons noDigit point]
          refine ⟨_, .of_ends ⟨by simpa using noDigit, fun isPoint => ?_⟩⟩
          exact absurd (Option.some.inj isPoint) point

/-! ## Texts that name releases -/

/-- A mark may stand in front of a release number. -/
def IsMark (mark : List Char) : Prop :=
  mark = [] ∨ mark = ['n']

instance (mark : List Char) : Decidable (IsMark mark) :=
  inferInstanceAs (Decidable (mark = [] ∨ mark = ['n']))

/-- A text is a release number, with a mark in front if there is one, and with what ends it. -/
@[mk_iff]
structure Spells
    (cs mark : List Char)
    (components : List (List Char))
    (rest : List Char) : Prop where
  split : cs = mark ++ (dotted components ++ rest)
  marked : IsMark mark
  some : components ≠ []
  solid : ∀ run ∈ components, IsRun run
  ends : Ends rest

instance (cs mark : List Char) (components : List (List Char)) (rest : List Char) :
    Decidable (Spells cs mark components rest) :=
  decidable_of_iff' _ (spells_iff cs mark components rest)

/-- Dotted runs begin with a digit. -/
theorem exists_head_dotted
    {components : List (List Char)}
    (some : components ≠ [])
    (solid : ∀ run ∈ components, IsRun run) :
    ∃ c cs, dotted components = c :: cs ∧ Text.isDigit c = true := by
  cases components with
  | nil => exact absurd rfl some
  | cons run more =>
      have own := solid run List.mem_cons_self
      cases run with
      | nil => exact absurd rfl own.nonempty
      | cons c run => exact ⟨c, _, dotted_cons_cons c run more, own.digits c List.mem_cons_self⟩

/-- Dotted runs hold digits and points, and nothing else. -/
theorem digit_or_point_of_mem_dotted
    {components : List (List Char)}
    (solid : ∀ run ∈ components, IsRun run)
    {c : Char}
    (member : c ∈ dotted components) :
    Text.isDigit c = true ∨ c = '.' := by
  induction components with
  | nil => cases member
  | cons run more inductionHypothesis =>
      have own := (solid run List.mem_cons_self).digits
      by_cases last : more = []
      · subst more
        rw [dotted_singleton] at member
        exact .inl (own c member)
      · rw [dotted_cons last] at member
        rcases List.mem_append.mp member with inRun | behind
        · exact .inl (own c inRun)
        · rcases List.mem_cons.mp behind with point | later
          · exact .inr point
          · exact inductionHypothesis (fun other member =>
              solid other (List.mem_cons_of_mem run member)) later

theorem exists_mark (cs : List Char) : ∃ mark, IsMark mark ∧ cs = mark ++ dropMark cs := by
  unfold dropMark
  split
  · exact ⟨['n'], .inr rfl, rfl⟩
  · exact ⟨[], .inl rfl, rfl⟩

theorem Spells.dropMark_eq
    {cs mark rest : List Char}
    {components : List (List Char)}
    (spells : Spells cs mark components rest) :
    dropMark cs = dotted components ++ rest := by
  obtain ⟨c, tail, head, digit⟩ := exists_head_dotted spells.some spells.solid
  rw [spells.split]
  rcases spells.marked with rfl | rfl
  · rw [head, List.nil_append, List.cons_append]
    unfold dropMark
    split
    next same =>
      obtain ⟨rfl, -⟩ := List.cons.inj same
      exact absurd digit (by decide)
    next => rfl
  · rfl

/-- The runs of a text are what it spells, unless it begins with no digit. -/
theorem exists_spells_iff
    {cs : List Char}
    {components : List (List Char)} :
    (∃ mark rest, Spells cs mark components rest) ↔
      runs (dropMark cs) = components ∧ components.head? ≠ some [] := by
  constructor
  · rintro ⟨mark, rest, spells⟩
    refine ⟨?_, ?_⟩
    · rw [spells.dropMark_eq, runs_dotted spells.some spells.solid spells.ends]
    · intro empty
      exact (spells.solid [] (List.mem_of_head? empty)).nonempty rfl
  · rintro ⟨rfl, headSome⟩
    obtain ⟨mark, marked, split⟩ := exists_mark cs
    obtain ⟨rest, made⟩ := exists_madeOf (dropMark cs)
    obtain ⟨run, more, reads⟩ := exists_runs (dropMark cs)
    rw [reads] at made headSome ⊢
    have runSome : run ≠ [] := by simpa using headSome
    refine ⟨mark, rest, ?_, marked, by simp, ?_, made.ends⟩
    · rw [← made.split, ← split]
    · intro other member
      refine ⟨?_, made.digits other member⟩
      rcases List.mem_cons.mp member with rfl | later
      · exact runSome
      · exact made.solid other later

/-- Blanks around a text take nothing from the release number. -/
theorem Spells.trim
    {cs mark rest before after : List Char}
    {components : List (List Char)}
    (spells : Spells cs mark components rest)
    (blankBefore : ∀ c ∈ before, Text.isBlank c = true)
    (blankAfter : ∀ c ∈ after, Text.isBlank c = true) :
    Spells (Text.trim Text.isBlank (before ++ cs ++ after)) mark components
      (rest.rdropWhile Text.isBlank) := by
  have solid : ∀ c ∈ mark ++ dotted components, Text.isBlank c = false := by
    intro c member
    rcases List.mem_append.mp member with inMark | inNumber
    · rcases spells.marked with rfl | rfl
      · cases inMark
      · obtain rfl := List.mem_singleton.mp inMark
        decide
    · rcases digit_or_point_of_mem_dotted spells.solid inNumber with digit | rfl
      · exact Text.isBlank_of_isDigit digit
      · decide
  have nonempty : mark ++ dotted components ≠ [] := by
    obtain ⟨c, tail, head, -⟩ := exists_head_dotted spells.some spells.solid
    simp [head]
  refine ⟨?_, spells.marked, spells.some, spells.solid,
    spells.ends.of_prefix (List.rdropWhile_prefix _ _)⟩
  rw [Text.trim_surrounded blankBefore blankAfter, spells.split, ← List.append_assoc,
    Text.trim_solid_append nonempty solid, List.append_assoc]

/-! ## Reading -/

/-- The number that a run of digits of any script writes. -/
def componentValue (run : List Char) : Nat :=
  Text.numeral (fun c => (Text.digitValue? c).getD 0) run

theorem readNumeral_eq_ok_iff
    {run : List Char}
    {n : Nat} :
    readNumeral run = .ok n ↔ run.length ≤ digitLimit ∧ componentValue run = n := by
  unfold readNumeral
  split
  next long => simp [Nat.not_le.mpr long]
  next short => simp [Nat.not_lt.mp short, componentValue]

/-- Runs are read one by one, if none is too long. -/
theorem mapM_readNumeral_eq_ok_iff
    {components : List (List Char)}
    {version : Version} :
    components.mapM readNumeral = .ok version ↔
      (∀ run ∈ components, run.length ≤ digitLimit) ∧ components.map componentValue = version := by
  induction components generalizing version with
  | nil => simp [pure, Except.pure]
  | cons run more inductionHypothesis =>
      simp only [List.mapM_cons, bind_eq_ok_iff, readNumeral_eq_ok_iff, inductionHypothesis]
      constructor
      · rintro ⟨_, ⟨short, rfl⟩, _, ⟨shortToo, rfl⟩, joined⟩
        exact ⟨List.forall_mem_cons.mpr ⟨short, shortToo⟩, Except.ok.inj joined⟩
      · rintro ⟨short, rfl⟩
        obtain ⟨own, others⟩ := List.forall_mem_cons.mp short
        exact ⟨_, ⟨own, rfl⟩, _, ⟨others, rfl⟩, rfl⟩

theorem parse_eq (s : String) :
    let components := runs (dropMark (Text.trim Text.isBlank s.toList))
    parse s = if components.head? = some [] then .ok none
      else (components.mapM readNumeral).map some := by
  intro components
  rw [parse]
  split
  next _ _ empty => simp [components, empty]
  next _ something =>
    rw [if_neg]
    intro headNil
    obtain ⟨more, empty⟩ := List.head?_eq_some_iff.mp headNil
    exact something more empty

theorem parse_eq_none_iff
    {s : String} :
    parse s = .ok none ↔
      ∀ mark components rest, ¬ Spells (Text.trim Text.isBlank s.toList) mark components rest := by
  rw [parse_eq]
  split
  next empty =>
    refine iff_of_true rfl ?_
    intro mark components rest spells
    obtain ⟨reads, headSome⟩ := exists_spells_iff.mp ⟨mark, rest, spells⟩
    exact headSome (reads ▸ empty)
  next headSome =>
    obtain ⟨mark, rest, spells⟩ := exists_spells_iff.mpr ⟨rfl, headSome⟩
    refine iff_of_false ?_ fun none => none _ _ _ spells
    simp [map_eq_ok_iff]

theorem parse_eq_some_iff
    {s : String}
    {version : Version} :
    parse s = .ok (some version) ↔
      ∃ mark components rest, Spells (Text.trim Text.isBlank s.toList) mark components rest ∧
        (∀ run ∈ components, run.length ≤ digitLimit) ∧
        components.map componentValue = version := by
  rw [parse_eq]
  split
  next empty =>
    refine iff_of_false (by simp) ?_
    rintro ⟨mark, components, rest, spells, -⟩
    obtain ⟨reads, headSome⟩ := exists_spells_iff.mp ⟨mark, rest, spells⟩
    exact headSome (reads ▸ empty)
  next headSome =>
    simp only [map_eq_ok_iff, Option.some.injEq, exists_eq_right, mapM_readNumeral_eq_ok_iff]
    constructor
    · intro read
      obtain ⟨mark, rest, spells⟩ := exists_spells_iff.mpr ⟨rfl, headSome⟩
      exact ⟨mark, _, rest, spells, read⟩
    · rintro ⟨mark, components, rest, spells, read⟩
      obtain ⟨reads, -⟩ := exists_spells_iff.mp ⟨mark, rest, spells⟩
      rwa [reads]

/-! ## Decimal texts -/

/-- A number is the value of the digits that it is written with. -/
theorem componentValue_toDigits (n : Nat) : componentValue (Nat.toDigits 10 n) = n := by
  have sameValues : ∀ c ∈ Nat.toDigits 10 n,
      (Text.digitValue? c).getD 0 = Text.asciiValue c := by
    intro c member
    have ascii := Nat.isDigit_of_mem_toDigits (by decide) (by decide) member
    rw [Text.digitValue?_of_ascii ascii]
    rfl
  have asAscii : componentValue (Nat.toDigits 10 n) =
      Text.numeral Text.asciiValue (Nat.toDigits 10 n) :=
    List.foldl_ext _ _ 0 fun total c member =>
      congrArg (10 * total + ·) (sameValues c member)
  rw [asAscii, numeral_toDigits]

/-- A release number can be read off a text exactly if the text, without the blanks around it, is
such a number up to a rest that would not go on with it; then the components are the values of the
runs of digits.  So the decimal text of some numbers is read as these numbers, whatever mark, blanks
and rest stand around it. -/
theorem parse_spelled_release (s : String) :
    (∀ version, parse s = .ok (some version) ↔
      ∃ mark components rest, Spells (Text.trim Text.isBlank s.toList) mark components rest ∧
        (∀ run ∈ components, run.length ≤ digitLimit) ∧
        components.map componentValue = version) ∧
      (parse s = .ok none ↔
        ∀ mark components rest,
          ¬ Spells (Text.trim Text.isBlank s.toList) mark components rest) ∧
      ∀ before mark numbers rest after,
        s.toList = before ++ (mark ++ (dotted (numbers.map (Nat.toDigits 10)) ++ rest)) ++ after ->
        (∀ c ∈ before, Text.isBlank c = true) -> (∀ c ∈ after, Text.isBlank c = true) ->
        IsMark mark -> numbers ≠ [] ->
        (∀ n ∈ numbers, (Nat.toDigits 10 n).length ≤ digitLimit) -> Ends rest ->
        parse s = .ok (some numbers) := by
  refine ⟨fun version => parse_eq_some_iff, parse_eq_none_iff, ?_⟩
  intro before mark numbers rest after split blankBefore blankAfter marked some short ends
  have solid : ∀ run ∈ numbers.map (Nat.toDigits 10), IsRun run := by
    intro run member
    obtain ⟨n, -, rfl⟩ := List.mem_map.mp member
    exact ⟨Nat.toDigits_ne_nil, fun _ => Text.isDigit_of_mem_toDigits⟩
  have spells : Spells _ mark (numbers.map (Nat.toDigits 10)) rest :=
    ⟨rfl, marked, by simpa using some, solid, ends⟩
  have values : (numbers.map (Nat.toDigits 10)).map componentValue = numbers := by
    simp [Function.comp_def, componentValue_toDigits]
  rw [parse_eq_some_iff, split]
  exact ⟨mark, _, _, spells.trim blankBefore blankAfter, by simpa using short, values⟩

/-- A package of a distribution tells three numbers, and neither its own nor those of the
distribution count. -/
theorem parse_package_release :
    parse " n4.4.2-0ubuntu0.22.04.1 " = .ok (some [4, 4, 2]) :=
  (parse_spelled_release " n4.4.2-0ubuntu0.22.04.1 ").2.2 [' '] ['n'] [4, 4, 2]
    "-0ubuntu0.22.04.1".toList [' '] (by decide) (List.forall_mem_singleton.mpr (by decide))
    (List.forall_mem_singleton.mpr (by decide)) (by decide) (by decide) (by decide) (by decide)

end Version
end Filtergraph
