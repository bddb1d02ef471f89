import Filtergraph.Data.Numeral
import Mathlib.Algebra.Group.Int.Defs
import Mathlib.Algebra.Group.Nat.Defs

/-!
# Marks and numerals

A text that is made of two parts can be taken apart at its first mark, if the first part holds no
mark and the second one begins with one.  Numbers are written with digits and a sign, so that
whatever else is a mark ends them, and no two numbers are written alike.
-/

namespace Filtergraph

/-! ## Marks -/

/-- No character of the text is a mark. -/
def FreeOf (marks : List Char) (s : String) : Prop :=
  ∀ c ∈ s.toList, c ∉ marks

instance (marks : List Char) (s : String) : Decidable (FreeOf marks s) :=
  List.decidableBAll (fun c => c ∉ marks) s.toList

/-- The text begins with a mark. -/
def BeginsWith (marks : List Char) (s : String) : Prop :=
  ∃ c rest, s.toList = c :: rest ∧ c ∈ marks

section Marks

variable {marks : List Char}
variable {head headToo tail tailToo : String}

theorem FreeOf.append (free : FreeOf marks head) (freeToo : FreeOf marks tail) :
    FreeOf marks (head ++ tail) := by
  intro c member
  rw [String.toList_append] at member
  rcases List.mem_append.mp member with inHead | inTail
  · exact free c inHead
  · exact freeToo c inTail

theorem BeginsWith.append (begins : BeginsWith marks head) (tail : String) :
    BeginsWith marks (head ++ tail) := by
  obtain ⟨c, rest, start, mark⟩ := begins
  refine ⟨c, rest ++ tail.toList, ?_, mark⟩
  rw [String.toList_append, start, List.cons_append]

/-- The part before the first mark. -/
theorem takeWhile_of_freeOf (free : FreeOf marks head) (begins : BeginsWith marks tail) :
    (head ++ tail).toList.takeWhile (fun c => decide (c ∉ marks)) = head.toList := by
  obtain ⟨c, rest, start, mark⟩ := begins
  have unmarked : ∀ c ∈ head.toList, decide (c ∉ marks) = true := by
    intro c member
    exact decide_eq_true (free c member)
  rw [String.toList_append, List.takeWhile_append_of_pos unmarked, start,
    List.takeWhile_cons_of_neg (by simpa using mark), List.append_nil]

/-- Texts that are taken apart at their first marks are the same only if their parts are. -/
theorem eq_of_marks
    (free : FreeOf marks head)
    (freeToo : FreeOf marks headToo)
    (begins : BeginsWith marks tail)
    (beginsToo : BeginsWith marks tailToo)
    (same : head ++ tail = headToo ++ tailToo) :
    head = headToo ∧ tail = tailToo := by
  have sameHead : head = headToo := by
    apply String.toList_inj.mp
    rw [← takeWhile_of_freeOf free begins, same, takeWhile_of_freeOf freeToo beginsToo]
  rw [sameHead] at same
  exact ⟨sameHead, (String.append_right_inj headToo).mp same⟩

end Marks

/-! ## Numerals -/

/-- The digit of a number below ten has that number for its value. -/
theorem asciiValue_digitChar (d : Nat) (digit : d < 10) : Text.asciiValue d.digitChar = d := by
  revert d
  decide

/-- A number is read back from the digits that it is written with. -/
theorem numeral_toDigits (n : Nat) : Text.numeral Text.asciiValue (Nat.toDigits 10 n) = n := by
  induction n using Nat.strongRecOn with
  | ind n inductionHypothesis =>
      by_cases single : n < 10
      · rw [Nat.toDigits_of_lt_base single]
        simpa [Text.numeral] using asciiValue_digitChar n single
      · have shorter := inductionHypothesis (n / 10) (by omega)
        have last := asciiValue_digitChar (n % 10) (by omega)
        rw [Nat.toDigits_of_base_le (by decide) (by omega), Text.numeral_concat, shorter, last]
        omega

/-- An integer has at most a given number of digits if it lies below that power of ten. -/
theorem digitCount_le_iff
    {n : Int}
    {k : Nat}
    (positive : 0 < k) :
    digitCount n ≤ k ↔ n.natAbs < 10 ^ k :=
  Nat.length_toDigits_le_iff (by decide) positive

/-- A power of ten has more digits than its exponent tells. -/
theorem lt_digitCount_pow
    {k : Nat}
    (positive : 0 < k) :
    k < digitCount (10 ^ k) := by
  rw [← Nat.not_le, digitCount_le_iff positive, Int.natAbs_pow]
  exact Nat.lt_irrefl _

/-- Different numbers are written differently. -/
theorem nat_eq_of_repr
    {n m : Nat}
    (same : n.repr = m.repr) :
    n = m := by
  have sameDigits := congrArg String.toList same
  rw [Nat.toList_repr, Nat.toList_repr] at sameDigits
  rw [← numeral_toDigits n, sameDigits, numeral_toDigits]

/-- A number is written with nothing but digits. -/
theorem freeOf_repr
    {mark : Char}
    (noDigit : mark.isDigit = false)
    (n : Nat) :
    FreeOf [mark] n.repr := by
  intro c member isMark
  obtain rfl := List.mem_singleton.mp isMark
  rw [Nat.toList_repr] at member
  rw [Nat.isDigit_of_mem_toDigits (by decide) (by decide) member] at noDigit
  cases noDigit

/-- An integer is written with nothing but digits and a sign. -/
theorem freeOf_toString
    {mark : Char}
    (noDigit : mark.isDigit = false)
    (noSign : mark ≠ '-')
    (n : Int) :
    FreeOf [mark] (toString n) := by
  have sign : FreeOf [mark] "-" := by
    intro c member
    obtain rfl : c = '-' := List.mem_singleton.mp member
    simpa using noSign.symm
  rw [Int.toString_eq_repr, Int.repr_eq_if]
  split
  · exact freeOf_repr noDigit _
  · exact sign.append (freeOf_repr noDigit _)

/-- A number is written without a sign. -/
theorem repr_ne_minus (n : Nat) (s : String) : n.repr ≠ "-" ++ s := by
  intro same
  have unsigned : FreeOf ['-'] n.repr := freeOf_repr (by decide) n
  have sign : '-' ∈ n.repr.toList := by
    rw [same, String.toList_append]
    exact List.mem_append_left _ List.mem_cons_self
  exact unsigned '-' sign List.mem_cons_self

/-- Different integers are written differently. -/
theorem int_eq_of_toString
    {n m : Int}
    (same : toString n = toString m) :
    n = m := by
  rw [Int.toString_eq_repr, Int.toString_eq_repr, Int.repr_eq_if, Int.repr_eq_if] at same
  split at same
  · split at same
    · have sameNumber := nat_eq_of_repr same
      omega
    · exact absurd same (repr_ne_minus _ _)
  · split at same
    · exact absurd same.symm (repr_ne_minus _ _)
    · have sameNumber := nat_eq_of_repr ((String.append_right_inj "-").mp same)
      omega

end Filtergraph
