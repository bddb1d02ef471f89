import Mathlib.Data.List.DropRight
import Filtergraph.Text.Blank
import Filtergraph.Text.Digit

/-!
# Blanks around texts, and texts that can be seen

No digit is blank, so that numbers can be seen wherever they are written, and trimming a text leaves
what stands between its first and its last digit.
-/

namespace Filtergraph
namespace Text

/-! ## Digits -/

/-- A digit belongs to one of the runs of ten digits. -/
theorem exists_zero_of_isDigit
    {c : Char}
    (digit : isDigit c = true) :
    ∃ least ∈ digitZeros, least ≤ c.toNat ∧ c.toNat < least + 10 := by
  rw [isDigit, digitValue?, Option.isSome_map, List.find?_isSome] at digit
  simpa using digit

/-- The digits of each script stand apart from all blanks. -/
theorem zeros_apart_from_blanks :
    ∀ least ∈ digitZeros, ∀ range ∈ (0x1C, 0x1F) :: whiteSpaceRanges,
      range.2 < least ∨ least + 10 ≤ range.1 := by
  decide

/-- No digit is blank. -/
theorem isBlank_of_isDigit
    {c : Char}
    (digit : isDigit c = true) :
    isBlank c = false := by
  obtain ⟨least, member, atLeast, below⟩ := exists_zero_of_isDigit digit
  have apart := zeros_apart_from_blanks least member
  rw [isBlank, isWhiteSpace, Bool.or_eq_false_iff, List.any_eq_false]
  constructor
  · intro range inRanges
    have outside := apart range (List.mem_cons_of_mem _ inRanges)
    simp only [Bool.and_eq_true, decide_eq_true_eq]
    omega
  · have outside := apart (0x1C, 0x1F) List.mem_cons_self
    simp only [Bool.and_eq_false_iff, decide_eq_false_iff_not]
    omega

/-- No character between the blank and the first blank beyond it is blank. -/
theorem isBlank_of_graphic
    {c : Char}
    (above : 0x20 < c.toNat)
    (below : c.toNat < 0x85) :
    isBlank c = false := by
  simp [isBlank, isWhiteSpace, whiteSpaceRanges]
  omega

/-- The digits from `0` to `9` come first among the digits of all scripts. -/
theorem digitValue?_of_ascii
    {c : Char}
    (digit : c.isDigit = true) :
    digitValue? c = some (asciiValue c) := by
  have range : 48 ≤ c.toNat ∧ c.toNat < 48 + 10 := by
    have bounds : 48 ≤ c.toNat ∧ c.toNat ≤ 57 := Char.isDigit_iff_toNat.mp digit
    omega
  have first : digitZeros.find? (fun start => start ≤ c.toNat && c.toNat < start + 10) =
      some 48 := by
    rw [digitZeros, List.find?_cons_of_pos (by simpa using range)]
  rw [digitValue?, first, asciiValue, if_pos digit]
  rfl

/-- Numbers are written with digits. -/
theorem isDigit_of_mem_toDigits
    {n : Nat}
    {c : Char}
    (member : c ∈ Nat.toDigits 10 n) :
    isDigit c = true := by
  have ascii := Nat.isDigit_of_mem_toDigits (by decide) (by decide) member
  rw [isDigit, digitValue?_of_ascii ascii]
  rfl

/-! ## Trimming -/

/-- What surrounds a text is trimmed. -/
theorem trim_surrounded
    {inClass : Char -> Bool}
    {before after : List Char}
    (blankBefore : ∀ c ∈ before, inClass c = true)
    (blankAfter : ∀ c ∈ after, inClass c = true)
    (cs : List Char) :
    trim inClass (before ++ cs ++ after) = trim inClass cs := by
  have blankReversed : ∀ c ∈ after.reverse, inClass c = true := by simpa using blankAfter
  rw [trim, List.append_assoc, List.dropWhile_append_of_pos blankBefore, List.dropWhile_append]
  split
  next none =>
    have nothing : cs.dropWhile inClass = [] := List.isEmpty_iff.mp none
    rw [List.dropWhile_eq_nil_iff.mpr blankAfter, trim, nothing]
  next =>
    rw [List.reverse_append, List.dropWhile_append_of_pos blankReversed]
    rfl

/-- A text that begins with characters outside of a class is trimmed only behind them. -/
theorem trim_solid_append
    {inClass : Char -> Bool}
    {lead : List Char}
    (nonempty : lead ≠ [])
    (solid : ∀ c ∈ lead, inClass c = false)
    (rest : List Char) :
    trim inClass (lead ++ rest) = lead ++ rest.rdropWhile inClass := by
  have kept (cs : List Char) (outside : ∀ c ∈ cs, inClass c = false) (other : List Char)
      (something : cs ≠ []) : (cs ++ other).dropWhile inClass = cs ++ other := by
    cases cs with
    | nil => exact absurd rfl something
    | cons c cs => simp [outside c List.mem_cons_self]
  have keptBehind : lead.reverse.dropWhile inClass = lead.reverse := by
    simpa using kept lead.reverse (by simpa using solid) [] (by simpa using nonempty)
  rw [trim, kept lead solid rest nonempty, List.reverse_append, List.dropWhile_append, keptBehind]
  split
  next none =>
    have nothing : rest.rdropWhile inClass = [] := by
      rw [List.rdropWhile, List.isEmpty_iff.mp none, List.reverse_nil]
    rw [nothing, List.reverse_reverse, List.append_nil]
  next => rw [List.reverse_append, List.reverse_reverse, List.rdropWhile]

/-! ## Visible characters -/

theorem hasVisible_iff
    {s : String} :
    hasVisible s = true ↔ ∃ c ∈ s.toList, isBlank c = false := by
  simp [hasVisible]

/-- A text can be seen if one of its parts can. -/
@[simp] theorem hasVisible_append (s t : String) :
    hasVisible (s ++ t) = (hasVisible s || hasVisible t) := by
  rw [hasVisible, String.toList_append, List.any_append, hasVisible, hasVisible]

/-- Digits can be seen. -/
theorem hasVisible_repr (n : Nat) : hasVisible n.repr = true := by
  obtain ⟨c, cs, digits⟩ := List.exists_cons_of_ne_nil (Nat.toDigits_ne_nil (n := n) (b := 10))
  have member : c ∈ Nat.toDigits 10 n := digits ▸ List.mem_cons_self
  refine hasVisible_iff.mpr ⟨c, ?_, isBlank_of_isDigit (isDigit_of_mem_toDigits member)⟩
  rwa [Nat.toList_repr]

theorem hasVisible_toString (n : Int) : hasVisible (toString n) = true := by
  rw [Int.toString_eq_repr, Int.repr_eq_if]
  split
  · exact hasVisible_repr _
  · simp [hasVisible_repr]

end Text
end Filtergraph
