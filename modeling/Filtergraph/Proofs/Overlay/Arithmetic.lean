import Filtergraph.Proofs.Text.Marks

/-!
# Arithmetic of the filter language

Coordinates are worked out by the tool, which is not part of this library.  All that is relied on
are the usual rules: a minus may stand in front of an operand, a product binds tighter than sums and
differences, and these are worked out from left to right.  The module gives expressions a value,
says which texts spell them, and tells what becomes of an expression that is written behind a minus:
only what stands before its first sign is subtracted.
-/

namespace Filtergraph

/-- An arithmetic expression.  Parentheses are part of it. -/
inductive Expression where
  | literal (n : Nat)
  | named (name : String)
  | negation (operand : Expression)
  | group (inner : Expression)
  | times (left right : Expression)
  | plus (left right : Expression)
  | minus (left right : Expression)
  deriving DecidableEq, Repr

/-- How tightly the parts of an expression hold together. -/
inductive Binding where
  | factor
  | product
  | sum
  deriving DecidableEq, Repr

/-- A character of words. -/
def isWordCharacter (c : Char) : Bool :=
  c.isAlphanum || c == '_'

/-- A name consists of letters, digits and underscores, and does not begin with a digit. -/
def isName : List Char -> Bool
  | [] => false
  | c :: rest => !c.isDigit && (c :: rest).all isWordCharacter

namespace Expression

/-! ## Values -/

/-- The value of an expression where the variables have the given values. -/
def value (values : String -> Int) : Expression -> Int
  | .literal n => n
  | .named name => values name
  | .negation operand => -operand.value values
  | .group inner => inner.value values
  | .times left right => left.value values * right.value values
  | .plus left right => left.value values + right.value values
  | .minus left right => left.value values - right.value values

/-- The value of what stands before the first sign of an expression. -/
def leading (values : String -> Int) : Expression -> Int
  | .plus left _ => left.leading values
  | .minus left _ => left.leading values
  | expression => expression.value values

/-- The value of what stands behind it, with the signs. -/
def trailing (values : String -> Int) : Expression -> Int
  | .plus left right => left.trailing values + right.value values
  | .minus left right => left.trailing values - right.value values
  | _ => 0

theorem value_eq_leading_add_trailing
    (expression : Expression)
    (values : String -> Int) :
    expression.value values = expression.leading values + expression.trailing values := by
  induction expression with
  | plus left right leftHypothesis _ =>
      simp only [value, leading, trailing, leftHypothesis]
      omega
  | minus left right leftHypothesis _ =>
      simp only [value, leading, trailing, leftHypothesis]
      omega
  | _ => simp [leading, trailing]

/-! ## Texts -/

/-- The texts that spell an expression.  There may be blanks around every factor. -/
inductive Spells : Binding -> Expression -> List Char -> Prop where
  | literal
      {digits : List Char}
      {n : Nat}
      (written : digits ≠ [])
      (all : ∀ c ∈ digits, c.isDigit = true)
      (number : Text.numeral Text.asciiValue digits = n) :
      Spells .factor (.literal n) digits
  | named
      {name : String}
      (wellFormed : isName name.toList = true) :
      Spells .factor (.named name) name.toList
  | negation
      {operand : Expression}
      {text : List Char}
      (spelled : Spells .factor operand text) :
      Spells .factor (.negation operand) ('-' :: text)
  | group
      {inner : Expression}
      {text : List Char}
      (spelled : Spells .sum inner text) :
      Spells .factor (.group inner) ('(' :: (text ++ [')']))
  | blankBefore
      {factor : Expression}
      {text : List Char}
      {c : Char}
      (blank : c.isWhitespace = true)
      (spelled : Spells .factor factor text) :
      Spells .factor factor (c :: text)
  | blankBehind
      {factor : Expression}
      {text : List Char}
      {c : Char}
      (blank : c.isWhitespace = true)
      (spelled : Spells .factor factor text) :
      Spells .factor factor (text ++ [c])
  | product
      {factor : Expression}
      {text : List Char}
      (spelled : Spells .factor factor text) :
      Spells .product factor text
  | times
      {left right : Expression}
      {text textToo : List Char}
      (spelled : Spells .product left text)
      (spelledToo : Spells .factor right textToo) :
      Spells .product (.times left right) (text ++ '*' :: textToo)
  | sum
      {product : Expression}
      {text : List Char}
      (spelled : Spells .product product text) :
      Spells .sum product text
  | plus
      {left right : Expression}
      {text textToo : List Char}
      (spelled : Spells .sum left text)
      (spelledToo : Spells .product right textToo) :
      Spells .sum (.plus left right) (text ++ '+' :: textToo)
  | minus
      {left right : Expression}
      {text textToo : List Char}
      (spelled : Spells .sum left text)
      (spelledToo : Spells .product right textToo) :
      Spells .sum (.minus left right) (text ++ '-' :: textToo)

namespace Spells

/-- A blank in front of an expression is one in front of its first factor. -/
theorem before
    {expression : Expression}
    {text : List Char}
    {c : Char}
    (blank : c.isWhitespace = true) :
    ∀ {binding : Binding},
      Spells binding expression text -> Spells binding expression (c :: text)
  | .factor, spelled => .blankBefore blank spelled
  | .product, .product spelled => .product (.blankBefore blank spelled)
  | .product, .times spelled spelledToo => .times (before blank spelled) spelledToo
  | .sum, .sum spelled => .sum (before blank spelled)
  | .sum, .plus spelled spelledToo => .plus (before blank spelled) spelledToo
  | .sum, .minus spelled spelledToo => .minus (before blank spelled) spelledToo

/-- A blank behind an expression is one behind its last factor. -/
theorem behind
    {expression : Expression}
    {text : List Char}
    {c : Char}
    (blank : c.isWhitespace = true) :
    ∀ {binding : Binding},
      Spells binding expression text -> Spells binding expression (text ++ [c])
  | .factor, spelled => .blankBehind blank spelled
  | .product, .product spelled => .product (.blankBehind blank spelled)
  | .product, .times spelled spelledToo => by
      rw [List.append_assoc]
      exact .times spelled (.blankBehind blank spelledToo)
  | .sum, .sum spelled => .sum (behind blank spelled)
  | .sum, .plus spelled spelledToo => by
      rw [List.append_assoc]
      exact .plus spelled (behind blank spelledToo)
  | .sum, .minus spelled spelledToo => by
      rw [List.append_assoc]
      exact .minus spelled (behind blank spelledToo)

end Spells

/-! ## Behind a minus -/

/-- What an expression becomes when its text is written behind another expression and a minus. -/
def behindMinus : Expression -> Expression -> Expression
  | .plus left right, frame => .plus (left.behindMinus frame) right
  | .minus left right, frame => .minus (left.behindMinus frame) right
  | expression, frame => .minus frame expression

/-- Only what stands before the first sign is subtracted. -/
theorem value_behindMinus
    (expression frame : Expression)
    (values : String -> Int) :
    (expression.behindMinus frame).value values =
      frame.value values - (expression.leading values - expression.trailing values) := by
  induction expression with
  | plus left right leftHypothesis _ =>
      simp only [behindMinus, value, leading, trailing, leftHypothesis]
      omega
  | minus left right leftHypothesis _ =>
      simp only [behindMinus, value, leading, trailing, leftHypothesis]
      omega
  | _ => simp [behindMinus, value, leading, trailing]

/-- No sum or difference is spelled where a product is expected, so that a minus in front of it
subtracts all of it. -/
theorem Spells.behindMinus_eq
    {binding : Binding}
    {expression : Expression}
    {text : List Char}
    (spelled : Spells binding expression text)
    (tight : binding ≠ .sum)
    (frame : Expression) :
    expression.behindMinus frame = .minus frame expression := by
  induction spelled with
  | blankBefore _ _ inductionHypothesis => exact inductionHypothesis tight
  | blankBehind _ _ inductionHypothesis => exact inductionHypothesis tight
  | product _ inductionHypothesis => exact inductionHypothesis Binding.noConfusion
  | sum => exact absurd rfl tight
  | plus => exact absurd rfl tight
  | minus => exact absurd rfl tight
  | _ => rfl

/-- The text behind an expression and a minus spells what the expression becomes there. -/
theorem Spells.behindMinus
    {frame : Expression}
    {frameText : List Char}
    (spelledFrame : Spells .sum frame frameText)
    {expression : Expression} :
    ∀ {text : List Char}, Spells .sum expression text ->
      Spells .sum (expression.behindMinus frame) (frameText ++ '-' :: text)
  | _, .sum spelled => by
      rw [spelled.behindMinus_eq Binding.noConfusion]
      exact .minus spelledFrame spelled
  | _, .plus spelled spelledToo => by
      rw [← List.cons_append, ← List.append_assoc]
      exact .plus (behindMinus spelledFrame spelled) spelledToo
  | _, .minus spelled spelledToo => by
      rw [← List.cons_append, ← List.append_assoc]
      exact .minus (behindMinus spelledFrame spelled) spelledToo

/-! ## Integers -/

/-- The expression that an integer is written as. -/
def ofInt (n : Int) : Expression :=
  if n < 0 then .negation (.literal n.natAbs) else .literal n.natAbs

theorem spells_repr (n : Nat) : Spells .factor (.literal n) n.repr.toList := by
  rw [Nat.toList_repr]
  refine .literal Nat.toDigits_ne_nil ?_ (numeral_toDigits n)
  intro c member
  exact Nat.isDigit_of_mem_toDigits (by decide) (by decide) member

/-- An integer is written as one factor. -/
theorem spells_ofInt (n : Int) : Spells .factor (ofInt n) (toString n).toList := by
  rw [ofInt, Int.toString_eq_repr, Int.repr_eq_if]
  by_cases negative : n < 0
  · have digits : (-n).toNat = n.natAbs := by omega
    rw [if_pos negative, if_neg (by omega), String.toList_append, digits]
    exact .negation (spells_repr n.natAbs)
  · have digits : n.toNat = n.natAbs := by omega
    rw [if_neg negative, if_pos (by omega), digits]
    exact spells_repr n.natAbs

@[simp] theorem value_ofInt (n : Int) (values : String -> Int) : (ofInt n).value values = n := by
  rw [ofInt]
  split <;> simp only [value] <;> omega

/-! ## Rules -/

/-- Texts are worked out by the usual rules: whatever spells an expression has its value. -/
def FollowsRules (evaluate : (String -> Int) -> String -> Option Int) : Prop :=
  ∀ (values : String -> Int) (expression : Expression) (text : String),
    Spells .sum expression text.toList ->
      evaluate values text = some (expression.value values)

end Expression
end Filtergraph
