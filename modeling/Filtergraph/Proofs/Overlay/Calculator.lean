import Filtergraph.Proofs.Overlay.Arithmetic

/-!
# A calculator for the filter language

The usual rules can be followed: a calculator takes the words and symbols of a text one after
another, and keeps the total of the terms that are complete together with the factor that the term
at hand contributes so far.  Open parentheses put such a tally aside.
-/

namespace Filtergraph

/-- A word or a symbol of an expression. -/
inductive Token where
  | word (characters : List Char)
  | plus
  | minus
  | times
  | opening
  | closing
  deriving DecidableEq, Repr

namespace Token

/-- The symbol that a character is. -/
def symbol? : Char -> Option Token
  | '+' => some .plus
  | '-' => some .minus
  | '*' => some .times
  | '(' => some .opening
  | ')' => some .closing
  | _ => none

/-- Puts a character in front of tokens, as part of the word that they begin with if they do. -/
def extend (c : Char) : List Token -> List Token
  | .word characters :: rest => .word (c :: characters) :: rest
  | tokens => .word [c] :: tokens

/-- The words and symbols of a text.  Blanks count for nothing. -/
def read : List Char -> List Token
  | [] => []
  | c :: rest =>
    match symbol? c with
    | some token => token :: read rest
    | none => if c.isWhitespace then read rest else extend c (read rest)

theorem symbol_ne_word
    {c : Char}
    {token : Token}
    (symbol : symbol? c = some token)
    (characters : List Char) :
    token ≠ .word characters := by
  rintro rfl
  unfold symbol? at symbol
  split at symbol <;> cases symbol

/-- Blanks are neither symbols nor characters of words. -/
theorem of_blank
    {c : Char}
    (blank : c.isWhitespace = true) :
    symbol? c = none ∧ isWordCharacter c = false := by
  have blanks : c = ' ' ∨ c = '\t' ∨ c = '\r' ∨ c = '\n' := by
    simpa [Char.isWhitespace, or_assoc] using blank
  rcases blanks with rfl | rfl | rfl | rfl <;> decide

/-- No symbol is a character of words. -/
theorem symbol_of_wordCharacter
    {c : Char}
    (inWord : isWordCharacter c = true) :
    symbol? c = none := by
  unfold symbol?
  split
  all_goals first | rfl | cases inWord

/-- A symbol ends the word in front of it. -/
theorem extend_append
    {token : Token}
    (noWord : ∀ characters, token ≠ .word characters)
    (c : Char)
    (tokens rest : List Token) :
    extend c (tokens ++ token :: rest) = extend c tokens ++ token :: rest := by
  cases tokens with
  | nil =>
      cases token with
      | word characters => exact absurd rfl (noWord characters)
      | _ => rfl
  | cons first others => cases first <;> rfl

theorem read_symbol
    {c : Char}
    {token : Token}
    (symbol : symbol? c = some token)
    (rest : List Char) :
    read (c :: rest) = token :: read rest := by
  rw [read, symbol]

theorem read_blank
    {c : Char}
    (blank : c.isWhitespace = true)
    (rest : List Char) :
    read (c :: rest) = read rest := by
  rw [read, (of_blank blank).1]
  exact if_pos blank

/-- What stands in front of a symbol and what stands behind it are read apart. -/
theorem read_append_symbol
    {c : Char}
    {token : Token}
    (symbol : symbol? c = some token)
    (text rest : List Char) :
    read (text ++ c :: rest) = read text ++ token :: read rest := by
  induction text with
  | nil => exact read_symbol symbol rest
  | cons first others inductionHypothesis =>
      rw [List.cons_append, read, read, inductionHypothesis]
      cases symbol? first with
      | some other => rfl
      | none =>
          by_cases blank : first.isWhitespace = true
          · simp only [if_pos blank]
          · simp only [if_neg blank, extend_append (symbol_ne_word symbol)]

theorem read_append_blank
    {c : Char}
    (blank : c.isWhitespace = true)
    (text : List Char) :
    read (text ++ [c]) = read text := by
  induction text with
  | nil => exact read_blank blank []
  | cons first others inductionHypothesis =>
      rw [List.cons_append, read, read, inductionHypothesis]

theorem read_word
    {word : List Char}
    (written : word ≠ [])
    (inWord : ∀ c ∈ word, isWordCharacter c = true) :
    read word = [.word word] := by
  induction word with
  | nil => exact absurd rfl written
  | cons c rest inductionHypothesis =>
      have inWordHere := inWord c List.mem_cons_self
      have noBlank : ¬ c.isWhitespace = true := by
        intro blank
        rw [(of_blank blank).2] at inWordHere
        cases inWordHere
      rw [read, symbol_of_wordCharacter inWordHere]
      dsimp only
      rw [if_neg noBlank]
      cases rest with
      | nil => rfl
      | cons next others =>
          have restInWord := fun d member => inWord d (List.mem_cons_of_mem c member)
          rw [inductionHypothesis (List.cons_ne_nil next others) restInWord, extend]

end Token

/-- The total of the complete terms, and what the term at hand contributes so far. -/
structure Tally where
  /-- The total of the complete terms. -/
  total : Int := 0
  /-- The product of the factors of the term at hand, with its sign. -/
  pending : Int := 1
  deriving DecidableEq, Repr

namespace Tally

/-- The total with the term at hand. -/
def sum (tally : Tally) : Int :=
  tally.total + tally.pending

/-- Takes a factor. -/
def multiply (tally : Tally) (factor : Int) : Tally :=
  { tally with pending := tally.pending * factor }

@[simp] theorem multiply_multiply (tally : Tally) (factor factorToo : Int) :
    (tally.multiply factor).multiply factorToo = tally.multiply (factor * factorToo) := by
  simp only [multiply, Int.mul_assoc]

/-- A factor completes the first term of an expression. -/
@[simp] theorem sum_multiply_initial (factor : Int) :
    (({} : Tally).multiply factor).sum = factor := by
  simp [multiply, sum]

/-- Completes the term at hand, and begins another one with a sign. -/
def next (tally : Tally) (sign : Int) : Tally :=
  ⟨tally.sum, sign⟩

/-- A factor completes the term that a sign begins. -/
@[simp] theorem sum_multiply_next (tally : Tally) (sign factor : Int) :
    ((tally.next sign).multiply factor).sum = tally.sum + sign * factor := rfl

end Tally

/-- A calculator in the middle of an expression. -/
structure Calculator where
  /-- The tallies of the expressions around open parentheses, the innermost first. -/
  outer : List Tally := []
  /-- The tally of the expression at hand. -/
  inner : Tally := {}
  /-- Whether an operand comes next. -/
  awaitsOperand : Bool := true
  deriving DecidableEq, Repr

namespace Calculator

/-- The number that a word stands for. -/
def operand? (values : String -> Int) (word : List Char) : Option Int :=
  if word.all Char.isDigit then some (Text.numeral Text.asciiValue word : Nat)
  else if isName word then some (values (String.ofList word))
  else none

/-- Takes a token where an operand comes next. -/
def takeOperand (values : String -> Int) (c : Calculator) : Token -> Option Calculator
  | .word word =>
    (operand? values word).map fun factor => ⟨c.outer, c.inner.multiply factor, false⟩
  | .minus => some { c with inner := c.inner.multiply (-1) }
  | .opening => some { outer := c.inner :: c.outer }
  | _ => none

/-- Takes a token where an operand has been taken. -/
def takeOperator (c : Calculator) : Token -> Option Calculator
  | .plus => some ⟨c.outer, c.inner.next 1, true⟩
  | .minus => some ⟨c.outer, c.inner.next (-1), true⟩
  | .times => some ⟨c.outer, c.inner, true⟩
  | .closing =>
    match c.outer with
    | [] => none
    | around :: outer => some ⟨outer, around.multiply c.inner.sum, false⟩
  | _ => none

/-- Takes a token. -/
def step (values : String -> Int) (c : Calculator) (token : Token) : Option Calculator :=
  if c.awaitsOperand then c.takeOperand values token else c.takeOperator token

/-- The value of a complete expression. -/
def result? (c : Calculator) : Option Int :=
  if c.awaitsOperand || !c.outer.isEmpty then none else some c.inner.sum

/-- The value of a text, if it is an expression. -/
def evaluate (values : String -> Int) (text : String) : Option Int := do
  let c ← (Token.read text.toList).foldlM (step values) {}
  c.result?

/-! ## The rules are followed -/

variable {values : String -> Int}

theorem wordCharacter_of_digit
    {c : Char}
    (digit : c.isDigit = true) :
    isWordCharacter c = true := by
  simp [isWordCharacter, Char.isAlphanum, digit]

theorem operand_of_digits
    {digits : List Char}
    (all : ∀ c ∈ digits, c.isDigit = true) :
    operand? values digits = some ((Text.numeral Text.asciiValue digits : Nat) : Int) := by
  rw [operand?, if_pos (List.all_eq_true.mpr all)]

theorem operand_of_name
    {name : String}
    (wellFormed : isName name.toList = true) :
    operand? values name.toList = some (values name) := by
  have first : name.toList.all Char.isDigit = false := by
    cases characters : name.toList with
    | nil => simp [characters, isName] at wellFormed
    | cons c rest =>
        rw [characters, isName] at wellFormed
        simp_all
  rw [operand?, if_neg (by simp [first]), if_pos wellFormed, String.ofList_toList]

theorem ne_nil_of_isName
    {name : List Char}
    (wellFormed : isName name = true) :
    name ≠ [] := by
  rintro rfl
  cases wellFormed

theorem inWord_of_isName
    {name : List Char}
    (wellFormed : isName name = true) :
    ∀ c ∈ name, isWordCharacter c = true := by
  cases name with
  | nil => cases wellFormed
  | cons c rest =>
      rw [isName, Bool.and_eq_true] at wellFormed
      exact List.all_eq_true.mp wellFormed.2

/-- What becomes of a tally when an expression has been taken. -/
def advance (values : String -> Int) : Expression -> Tally -> Tally
  | .literal n, tally => tally.multiply n
  | .named name, tally => tally.multiply (values name)
  | .negation operand, tally => advance values operand (tally.multiply (-1))
  | .group inner, tally => tally.multiply (advance values inner {}).sum
  | .times left right, tally => advance values right (advance values left tally)
  | .plus left right, tally => advance values right ((advance values left tally).next 1)
  | .minus left right, tally => advance values right ((advance values left tally).next (-1))

/-- A calculator takes a whole expression in place of an operand. -/
theorem foldlM_read
    {binding : Binding}
    {expression : Expression}
    {text : List Char}
    (spelled : expression.Spells binding text)
    (outer : List Tally)
    (tally : Tally) :
    (Token.read text).foldlM (step values) ⟨outer, tally, true⟩ =
      some ⟨outer, advance values expression tally, false⟩ := by
  induction spelled generalizing outer tally with
  | literal written all number =>
      rw [Token.read_word written fun c member => wordCharacter_of_digit (all c member)]
      simp [step, takeOperand, operand_of_digits all, number, advance]
  | named wellFormed =>
      rw [Token.read_word (ne_nil_of_isName wellFormed) (inWord_of_isName wellFormed)]
      simp [step, takeOperand, operand_of_name wellFormed, advance]
  | negation _ inductionHypothesis =>
      rw [Token.read_symbol rfl, List.foldlM_cons]
      exact inductionHypothesis outer (tally.multiply (-1))
  | group _ inductionHypothesis =>
      rw [Token.read_symbol rfl, Token.read_append_symbol rfl, List.foldlM_cons]
      simp only [step, takeOperand, if_true, Option.bind_eq_bind, Option.bind_some,
        List.foldlM_append, inductionHypothesis]
      rfl
  | blankBefore blank _ inductionHypothesis =>
      rw [Token.read_blank blank]
      exact inductionHypothesis outer tally
  | blankBehind blank _ inductionHypothesis =>
      rw [Token.read_append_blank blank]
      exact inductionHypothesis outer tally
  | product _ inductionHypothesis => exact inductionHypothesis outer tally
  | sum _ inductionHypothesis => exact inductionHypothesis outer tally
  | times _ _ inductionHypothesis inductionHypothesisToo =>
      rw [Token.read_append_symbol rfl, List.foldlM_append, inductionHypothesis]
      exact inductionHypothesisToo outer _
  | plus _ _ inductionHypothesis inductionHypothesisToo =>
      rw [Token.read_append_symbol rfl, List.foldlM_append, inductionHypothesis]
      exact inductionHypothesisToo outer _
  | minus _ _ inductionHypothesis inductionHypothesisToo =>
      rw [Token.read_append_symbol rfl, List.foldlM_append, inductionHypothesis]
      exact inductionHypothesisToo outer _

/-- A factor or product is multiplied into the term at hand; a whole expression leaves its value. -/
theorem advance_of_spells
    {binding : Binding}
    {expression : Expression}
    {text : List Char}
    (spelled : expression.Spells binding text) :
    (binding ≠ .sum -> ∀ tally,
      advance values expression tally = tally.multiply (expression.value values)) ∧
    (binding = .sum -> (advance values expression {}).sum = expression.value values) := by
  induction spelled with
  | literal => exact ⟨fun _ _ => rfl, Binding.noConfusion⟩
  | named => exact ⟨fun _ _ => rfl, Binding.noConfusion⟩
  | negation _ inductionHypothesis =>
      refine ⟨fun tight tally => ?_, Binding.noConfusion⟩
      simp [advance, inductionHypothesis.1 tight, Expression.value]
  | group _ inductionHypothesis =>
      refine ⟨fun _ tally => ?_, Binding.noConfusion⟩
      rw [advance, inductionHypothesis.2 rfl, Expression.value]
  | blankBefore _ _ inductionHypothesis => exact inductionHypothesis
  | blankBehind _ _ inductionHypothesis => exact inductionHypothesis
  | product _ inductionHypothesis =>
      exact ⟨fun _ => inductionHypothesis.1 Binding.noConfusion, Binding.noConfusion⟩
  | times _ _ inductionHypothesis inductionHypothesisToo =>
      refine ⟨fun tight tally => ?_, Binding.noConfusion⟩
      rw [advance, inductionHypothesis.1 tight, inductionHypothesisToo.1 Binding.noConfusion,
        Tally.multiply_multiply, Expression.value]
  | sum _ inductionHypothesis =>
      refine ⟨fun tight => absurd rfl tight, fun _ => ?_⟩
      rw [inductionHypothesis.1 Binding.noConfusion, Tally.sum_multiply_initial]
  | plus _ _ inductionHypothesis inductionHypothesisToo =>
      refine ⟨fun tight => absurd rfl tight, fun _ => ?_⟩
      rw [advance, inductionHypothesisToo.1 Binding.noConfusion, Tally.sum_multiply_next,
        inductionHypothesis.2 rfl, Int.one_mul, Expression.value]
  | minus _ _ inductionHypothesis inductionHypothesisToo =>
      refine ⟨fun tight => absurd rfl tight, fun _ => ?_⟩
      rw [advance, inductionHypothesisToo.1 Binding.noConfusion, Tally.sum_multiply_next,
        inductionHypothesis.2 rfl, Int.neg_one_mul, ← Int.sub_eq_add_neg, Expression.value]

/-- Calculators follow the usual rules. -/
theorem followsRules_evaluate : Expression.FollowsRules evaluate := by
  intro values expression text spelled
  rw [evaluate, foldlM_read spelled]
  exact congrArg some ((advance_of_spells spelled).2 rfl)

example : evaluate (fun _ => 7) "2 * (3 - x)" = some (-8) := by decide

end Calculator
end Filtergraph
