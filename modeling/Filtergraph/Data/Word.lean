import Filtergraph.Data.ValueText

/-!
# Words

A word is a value that has a text, plain as well as quoted.  Names, tools, paths, time limits and
exit statuses are words: they are part of messages, and there is no message without their text.
-/

namespace Filtergraph

/-- A value with its text. -/
structure Word where
  /-- The value. -/
  value : Value
  /-- Its plain form. -/
  plain : String
  /-- Its quoted form. -/
  quoted : String
  /-- The plain form is the one of the value. -/
  plain_eq : value.plain? = some plain
  /-- So is the quoted form. -/
  quoted_eq : value.quoted? = some quoted
  deriving Repr

namespace Word

instance : Coe Word Value := ⟨value⟩

/-- A text as a word. -/
def text (s : String) : Word :=
  ⟨.text s, s, Text.quoted s, rfl, rfl⟩

/-- Null as a word. -/
def null : Word :=
  ⟨.null, nullText, nullText, rfl, rfl⟩

instance : Inhabited Word := ⟨null⟩

/-- An integer of few digits as a word. -/
def int (n : Int) (short : digitCount n ≤ digitLimit := by decide) : Word :=
  have written : integerText? n = some (toString n) :=
    congrArg (·.map Numeral.text) (Numeral.ofInt?_of_short short)
  ⟨.int n, toString n, toString n, written, written⟩

/-- The word of a value, if that has a text. -/
def ofValue? (value : Value) : Option Word :=
  match plain : value.plain?, quoted : value.quoted? with
  | some _, some _ => some ⟨value, _, _, plain, quoted⟩
  | _, _ => none

@[simp] theorem value_text (s : String) : (text s).value = .text s := rfl

@[simp] theorem value_null : null.value = .null := rfl

@[simp] theorem value_int (n : Int) (short : digitCount n ≤ digitLimit) :
    (int n short).value = .int n := rfl

/-- A text is written as it is. -/
@[simp] theorem plain_text (s : String) : (text s).plain = s := rfl

end Word
end Filtergraph
