import Filtergraph.Data.Numeral
import Filtergraph.Data.Value
import Filtergraph.Number.Reading

/-!
# Reading JSON

A text is cut into tokens, and the tokens drive a machine with a stack of open lists and tables.
Problems that are not errors of grammar, a numeral that is too long and a nesting that is too
deep, are found when the machine meets them, so the first problem of a text is the one reported.
The words `NaN` and `Infinity` are read as numbers, and a repeated name keeps its place and takes
the last value.
-/

namespace Filtergraph
namespace Json

/-- A lexical unit.  What fits no unit is `stray`. -/
inductive Token where
  | openList
  | closeList
  | openTable
  | closeTable
  | comma
  | colon
  | text (s : String)
  | scalar (value : Value)
  | tooLong (numeral : TooLong)
  | stray
  deriving Repr

/-- The number of a hexadecimal digit. -/
def hexValue? (c : Char) : Option Nat :=
  if c.isDigit then some (c.toNat - 48)
  else if 'a' ≤ c && c ≤ 'f' then some (c.toNat - 87)
  else if 'A' ≤ c && c ≤ 'F' then some (c.toNat - 55)
  else none

/-- The number of four hexadecimal digits. -/
def codeUnit? (a b c d : Char) : Option Nat := do
  let a ← hexValue? a
  let b ← hexValue? b
  let c ← hexValue? c
  let d ← hexValue? d
  return ((a * 16 + b) * 16 + c) * 16 + d

/-- The character that a backslash and a letter stand for. -/
def shortEscape? (c : Char) : Option Char :=
  [('"', '"'), ('\\', '\\'), ('/', '/'), ('b', '\x08'), ('f', '\x0c'), ('n', '\n'), ('r', '\r'),
    ('t', '\t')].lookup c

/-- Reads a text after its opening quote, behind what has been read of it in reverse.  Gives the
text and the number of characters up to and including the closing quote. -/
def readText (done : List Char) (count : Nat) : List Char -> Option (String × Nat)
  | [] => none
  | '"' :: _ => some (String.ofList done.reverse, count + 1)
  | '\\' :: 'u' :: a :: b :: c :: d :: '\\' :: 'u' :: e :: f :: g :: h :: rest =>
    match codeUnit? a b c d, codeUnit? e f g h with
    | some high, some low =>
      if 0xD800 ≤ high && high < 0xDC00 && 0xDC00 ≤ low && low < 0xE000 then
        readText (Char.ofNat (0x10000 + (high - 0xD800) * 0x400 + (low - 0xDC00)) :: done)
          (count + 12) rest
      else
        readText (Char.ofNat high :: done) (count + 6) ('\\' :: 'u' :: e :: f :: g :: h :: rest)
    | some unit, none =>
      readText (Char.ofNat unit :: done) (count + 6) ('\\' :: 'u' :: e :: f :: g :: h :: rest)
    | none, _ => none
  | '\\' :: 'u' :: a :: b :: c :: d :: rest =>
    match codeUnit? a b c d with
    | some unit => readText (Char.ofNat unit :: done) (count + 6) rest
    | none => none
  | '\\' :: c :: rest =>
    match shortEscape? c with
    | some plain => readText (plain :: done) (count + 2) rest
    | none => none
  | c :: rest => if c.toNat < 0x20 then none else readText (c :: done) (count + 1) rest
termination_by cs => cs.length

/-- The digits of an integer: a zero alone, or digits that start with another one. -/
def integerDigits : List Char -> List Char
  | '0' :: _ => ['0']
  | cs => cs.takeWhile Char.isDigit

/-- A point and at least one digit, if they stand here. -/
def fractionPart : List Char -> List Char
  | '.' :: rest =>
    let digits := rest.takeWhile Char.isDigit
    if digits = [] then [] else '.' :: digits
  | _ => []

/-- A mark, an optional sign and at least one digit, if they stand here. -/
def exponentPart : List Char -> List Char
  | mark :: rest =>
    if mark = 'e' || mark = 'E' then
      match rest with
      | sign :: digits =>
        if sign = '+' || sign = '-' then
          let digits := digits.takeWhile Char.isDigit
          if digits = [] then [] else mark :: sign :: digits
        else
          let digits := rest.takeWhile Char.isDigit
          if digits = [] then [] else mark :: digits
      | [] => []
    else []
  | [] => []

/-- Reads a number without its sign, and gives the number of its characters. -/
def readNumber (negative : Bool) (cs : List Char) : Token × Nat :=
  let digits := integerDigits cs
  if digits = [] then (.stray, 0)
  else
    let rest := cs.drop digits.length
    let fraction := fractionPart rest
    let exponent := exponentPart (rest.drop fraction.length)
    let count := digits.length + fraction.length + exponent.length
    if fraction = [] && exponent = [] then
      match readNumeral digits with
      | .ok n => (.scalar (.int (if negative then -(n : Int) else n)), count)
      | .error numeral => (.tooLong numeral, count)
    else
      match Double.readUnsigned? (digits ++ fraction ++ exponent) with
      | some (digits, power) => (.scalar (.double (.ofDecimal negative digits power)), count)
      | none => (.stray, count)

/-- The words for values. -/
def words : List (String × Value) :=
  [("null", .null), ("true", .bool true), ("false", .bool false), ("NaN", .double .undefined),
    ("Infinity", .double (.infinite false)), ("-Infinity", .double (.infinite true))]

/-- The word that stands here, if one does. -/
def word? (cs : List Char) : Option (Value × Nat) :=
  words.findSome? fun (word, value) =>
    if word.toList.isPrefixOf cs then some (value, word.length) else none

/-- The token that starts with a character, and how many of the characters behind it belong to
it. -/
def scan (c : Char) (rest : List Char) : Token × Nat :=
  match c with
  | '[' => (.openList, 0)
  | ']' => (.closeList, 0)
  | '\x7b' => (.openTable, 0)
  | '\x7d' => (.closeTable, 0)
  | ',' => (.comma, 0)
  | ':' => (.colon, 0)
  | '"' =>
    match readText [] 0 rest with
    | some (s, count) => (.text s, count)
    | none => (.stray, 0)
  | _ =>
    match word? (c :: rest) with
    | some (value, count) => (.scalar value, count - 1)
    | none =>
      if c = '-' then readNumber true rest
      else
        let (token, count) := readNumber false (c :: rest)
        (token, count - 1)

/-- The blanks between tokens. -/
def isSeparator (c : Char) : Bool :=
  c = ' ' || c = '\t' || c = '\n' || c = '\r'

/-- Why a text has no value. -/
inductive Problem where
  | unreadable
  | tooLong (numeral : TooLong)
  | tooDeep (inList : Bool)
  deriving DecidableEq, Repr

/-- A list or table whose end has not been reached; items and members are kept in reverse. -/
inductive Frame where
  | list (items : List Value)
  | table (members : List (String × Value))
  | member (members : List (String × Value)) (name : String)
  deriving Repr

/-- What may come next. -/
inductive Expectation where
  | value
  | valueOrEnd
  | name
  | nameOrEnd
  | colon (name : String)
  | separator
  | nothing (result : Value)
  deriving Repr

/-- The open lists and tables, the innermost first, and what may come next. -/
structure Machine where
  /-- The open lists and tables. -/
  stack : List Frame := []
  /-- What may come next. -/
  expects : Expectation := .value
  deriving Repr

/-- Gives a name a value: a new name goes to the front, a known one keeps its place. -/
def put (name : String) (value : Value) (members : List (String × Value)) :
    List (String × Value) :=
  if members.any fun member => member.1 == name then
    members.map fun member => if member.1 == name then (name, value) else member
  else (name, value) :: members

namespace Machine

/-- Takes a complete value. -/
def supply (value : Value) : List Frame -> Machine
  | [] => ⟨[], .nothing value⟩
  | .list items :: rest => ⟨.list (value :: items) :: rest, .separator⟩
  | .member members name :: rest => ⟨.table (put name value members) :: rest, .separator⟩
  | .table members :: rest => ⟨.table members :: rest, .separator⟩

/-- Opens a list or a table, unless as many are open already as the limit allows. -/
def enter (depthLimit : Nat) (m : Machine) (inList : Bool) : Except Problem Machine :=
  if depthLimit ≤ m.stack.length then .error (.tooDeep inList)
  else if inList then .ok ⟨.list [] :: m.stack, .valueOrEnd⟩
  else .ok ⟨.table [] :: m.stack, .nameOrEnd⟩

/-- Closes the innermost list or table, if it is of the right kind. -/
def leave (m : Machine) (inList : Bool) : Except Problem Machine :=
  match m.stack, inList with
  | .list items :: rest, true => .ok (supply (.list items.reverse) rest)
  | .table members :: rest, false => .ok (supply (.table members.reverse) rest)
  | _, _ => .error .unreadable

/-- Takes a token where a value may come. -/
def takeValue (depthLimit : Nat) (m : Machine) : Token -> Except Problem Machine
  | .openList => m.enter depthLimit true
  | .openTable => m.enter depthLimit false
  | .text s => .ok (supply (.text s) m.stack)
  | .scalar value => .ok (supply value m.stack)
  | .tooLong numeral => .error (.tooLong numeral)
  | _ => .error .unreadable

/-- Takes a token. -/
def step (depthLimit : Nat) (m : Machine) (token : Token) : Except Problem Machine :=
  match m.expects, token with
  | .value, token => m.takeValue depthLimit token
  | .valueOrEnd, .closeList => m.leave true
  | .valueOrEnd, token => m.takeValue depthLimit token
  | .name, .text s => .ok { m with expects := .colon s }
  | .nameOrEnd, .text s => .ok { m with expects := .colon s }
  | .nameOrEnd, .closeTable => m.leave false
  | .colon name, .colon =>
    match m.stack with
    | .table members :: rest => .ok ⟨.member members name :: rest, .value⟩
    | _ => .error .unreadable
  | .separator, .comma =>
    match m.stack with
    | .list _ :: _ => .ok { m with expects := .value }
    | .table _ :: _ => .ok { m with expects := .name }
    | _ => .error .unreadable
  | .separator, .closeList => m.leave true
  | .separator, .closeTable => m.leave false
  | _, _ => .error .unreadable

/-- The value once every token has been taken. -/
def result (m : Machine) : Except Problem Value :=
  match m.expects with
  | .nothing value => .ok value
  | _ => .error .unreadable

/-- Takes the tokens of a text, one after another. -/
def feed (depthLimit : Nat) (m : Machine) : List Char -> Except Problem Machine
  | [] => .ok m
  | c :: rest =>
    if isSeparator c then m.feed depthLimit rest
    else
      let (token, count) := scan c rest
      match m.step depthLimit token with
      | .ok m => m.feed depthLimit (rest.drop count)
      | .error problem => .error problem
termination_by cs => cs.length
decreasing_by
  · simp only [List.length_cons]
    omega
  · simp only [List.length_cons, List.length_drop]
    omega

end Machine

/-- The value of a text, with no more than a given number of lists and tables inside each other. -/
def read (depthLimit : Nat) (s : String) : Except Problem Value := do
  (← Machine.feed depthLimit {} s.toList).result

end Json
end Filtergraph
