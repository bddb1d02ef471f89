import Filtergraph.Data.Value

/-!
# Comparing values

Numbers and truth values are compared by value, texts and lists lexicographically.  Values of
different types are never equal, and asking for their order is an error.  Tables are equal when
they give the same names equal values, in whatever order, and records when they are of one kind
and agree field by field.
-/

namespace Filtergraph

/-- Equality of operands: numbers by value, texts character by character. -/
def Operand.same : Operand -> Operand -> Bool
  | .text s, .text t => s == t
  | .int n, .int m => n == m
  | .int n, .double y => Number.equal (.int n) (.double y)
  | .double x, .int m => Number.equal (.double x) (.int m)
  | .double x, .double y => Number.equal (.double x) (.double y)
  | _, _ => false

/-- Equality of settings that may be absent. -/
def sameOption (same : α -> α -> Bool) : Option α -> Option α -> Bool
  | none, none => true
  | some a, some b => same a b
  | _, _ => false

/-- Equality of doubles by value. -/
def Double.same (x y : Double) : Bool :=
  Number.equal (.double x) (.double y)

/-- Equality of records. -/
def Record.same : Record -> Record -> Bool
  | .placement p, .placement q =>
    p.position == q.position && sameOption Operand.same p.x q.x &&
      sameOption Operand.same p.y q.y && sameOption Operand.same p.top q.top &&
      sameOption Operand.same p.bottom q.bottom && sameOption Operand.same p.left q.left &&
      sameOption Operand.same p.right q.right
  | .size s, .size t => s == t
  | .window v, .window w =>
    sameOption Operand.same v.start w.start && sameOption Operand.same v.finish w.finish
  | .encoding d, .encoding e => d == e
  | .video v, .video w => v == w
  | .media m, .media n => m == n
  | .asset a, .asset b =>
    a.path == b.path && a.width == b.width && a.height == b.height &&
      sameOption Double.same a.duration b.duration
  | .result r, .result s => r == s
  | _, _ => false

namespace Value

mutual

/-- Equality of values. -/
def same : Value -> Value -> Bool
  | .null, .null => true
  | .text s, .text t => s == t
  | .list xs, .list ys => sameItems xs ys
  | .table xs, .table ys => xs.length == ys.length && sameMembers xs ys
  | .record r, .record s => r.same s
  | x, y =>
    match x.number?, y.number? with
    | some a, some b => a.equal b
    | _, _ => false

/-- Equality of lists, item by item. -/
def sameItems : List Value -> List Value -> Bool
  | [], [] => true
  | x :: xs, y :: ys => same x y && sameItems xs ys
  | _, _ => false

/-- Every member has an equal one of its name among the others. -/
def sameMembers : List (String × Value) -> List (String × Value) -> Bool
  | [], _ => true
  | (name, x) :: xs, ys =>
    (match member? name ys with
      | some y => same x y
      | none => false) && sameMembers xs ys

end

/-- Two values that have no order, by the names of their types. -/
structure Unordered where
  /-- The type on the left. -/
  left : String
  /-- The type on the right. -/
  right : String
  deriving DecidableEq, Repr

mutual

/-- Whether the first value comes before the second. -/
def before : Value -> Value -> Except Unordered Bool
  | .text s, .text t => .ok (s < t)
  | .list xs, .list ys => beforeItems xs ys
  | x, y =>
    match x.number?, y.number? with
    | some a, some b => .ok (a.less b)
    | _, _ => .error ⟨x.typeName, y.typeName⟩

/-- The order of lists is that of their first items that differ, or of their lengths. -/
def beforeItems : List Value -> List Value -> Except Unordered Bool
  | [], ys => .ok (!ys.isEmpty)
  | _ :: _, [] => .ok false
  | x :: xs, y :: ys => if same x y then beforeItems xs ys else before x y

end

end Value
end Filtergraph
