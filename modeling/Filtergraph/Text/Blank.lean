/-!
# Blank characters

Two classes of blank characters are in use.  White space is the Unicode property of that name.
The wider class adds the four information separators of the control block, and it decides
whether a setting counts as blank.
-/

namespace Filtergraph
namespace Text

/-- First and last code points of the ranges of white space. -/
def whiteSpaceRanges : List (Nat × Nat) := [
  (0x09, 0x0D), (0x20, 0x20), (0x85, 0x85), (0xA0, 0xA0), (0x1680, 0x1680), (0x2000, 0x200A),
  (0x2028, 0x2029), (0x202F, 0x202F), (0x205F, 0x205F), (0x3000, 0x3000)]

/-- The Unicode property White_Space. -/
def isWhiteSpace (c : Char) : Bool :=
  whiteSpaceRanges.any fun range => range.1 ≤ c.toNat && c.toNat ≤ range.2

/-- White space or one of the information separators from U+001C to U+001F. -/
def isBlank (c : Char) : Bool :=
  isWhiteSpace c || (0x1C ≤ c.toNat && c.toNat ≤ 0x1F)

/-- Drops the characters of a class from both ends. -/
def trim (inClass : Char -> Bool) (cs : List Char) : List Char :=
  ((cs.dropWhile inClass).reverse.dropWhile inClass).reverse

/-- Some character of the text is not blank. -/
def hasVisible (s : String) : Bool :=
  s.toList.any fun c => !isBlank c

@[simp] theorem trim_nil (inClass : Char -> Bool) : trim inClass [] = [] := rfl

end Text
end Filtergraph
