/-!
# Classes of characters

A class that a standard lists range by range is kept as the list of its inclusive ranges. The blank
characters are the white space of the Unicode standard together with the four ASCII information
separators. `trim` removes them from both ends of a text and keeps those inside.
-/

set_option autoImplicit false

namespace ZodValidators.Text

/-- Inclusive ranges of code points, in increasing order. -/
abbrev CodeRanges := List (Nat × Nat)

def CodeRanges.has (ranges : CodeRanges) (code : Nat) : Bool :=
  ranges.any fun range => range.1 ≤ code && code ≤ range.2

/-! ## Blank characters -/

def blankRanges : CodeRanges :=
  [(0x09, 0x0D), (0x1C, 0x20), (0x85, 0x85), (0xA0, 0xA0), (0x1680, 0x1680), (0x2000, 0x200A),
   (0x2028, 0x2029), (0x202F, 0x202F), (0x205F, 0x205F), (0x3000, 0x3000)]

def isBlank (character : Char) : Bool := blankRanges.has character.toNat

def trimLeft (characters : List Char) : List Char := characters.dropWhile isBlank

def trim (characters : List Char) : List Char :=
  (trimLeft (trimLeft characters).reverse).reverse

end ZodValidators.Text
