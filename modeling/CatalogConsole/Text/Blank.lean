import CatalogConsole.Text.CodeRange

/-! # Blanks

Two sets of characters count as blank.  `isBlank` is the property White_Space of the Unicode
Standard.  `isLayout` adds the four information separators U+001C to U+001F, which some text
formats skip together with the blanks.  `trimmed` and `rightTrimmed` cut such characters from the
ends of a text.
-/
namespace CatalogConsole.Text

/-- The code points with the property White_Space. -/
def blankRanges : List CodeRange :=
  [⟨0x09, 0x0d⟩, ⟨0x20, 0x20⟩, ⟨0x85, 0x85⟩, ⟨0xa0, 0xa0⟩, ⟨0x1680, 0x1680⟩, ⟨0x2000, 0x200a⟩,
   ⟨0x2028, 0x2029⟩, ⟨0x202f, 0x202f⟩, ⟨0x205f, 0x205f⟩, ⟨0x3000, 0x3000⟩]

/-- A character with the property White_Space. -/
def isBlank (c : Char) : Bool :=
  inRanges blankRanges c

/-- A blank or one of the four information separators. -/
def isLayout (c : Char) : Bool :=
  isBlank c || (⟨0x1c, 0x1f⟩ : CodeRange).contains c

/-- The text without the characters at its end that satisfy `p`. -/
def rightTrimmed (p : Char → Bool) (s : List Char) : List Char :=
  (s.reverse.dropWhile p).reverse

/-- The text without the characters at its two ends that satisfy `p`. -/
def trimmed (p : Char → Bool) (s : List Char) : List Char :=
  rightTrimmed p (s.dropWhile p)

end CatalogConsole.Text
