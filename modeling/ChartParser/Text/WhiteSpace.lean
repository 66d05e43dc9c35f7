import ChartParser.Text.CodePoints

/-!
# White space

The characters with the property White_Space: the ASCII blanks and line separators, and the spaces
of other scripts. Zero-width characters are not among them.
-/

namespace ChartParser.Text

/-- The white space code points, in increasing order. -/
def whiteSpaceRanges : List CodeRange :=
  [⟨0x9, 0xD⟩, ⟨0x20, 0x20⟩, ⟨0x85, 0x85⟩, ⟨0xA0, 0xA0⟩, ⟨0x1680, 0x1680⟩, ⟨0x2000, 0x200A⟩,
   ⟨0x2028, 0x2029⟩, ⟨0x202F, 0x202F⟩, ⟨0x205F, 0x205F⟩, ⟨0x3000, 0x3000⟩]

/-- Whether the character is white space. -/
def isWhiteSpace (c : Char) : Bool := inRanges whiteSpaceRanges c

end ChartParser.Text
