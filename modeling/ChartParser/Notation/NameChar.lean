import ChartParser.Text.Letter
import ChartParser.Text.Number
import ChartParser.Text.Uppercase

/-!
# Characters of names

A bare name holds letters and numbers of every script, underscores and hyphens. The notation takes
its letters and numbers from Unicode 16. Those that came with Unicode 17, which all other properties
of characters follow, may stand in quoted literals and in sentences, but not in a bare name.
-/

namespace ChartParser.Notation

open Text (CodeRange)

/-- The letters and numbers that came with Unicode 17, in increasing order. -/
def newcomerRanges : List CodeRange :=
  [⟨0x88F, 0x88F⟩, ⟨0xC5C, 0xC5C⟩, ⟨0xCDC, 0xCDC⟩, ⟨0xA7CE, 0xA7CF⟩, ⟨0xA7D2, 0xA7D2⟩,
   ⟨0xA7D4, 0xA7D4⟩, ⟨0xA7F1, 0xA7F1⟩, ⟨0x10940, 0x10959⟩, ⟨0x10EC5, 0x10EC7⟩,
   ⟨0x11DB0, 0x11DDB⟩, ⟨0x11DE0, 0x11DE9⟩, ⟨0x16EA0, 0x16EB8⟩, ⟨0x16EBB, 0x16ED3⟩,
   ⟨0x16FF2, 0x16FF6⟩, ⟨0x187F8, 0x187FF⟩, ⟨0x18D09, 0x18D1E⟩, ⟨0x18D80, 0x18DF2⟩,
   ⟨0x1E6C0, 0x1E6DE⟩, ⟨0x1E6E0, 0x1E6E2⟩, ⟨0x1E6E4, 0x1E6E5⟩, ⟨0x1E6E7, 0x1E6ED⟩,
   ⟨0x1E6F0, 0x1E6F4⟩, ⟨0x1E6FE, 0x1E6FF⟩, ⟨0x2B73A, 0x2B73F⟩, ⟨0x2CEA2, 0x2CEAD⟩,
   ⟨0x323B0, 0x33479⟩]

/-- Whether the character is a letter or number that bare names do not know. -/
def isNewcomer (c : Char) : Bool := Text.inRanges newcomerRanges c

/-- Whether the character may stand in a bare name. -/
def isNameChar (c : Char) : Bool :=
  ((Text.isLetter c || Text.isNumber c) && !isNewcomer c) || c == '_' || c == '-'

/-- Whether the character may start the name of a rule. -/
def isHeadChar (c : Char) : Bool := Text.isUppercaseLetter c && !isNewcomer c

end ChartParser.Notation
