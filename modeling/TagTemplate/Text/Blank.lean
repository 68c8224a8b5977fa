import TagTemplate.Text.Ranges

/-!
# White space

The characters with the property White_Space. They separate the lexemes of a tag, the words of
tag markup and the parts of a settings line, and runs of them collapse to one space.
-/

namespace TagTemplate.Text

/-- The intervals of the property White_Space. -/
def blankRanges : CodeRanges :=
  [
    (0x9, 0xD), (0x20, 0x20), (0x85, 0x85), (0xA0, 0xA0), (0x1680, 0x1680), (0x2000, 0x200A),
    (0x2028, 0x2029), (0x202F, 0x202F), (0x205F, 0x205F), (0x3000, 0x3000)]

/-- White space in every script; zero-width spaces are not blank. -/
def isBlank (c : Char) : Bool := blankRanges.contains c.toNat

end TagTemplate.Text
