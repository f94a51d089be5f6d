import TypeStub.Text.CodePoints

/-!
# Blank characters

The characters that separate tokens and belong to none: spaces of every width,
tabulators, the line ends of ASCII and Unicode, and the four ASCII separators
from U+001C to U+001F.
-/

namespace TypeStub
namespace Text

def blankRanges : List (Nat × Nat) :=
  [(0x0009, 0x000D), (0x001C, 0x0020), (0x0085, 0x0085), (0x00A0, 0x00A0), (0x1680, 0x1680),
    (0x2000, 0x200A), (0x2028, 0x2029), (0x202F, 0x202F), (0x205F, 0x205F), (0x3000, 0x3000)]

/-- Whether a character only separates others. -/
def isBlank (c : Char) : Bool := covers blankRanges c.toNat

theorem ascendFrom_blankRanges : ascendFrom 0 blankRanges = true := by decide

end Text
end TypeStub
