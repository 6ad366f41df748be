import PixelScript.Text.CodePoints

/-!
# Characters shown as nothing

The property Default_Ignorable_Code_Point of Unicode 17: joiners, variation selectors, the Hangul
fillers and the like. The fillers are letters by their general category, so this property alone
tells them from letters that can be seen.
-/

namespace PixelScript.Text

/-- The code points that are shown as nothing, in ascending order. -/
def defaultIgnorable : List (Nat × Nat) := [
  (0x00ad, 0x00ad), (0x034f, 0x034f), (0x061c, 0x061c), (0x115f, 0x1160), (0x17b4, 0x17b5),
  (0x180b, 0x180f), (0x200b, 0x200f), (0x202a, 0x202e), (0x2060, 0x206f), (0x3164, 0x3164),
  (0xfe00, 0xfe0f), (0xfeff, 0xfeff), (0xffa0, 0xffa0), (0xfff0, 0xfff8), (0x1bca0, 0x1bca3),
  (0x1d173, 0x1d17a), (0xe0000, 0xe0fff)]

/-- The character is shown as nothing where the font does not know it. -/
def isDefaultIgnorable (c : Char) : Bool := inRanges defaultIgnorable c

end PixelScript.Text
