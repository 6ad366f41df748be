import PixelScript.Text.DefaultIgnorable
import PixelScript.Text.GraphemeExtend
import PixelScript.Text.Unprintable

/-!
# Quoted text

The form in which a message quotes a word: between double quotes, with escapes for whatever could
not be told apart on the screen.
-/

namespace PixelScript.Text.Quoted

/-- An escape by code point: lower-case hexadecimal digits without leading zeros, in braces. -/
def codePoint (c : Char) : List Char :=
  ['\\', 'u', '\x7b'] ++ Nat.toDigits 16 c.toNat ++ ['\x7d']

/-- A character as it stands between the quotes. Quotes and backslashes get a backslash, four
controls have a letter, and what has no shape of its own is named by its code point. -/
def escape (c : Char) : List Char :=
  if c = '\x22' then ['\\', '\x22']
  else if c = '\\' then ['\\', '\\']
  else if c = '\t' then ['\\', 't']
  else if c = '\r' then ['\\', 'r']
  else if c = '\n' then ['\\', 'n']
  else if c = '\x00' then ['\\', '0']
  else if isGraphemeExtend c || isDefaultIgnorable c || isUnprintable c then codePoint c
  else [c]

/-- A text in double quotes. -/
def quote (text : String) : String :=
  String.ofList (['\x22'] ++ text.toList.flatMap escape ++ ['\x22'])

end PixelScript.Text.Quoted
