/-!
# Blanks

The characters that separate the words of a line.
-/

namespace PixelScript.Text

/-- Space, tab, carriage return, line feed, vertical tab and form feed. Other spaces, such as the
no-break space, are part of a word. -/
def isBlank (c : Char) : Bool :=
  c == ' ' || c == '\t' || c == '\r' || c == '\n' || c == '\x0b' || c == '\x0c'

/-- A digit is part of a word, so the digits of a number are never cut apart. The six blanks are
gone through one by one. -/
theorem not_isBlank_of_isDigit {c : Char} (h : c.isDigit) : isBlank c = false := by
  cases hb : isBlank c with
  | false => rfl
  | true =>
    simp only [isBlank, Bool.or_eq_true, beq_iff_eq] at hb
    rcases hb with ((((rfl | rfl) | rfl) | rfl) | rfl) | rfl <;> exact absurd h (by decide)

end PixelScript.Text
