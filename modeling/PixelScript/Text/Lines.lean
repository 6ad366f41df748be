/-!
# Lines

A text is cut into lines at its line feeds. A carriage return right before a line feed belongs to
the line's end; what follows the last line feed is a line only if it is not empty, and keeps its
carriage return. The same cut is made in characters and in bytes, so it is written for any alphabet
in which the two marks are known.

`lines_of_not_mem` and `lines_append_cons` say what the lines are.
-/

namespace PixelScript.Text

/-- The two characters that can end a line. -/
structure LineMarks (α : Type) where
  lineFeed : α
  carriageReturn : α

/-- The marks in a text of characters. -/
def LineMarks.chars : LineMarks Char := ⟨'\n', '\r'⟩

/-- The marks in a text of bytes. No other character has one of these bytes in its encoding. -/
def LineMarks.bytes : LineMarks UInt8 := ⟨10, 13⟩

namespace LineMarks

variable {α : Type} [DecidableEq α] (m : LineMarks α)

/-- A reversed line without the carriage return at its end, if it has one there. -/
def dropReturn : List α → List α
  | [] => []
  | a :: rest => if a = m.carriageReturn then rest else a :: rest

/-- The lines of a text that follows the unfinished line `pending`, which is kept reversed. -/
def linesAfter : List α → List α → List (List α)
  | pending, [] => if pending.isEmpty then [] else [pending.reverse]
  | pending, a :: rest =>
    if a = m.lineFeed then (m.dropReturn pending).reverse :: linesAfter [] rest
    else linesAfter (a :: pending) rest

/-- The lines of a text, without their ends. -/
def lines (text : List α) : List (List α) := m.linesAfter [] text

/-! ### What the lines are

Everything about lines follows from two facts: what becomes of a text without a line feed, and what
becomes of a text up to its first one. Each is stated first for a line that is already pending,
which is what the induction needs, and then for a text from its beginning. -/

/-- Without a line feed ahead, whatever is pending and whatever follows are one last line, unless
both are empty. Induction on what lies ahead, with anything pending. -/
theorem linesAfter_of_not_mem {text : List α} (h : m.lineFeed ∉ text) (pending : List α) :
    m.linesAfter pending text =
      if (pending.reverse ++ text).isEmpty then [] else [pending.reverse ++ text] := by
  induction text generalizing pending with
  | nil => simp [linesAfter]
  | cons a rest ih =>
    obtain ⟨ha, hr⟩ : m.lineFeed ≠ a ∧ m.lineFeed ∉ rest := by simpa using h
    rw [linesAfter, if_neg (Ne.symm ha), ih hr]
    simp

/-- Up to the next line feed everything belongs to the line that is pending. That line is then
finished, without a carriage return at its end, and nothing is pending behind it. -/
theorem linesAfter_append_cons {line : List α} (h : m.lineFeed ∉ line) (pending rest : List α) :
    m.linesAfter pending (line ++ m.lineFeed :: rest) =
      (m.dropReturn (line.reverse ++ pending)).reverse :: m.lines rest := by
  induction line generalizing pending with
  | nil => simp [linesAfter, lines]
  | cons a line ih =>
    obtain ⟨ha, hl⟩ : m.lineFeed ≠ a ∧ m.lineFeed ∉ line := by simpa using h
    rw [List.cons_append, linesAfter, if_neg (Ne.symm ha), ih hl]
    simp

/-- A text without a line feed is one line, or none if it is empty. -/
theorem lines_of_not_mem {text : List α} (h : m.lineFeed ∉ text) :
    m.lines text = if text.isEmpty then [] else [text] := by
  simpa [lines] using m.linesAfter_of_not_mem h []

/-- What stands before the first line feed is the first line, without the carriage return at its
end. The lines of the rest do not depend on it. -/
theorem lines_append_cons {line : List α} (h : m.lineFeed ∉ line) (rest : List α) :
    m.lines (line ++ m.lineFeed :: rest) =
      (m.dropReturn line.reverse).reverse :: m.lines rest := by
  rw [lines, m.linesAfter_append_cons h, List.append_nil]

end LineMarks

/-- The lines of a text that is given in characters. -/
def lines (text : String) : List String :=
  (LineMarks.chars.lines text.toList).map String.ofList

/-- The lines of a text that is given in bytes, which need not all be UTF-8. -/
def byteLines (bytes : ByteArray) : List ByteArray :=
  (LineMarks.bytes.lines bytes.data.toList).map List.toByteArray

end PixelScript.Text
