import PixelScript.Text.Blank
import PixelScript.Text.Utf8

/-!
# Tokens

The tokens of a line are its maximal runs of characters without a blank. This is what a line comes
down to for its reader: nothing but the tokens and their places can make a difference.

`Token.split_nil`, `Token.split_blank` and `Token.split_solid` say what the tokens of a line are.
-/

namespace PixelScript.Script

/-- A run of characters without a blank, and the byte at which it begins. -/
structure Token where
  offset : Nat
  chars : List Char
deriving DecidableEq

namespace Token

/-- How many bytes the token takes. -/
def size (t : Token) : Nat := Text.Utf8.length t.chars

/-- The tokens from the byte `offset` of a line on. -/
def split (offset : Nat) : List Char → List Token
  | [] => []
  | c :: rest =>
    if Text.isBlank c then split (offset + c.utf8Size) rest
    else
      let chars := c :: rest.takeWhile (!Text.isBlank ·)
      ⟨offset, chars⟩ :: split (offset + Text.Utf8.length chars) (rest.dropWhile (!Text.isBlank ·))
termination_by input => input.length
decreasing_by
  · simp
  · have := (List.dropWhile_sublist (l := rest) (!Text.isBlank ·)).length_le
    simp only [List.length_cons]
    omega

/-- The tokens of a line. -/
def ofLine (line : String) : List Token := split 0 line.toList

/-! ### Tokens one by one -/

@[simp] theorem split_nil (offset : Nat) : split offset [] = [] := by rw [split]

/-- A blank belongs to no token and only moves the places of those behind it. -/
theorem split_blank {c : Char} (h : Text.isBlank c) (offset : Nat) (rest : List Char) :
    split offset (c :: rest) = split (offset + c.utf8Size) rest := by
  rw [split, if_pos h]

/-- Where a token begins it goes on for as long as there is no blank, and the search for the next
one begins behind it. With the two equations above this is the whole of `split`. -/
theorem split_solid {c : Char} (h : Text.isBlank c = false) (offset : Nat) (rest : List Char) :
    split offset (c :: rest) =
      ⟨offset, c :: rest.takeWhile (!Text.isBlank ·)⟩ ::
        split (offset + Text.Utf8.length (c :: rest.takeWhile (!Text.isBlank ·)))
          (rest.dropWhile (!Text.isBlank ·)) := by
  rw [split, if_neg (by simp [h])]

end Token

end PixelScript.Script
