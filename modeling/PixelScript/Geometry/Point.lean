import PixelScript.Number

/-!
# Points

A point names a pixel by its column and its row, both counted from one at the top left corner.
A point need not lie on any canvas: `Geometry.Dimensions` says which ones do.
-/

namespace PixelScript

/-- A position: `col` counts from the left edge, `row` from the top edge, both from one. -/
structure Point where
  col : Nat
  row : Nat
deriving DecidableEq

namespace Point

/-- The point one row below. -/
def down (p : Point) : Point := ⟨p.col, Number.next p.row⟩

/-- The point one column to the right. -/
def right (p : Point) : Point := ⟨Number.next p.col, p.row⟩

/-- Columns and rows exchanged. -/
def transpose (p : Point) : Point := ⟨p.row, p.col⟩

/-- A point is written as `(col, row)`. -/
def text (p : Point) : String := "(" ++ toString p.col ++ ", " ++ toString p.row ++ ")"

/-! ### Exchanging columns and rows -/

@[simp] theorem transpose_transpose (p : Point) : p.transpose.transpose = p := rfl

/-- Below becomes right when columns and rows are exchanged. The next column and the next row are
found in the same way, so this holds at the largest number as well. -/
@[simp] theorem transpose_down (p : Point) : p.down.transpose = p.transpose.right := rfl

@[simp] theorem transpose_right (p : Point) : p.right.transpose = p.transpose.down := rfl

end Point

end PixelScript
