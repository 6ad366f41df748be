import PixelScript.Proofs.Canvas.Flood
import PixelScript.Proofs.Canvas.Points
import PixelScript.Proofs.Canvas.Segment

/-!
# Clamped numbers on a canvas

A canvas has far fewer columns and rows than there are numbers, so it makes no difference to it whether
numbers are clamped. The same sizes and points are refused (`Dimensions.ofSides_clamp`,
`Dimensions.clamp_mem_iff`), although what is said of them quotes the clamped numbers, and the ends of a
segment may be clamped without a change to its part of the canvas (`Canvas.drawVertical_clamp`,
`Canvas.drawHorizontal_clamp`).
-/

namespace PixelScript

/-- The point with both of its numbers clamped. -/
def Point.clamped (p : Point) : Point := ⟨Number.clamp p.col, Number.clamp p.row⟩

/-- The refusal of the clamped request. -/
def CanvasError.clamped : CanvasError → CanvasError
  | .tooLarge width height => .tooLarge (Number.clamp width) (Number.clamp height)
  | .tooSmall width height => .tooSmall (Number.clamp width) (Number.clamp height)
  | .outOfBounds p d => .outOfBounds p.clamped d

/-! ## Sizes and points

Limits are compared with clamped numbers, and limits are far below the number that everything is
clamped to. What lies beyond it was refused before and is refused afterwards. -/

namespace Dimensions

theorem clamp_mem_iff {d : Dimensions} {col row : Nat} :
    (⟨Number.clamp col, Number.clamp row⟩ : Point) ∈ d ↔ (⟨col, row⟩ : Point) ∈ d := by
  rw [mem_iff, mem_iff]
  simp only [Number.le_clamp_iff (show 1 ≤ Number.largest by decide),
    Number.clamp_le_iff d.width_lt_largest, Number.clamp_le_iff d.height_lt_largest]

theorem clamp_eq_of_mem {d : Dimensions} {col row : Nat} (h : (⟨col, row⟩ : Point) ∈ d) :
    Number.clamp col = col ∧ Number.clamp row = row := by
  obtain ⟨⟨-, hcol⟩, -, hrow⟩ := h
  exact ⟨Number.clamp_eq_self (Nat.le_trans hcol (Nat.le_of_lt d.width_lt_largest)),
    Number.clamp_eq_self (Nat.le_trans hrow (Nat.le_of_lt d.height_lt_largest))⟩

/-- Clamped sides are refused for the clamped reason. Sides that are not refused are not clamped. -/
theorem ofSides_clamp (width height : Nat) :
    ofSides (Number.clamp width) (Number.clamp height) =
      (ofSides width height).mapError CanvasError.clamped := by
  have hlarge : maxSide < Number.largest := by decide
  have hsmall : minSide ≤ Number.largest := by decide
  unfold ofSides
  simp only [Number.lt_clamp_iff hlarge, Number.clamp_lt_iff hsmall]
  split
  · rfl
  · -- no side is larger than the limit, so neither of them is clamped
    next hwithin =>
    split
    · rfl
    · have hwidth := Number.clamp_eq_self (n := width) (by omega)
      have hheight := Number.clamp_eq_self (n := height) (by omega)
      simp only [hwidth, hheight]
      rfl

end Dimensions

theorem Point.clamped_of_mem {d : Dimensions} {p : Point} (h : p ∈ d) : p.clamped = p := by
  obtain ⟨hcol, hrow⟩ := Dimensions.clamp_eq_of_mem h
  rw [Point.clamped, hcol, hrow]

/-- A flood goes on from points of the canvas, and the points next to them can all be named. So it
visits the same points where numbers have no bound at all, in which the next number is always one
more. -/
theorem Flood.neighbours_of_mem {d : Dimensions} {p : Point} (h : p ∈ d) :
    neighbours d p = [(⟨p.col, p.row + 1⟩ : Point), ⟨p.col + 1, p.row⟩].filter (· ∈ d) := by
  obtain ⟨⟨-, hcol⟩, -, hrow⟩ := h
  rw [neighbours, Point.down, Point.right,
    Number.next_eq_succ (Nat.lt_of_le_of_lt hrow d.height_lt_largest),
    Number.next_eq_succ (Nat.lt_of_le_of_lt hcol d.width_lt_largest)]

/-! ## Segments

The ends of a segment can be any numbers, also on a canvas that only has a part of it. What is
painted is described by bounds (`Canvas.InColumn`, `Canvas.InRow`), and these do not change when the
ends are clamped. -/

namespace Canvas

/-- Clamping the numbers of a column does not change its part of the canvas. -/
theorem inColumn_clamp {d : Dimensions} {col a b : Nat} {q : Point} :
    InColumn d (Number.clamp col) (Number.clamp a) (Number.clamp b) q ↔ InColumn d col a b q := by
  rw [InColumn, InColumn, ← Number.clamp_min, ← Number.clamp_max, Dimensions.clamp_mem_iff,
    Number.min_clamp d.height_lt_largest]
  apply and_congr_right
  -- the column has a point on the canvas, so its number and the number of its lower end are exact
  intro hmem
  obtain ⟨hcol, hlow⟩ := Dimensions.clamp_eq_of_mem hmem
  rw [hcol, hlow]

theorem inRow_clamp {d : Dimensions} {a b row : Nat} {q : Point} :
    InRow d (Number.clamp a) (Number.clamp b) (Number.clamp row) q ↔ InRow d a b row q := by
  rw [InRow, InRow, ← Number.clamp_min, ← Number.clamp_max, Dimensions.clamp_mem_iff,
    Number.min_clamp d.width_lt_largest]
  apply and_congr_right
  intro hmem
  obtain ⟨hlow, hrow⟩ := Dimensions.clamp_eq_of_mem hmem
  rw [hlow, hrow]

/-- A column paints the same canvas with its numbers clamped, also where it is refused. -/
theorem drawVertical_clamp (c : Canvas) (col a b : Nat) (k : Char) :
    (c.drawVertical (Number.clamp col) (Number.clamp a) (Number.clamp b) k).2 =
      (c.drawVertical col a b k).2 := by
  apply ext_get?
  · rw [dimensions_drawVertical, dimensions_drawVertical]
  · intro q _
    rw [get?_drawVertical, get?_drawVertical]
    simp only [inColumn_clamp]

theorem drawHorizontal_clamp (c : Canvas) (a b row : Nat) (k : Char) :
    (c.drawHorizontal (Number.clamp a) (Number.clamp b) (Number.clamp row) k).2 =
      (c.drawHorizontal a b row k).2 := by
  apply ext_get?
  · rw [dimensions_drawHorizontal, dimensions_drawHorizontal]
  · intro q _
    rw [get?_drawHorizontal, get?_drawHorizontal]
    simp only [inRow_clamp]

end Canvas

end PixelScript
