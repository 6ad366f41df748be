import PixelScript.Geometry.Point

/-!
# Dimensions of a canvas

The size of a canvas, the points that lie on it, and where each of them is stored.

* `Dimensions` holds a width and a height that are known to be within the limits.
* `p ∈ d` says that the point `p` lies on a canvas of dimensions `d`.
* `Dimensions.index` numbers the points of a canvas row by row from zero; it is one-to-one
  (`index_inj`) and stays below the area (`index_lt_area`).
-/

namespace PixelScript

/-- The shortest side that a canvas may have. -/
def minSide : Nat := 1

/-- The longest side that a canvas may have. -/
def maxSide : Nat := 250

/-- A width and a height, each from `minSide` to `maxSide`. -/
structure Dimensions where
  width : Nat
  height : Nat
  width_pos : minSide ≤ width
  width_le : width ≤ maxSide
  height_pos : minSide ≤ height
  height_le : height ≤ maxSide
deriving DecidableEq

namespace Dimensions

/-- How many points a canvas of these dimensions has. -/
def area (d : Dimensions) : Nat := d.width * d.height

/-- Width and height exchanged. The limits are the same for both, so they are met again. -/
def transpose (d : Dimensions) : Dimensions :=
  ⟨d.height, d.width, d.height_pos, d.height_le, d.width_pos, d.width_le⟩

/-- Dimensions are written as `col=width, row=height`. -/
def text (d : Dimensions) : String :=
  "col=" ++ toString d.width ++ ", row=" ++ toString d.height

/-- Dimensions are determined by their two numbers, as the limits are propositions. -/
@[ext] theorem ext {d e : Dimensions} (hw : d.width = e.width) (hh : d.height = e.height) :
    d = e := by
  cases d
  cases e
  cases hw
  cases hh
  rfl

@[simp] theorem width_transpose (d : Dimensions) : d.transpose.width = d.height := rfl

@[simp] theorem height_transpose (d : Dimensions) : d.transpose.height = d.width := rfl

/-! ### Every side can be named

A script can name any column and any row of any canvas, and the ones next to them. So counting on
from a point of a canvas never comes to the largest number. -/

/-- The limit on sides is far below the largest number, so a point next to one of the canvas can
always be named. -/
theorem width_lt_largest (d : Dimensions) : d.width < Number.largest :=
  Nat.lt_of_le_of_lt d.width_le (by decide)

theorem height_lt_largest (d : Dimensions) : d.height < Number.largest :=
  Nat.lt_of_le_of_lt d.height_le (by decide)

/-! ### The points of a canvas

Columns and rows count from one. Membership is by definition the four bounds, so that questions
about points are questions of arithmetic, and can be decided. -/

/-- A point lies on the canvas when its column and its row do. -/
instance : Membership Point Dimensions :=
  ⟨fun d p => (1 ≤ p.col ∧ p.col ≤ d.width) ∧ (1 ≤ p.row ∧ p.row ≤ d.height)⟩

/-- The four bounds by which a point lies on a canvas. Nothing else is said of points of a canvas,
so everything about them follows by arithmetic. -/
theorem mem_iff {d : Dimensions} {p : Point} :
    p ∈ d ↔ (1 ≤ p.col ∧ p.col ≤ d.width) ∧ (1 ≤ p.row ∧ p.row ≤ d.height) := Iff.rfl

instance (p : Point) (d : Dimensions) : Decidable (p ∈ d) :=
  inferInstanceAs
    (Decidable ((1 ≤ p.col ∧ p.col ≤ d.width) ∧ (1 ≤ p.row ∧ p.row ≤ d.height)))

/-- A transposed point lies on the transposed canvas exactly if the point lies on the canvas: the
bounds on columns and on rows change places. -/
theorem mem_transpose {d : Dimensions} {p : Point} : p.transpose ∈ d.transpose ↔ p ∈ d := And.comm

/-! ### Storage order

The pixels of a canvas are stored row by row. That no two points share a place and that every point
has one are the only facts about the order that reading and writing rest on. -/

/-- The place of a point when the points are listed row by row, each row from left to right. -/
def index (d : Dimensions) (p : Point) : Nat := (p.row - 1) * d.width + (p.col - 1)

/-- The points of a canvas have their places below its area. All rows above the point's own are
full, and the point's column is within its row. -/
theorem index_lt_area {d : Dimensions} {p : Point} (h : p ∈ d) : d.index p < d.area := by
  obtain ⟨⟨hc, hw⟩, hr, hh⟩ := h
  -- the point is in its row, and its row ends where at most `height` full rows do
  calc (p.row - 1) * d.width + (p.col - 1)
      < (p.row - 1) * d.width + d.width := by omega
    _ = p.row * d.width := by rw [← Nat.succ_mul]; congr 1; omega
    _ ≤ d.height * d.width := Nat.mul_le_mul_right _ hh
    _ = d.area := Nat.mul_comm _ _

/-- The row and the column of a point are the quotient and the remainder of its place by the width.
A column counts from one and is at most the width, so it never spills over into the next row. -/
theorem index_div_mod {d : Dimensions} {p : Point} (h : p ∈ d) :
    d.index p / d.width = p.row - 1 ∧ d.index p % d.width = p.col - 1 := by
  obtain ⟨⟨hc, hw⟩, hr, hh⟩ := h
  have hlt : p.col - 1 < d.width := by omega
  have hpos : 0 < d.width := d.width_pos
  constructor
  · rw [index, Nat.add_comm, Nat.add_mul_div_right _ _ hpos, Nat.div_eq_of_lt hlt, Nat.zero_add]
  · rw [index, Nat.add_comm, Nat.add_mul_mod_self_right, Nat.mod_eq_of_lt hlt]

/-- Two points of a canvas are never stored at one place, since the place gives back the row and the
column (`index_div_mod`). -/
theorem index_inj {d : Dimensions} {p q : Point} (hp : p ∈ d) (hq : q ∈ d) :
    d.index p = d.index q ↔ p = q := by
  refine ⟨fun h => ?_, fun h => h ▸ rfl⟩
  obtain ⟨hpr, hpc⟩ := index_div_mod hp
  obtain ⟨hqr, hqc⟩ := index_div_mod hq
  rw [h] at hpr hpc
  obtain ⟨⟨_, _⟩, _, _⟩ := hp
  obtain ⟨⟨_, _⟩, _, _⟩ := hq
  cases p
  cases q
  -- equal quotients and remainders are equal up to the one that was subtracted from both
  simp only [Point.mk.injEq] at *
  omega

end Dimensions

end PixelScript
