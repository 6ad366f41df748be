import PixelScript.Geometry.Bounds

/-!
# Canvases

A canvas is a rectangle of pixels, each a single character, stored row by row. Reading goes
through `Canvas.get?`, which answers exactly on the points of the canvas; `get?_put` and
`get?_blank` say what the other operations do to it. `Canvas.rows` and `Canvas.text` are the
printed form.
-/

namespace PixelScript

/-- A rectangle of pixels. The pixels are listed in the order of `Dimensions.index`. -/
structure Canvas where
  dimensions : Dimensions
  pixels : Array Char
  size_pixels : pixels.size = dimensions.area
deriving DecidableEq

namespace Canvas

/-- The pixel that an untouched canvas shows everywhere. -/
def background : Char := 'O'

/-- An untouched canvas of the given dimensions. -/
def blank (d : Dimensions) : Canvas := ⟨d, Array.replicate d.area background, Array.size_replicate⟩

/-- An untouched canvas with the given sides. -/
def ofSides (width height : Nat) : Except CanvasError Canvas :=
  match Dimensions.ofSides width height with
  | .ok d => .ok (blank d)
  | .error e => .error e

/-- Paints every pixel over with the background. -/
def clear (c : Canvas) : Canvas :=
  { c with
    pixels := c.pixels.map fun _ => background
    size_pixels := by rw [Array.size_map]; exact c.size_pixels }

/-! ### Single pixels

Reading, storing and painting one pixel. A canvas is known by what `get?` answers at each point, so
each operation is described by what it does to these answers. -/

/-- A point of the canvas has its place among the pixels, because there are as many pixels as
points. -/
theorem index_lt_size {c : Canvas} {p : Point} (h : p ∈ c.dimensions) :
    c.dimensions.index p < c.pixels.size :=
  Nat.lt_of_lt_of_eq (Dimensions.index_lt_area h) c.size_pixels.symm

/-- The pixel at a point, where the point is on the canvas. -/
def get? (c : Canvas) (p : Point) : Option Char :=
  if p ∈ c.dimensions then c.pixels[c.dimensions.index p]? else none

/-- The pixel at a point, or the refusal of a point that is not on the canvas. -/
def get (c : Canvas) (p : Point) : Except CanvasError Char :=
  match c.get? p with
  | some k => .ok k
  | none => .error (.outOfBounds p c.dimensions)

/-- Stores a pixel at a point that is known to be on the canvas. -/
def put (c : Canvas) (p : Point) (k : Char) : Canvas :=
  { c with
    pixels := c.pixels.setIfInBounds (c.dimensions.index p) k
    size_pixels := by rw [Array.size_setIfInBounds]; exact c.size_pixels }

/-- Paints one pixel, if its point is on the canvas. -/
def paint (c : Canvas) (p : Point) (k : Char) : Except CanvasError Unit × Canvas :=
  match c.dimensions.check p with
  | .ok () => (.ok (), c.put p k)
  | .error e => (.error e, c)

/-- A canvas that was cleared shows no trace of what was drawn on it: it is the canvas that its
dimensions were created with. -/
theorem clear_eq_blank (c : Canvas) : c.clear = blank c.dimensions := by
  obtain ⟨d, pixels, h⟩ := c
  simp only [clear, blank, ← h, Array.map_const']

@[simp] theorem dimensions_blank (d : Dimensions) : (blank d).dimensions = d := rfl

@[simp] theorem dimensions_put (c : Canvas) (p : Point) (k : Char) :
    (c.put p k).dimensions = c.dimensions := rfl

theorem pixels_put (c : Canvas) (p : Point) (k : Char) :
    (c.put p k).pixels = c.pixels.setIfInBounds (c.dimensions.index p) k := rfl

theorem get?_eq_getElem? {c : Canvas} {p : Point} (h : p ∈ c.dimensions) :
    c.get? p = c.pixels[c.dimensions.index p]? := if_pos h

/-- Nothing is read outside the canvas, and something everywhere on it, because the place of a point
of the canvas is below the number of pixels. -/
theorem get?_eq_none_iff {c : Canvas} {p : Point} : c.get? p = none ↔ p ∉ c.dimensions := by
  refine ⟨fun h hp => ?_, fun h => if_neg h⟩
  rw [get?_eq_getElem? hp, Array.getElem?_eq_getElem (index_lt_size hp)] at h
  cases h

/-- Where something is read there is a point of the canvas. One direction of `get?_eq_none_iff`, in
the form that most proofs need. -/
theorem mem_dimensions_of_get? {c : Canvas} {p : Point} {k : Char} (h : c.get? p = some k) :
    p ∈ c.dimensions := by
  apply Decidable.byContradiction
  intro hnot
  rw [get?_eq_none_iff.2 hnot] at h
  cases h

/-- Every point of the canvas shows a pixel, the other direction of `get?_eq_none_iff`. -/
theorem exists_get?_of_mem {c : Canvas} {p : Point} (h : p ∈ c.dimensions) : ∃ k, c.get? p = some k :=
  Option.ne_none_iff_exists'.1 fun hnone => get?_eq_none_iff.1 hnone h

theorem get?_blank {d : Dimensions} {p : Point} (h : p ∈ d) :
    (blank d).get? p = some background := by
  rw [get?_eq_getElem? h]
  simp [blank, Dimensions.index_lt_area h]

/-- Storing a pixel changes what is read at its own point and nowhere else. Reading elsewhere on the
canvas looks at another place, as no two points share one (`Dimensions.index_inj`), and reading off
the canvas finds nothing before and after. -/
theorem get?_put {c : Canvas} {p q : Point} {k : Char} (hp : p ∈ c.dimensions) :
    (c.put p k).get? q = if q = p then some k else c.get? q := by
  by_cases hq : q ∈ c.dimensions
  · rw [get?_eq_getElem? hq, get?_eq_getElem? (show q ∈ (c.put p k).dimensions from hq),
      pixels_put, dimensions_put, Array.getElem?_setIfInBounds]
    by_cases h : q = p
    · rw [if_pos (congrArg _ h.symm), if_pos (index_lt_size hp), if_pos h]
    · rw [if_neg fun e => h ((Dimensions.index_inj hp hq).1 e).symm, if_neg h]
  · have hne : q ≠ p := fun h => hq (h ▸ hp)
    rw [if_neg hne, get?_eq_none_iff.2 hq, get?_eq_none_iff.2 (show q ∉ (c.put p k).dimensions from hq)]

theorem paint_of_mem {c : Canvas} {p : Point} {k : Char} (h : p ∈ c.dimensions) :
    c.paint p k = (.ok (), c.put p k) := by
  simp only [paint, Dimensions.check_eq_ok_iff.2 h]

/-- Painting off the canvas fails with that point and leaves the canvas as it was. -/
theorem paint_of_not_mem {c : Canvas} {p : Point} {k : Char} (h : p ∉ c.dimensions) :
    c.paint p k = (.error (.outOfBounds p c.dimensions), c) := by
  simp only [paint, Dimensions.check_of_not_mem h]

/-! ### Printed form

The rows are slices of the stored pixels. A row holds exactly as many pixels as the canvas is wide,
which is what makes the printed form readable again. -/

/-- The pixels of the row with `above` rows above it, from left to right. -/
def row (c : Canvas) (above : Nat) : List Char :=
  (c.pixels.extract (above * c.dimensions.width) ((above + 1) * c.dimensions.width)).toList

/-- The rows from top to bottom. -/
def rows (c : Canvas) : List (List Char) := (List.range c.dimensions.height).map c.row

/-- The rows with a line feed between each two, and none after the last. -/
def text (c : Canvas) : String := String.ofList (['\n'].intercalate c.rows)

@[simp] theorem length_rows (c : Canvas) : c.rows.length = c.dimensions.height := by
  simp [rows]

/-- Each printed row is as long as the canvas is wide. The slice of a row within the canvas ends
before the pixels do, so nothing of it is cut off. -/
theorem length_row {c : Canvas} {above : Nat} (h : above < c.dimensions.height) :
    (c.row above).length = c.dimensions.width := by
  -- the end of this row is not behind the end of the last one
  have hle : (above + 1) * c.dimensions.width ≤ c.pixels.size := by
    rw [c.size_pixels, Dimensions.area, Nat.mul_comm c.dimensions.width]
    exact Nat.mul_le_mul_right _ h
  rw [row, Array.length_toList, Array.size_extract, Nat.min_eq_left hle, Nat.succ_mul]
  omega

end Canvas

end PixelScript
