import PixelScript.Canvas.Basic

/-!
# Straight segments

A segment includes both of its ends, which may be given in either order. It is painted from the
lower end up; the first point that is not on the canvas ends it, and what was painted before stays.
-/

namespace PixelScript.Canvas

/-- Paints `count` points of a line, the first of them at `start`, until one is refused. -/
def paintRun (line : Nat → Point) (k : Char) :
    Nat → Nat → Canvas → Except CanvasError Unit × Canvas
  | 0, _, c => (.ok (), c)
  | count + 1, start, c =>
    match c.paint (line start) k with
    | (.ok (), c) => paintRun line k count (start + 1) c
    | (.error e, c) => (.error e, c)

/-- Paints the points of a line between two ends, in whichever order the ends are given. -/
def paintBetween (c : Canvas) (line : Nat → Point) (a b : Nat) (k : Char) :
    Except CanvasError Unit × Canvas :=
  paintRun line k (max a b + 1 - min a b) (min a b) c

/-- Paints a part of a column. -/
def drawVertical (c : Canvas) (col fromRow toRow : Nat) (k : Char) :
    Except CanvasError Unit × Canvas :=
  c.paintBetween (fun row => ⟨col, row⟩) fromRow toRow k

/-- Paints a part of a row. -/
def drawHorizontal (c : Canvas) (fromCol toCol row : Nat) (k : Char) :
    Except CanvasError Unit × Canvas :=
  c.paintBetween (fun col => ⟨col, row⟩) fromCol toCol k

/-! ### What a run does -/

/-- The order in which the two ends are given makes no difference: both the first point and the
number of points are symmetric in them. -/
theorem paintBetween_comm (c : Canvas) (line : Nat → Point) (a b : Nat) (k : Char) :
    c.paintBetween line a b k = c.paintBetween line b a k := by
  simp only [paintBetween, Nat.max_comm a b, Nat.min_comm a b]

/-- While the next point is on the canvas it is painted and the run goes on from the point behind
it. -/
theorem paintRun_of_mem {line : Nat → Point} {k : Char} {count start : Nat} {c : Canvas}
    (h : line start ∈ c.dimensions) :
    paintRun line k (count + 1) start c =
      paintRun line k count (start + 1) (c.put (line start) k) := by
  rw [paintRun, paint_of_mem h]

/-- The first point that is off the canvas ends the run. The canvas is kept as it is by then, with
everything that was painted before. -/
theorem paintRun_of_not_mem {line : Nat → Point} {k : Char} {count start : Nat} {c : Canvas}
    (h : line start ∉ c.dimensions) :
    paintRun line k (count + 1) start c =
      (.error (.outOfBounds (line start) c.dimensions), c) := by
  rw [paintRun, paint_of_not_mem h]

/-- However far a run gets, it does not change the size of the canvas. Induction on the number of
points that are left, by the two cases of the point that is next. -/
theorem dimensions_paintRun (line : Nat → Point) (k : Char) (count start : Nat) (c : Canvas) :
    (paintRun line k count start c).2.dimensions = c.dimensions := by
  induction count generalizing start c with
  | zero => rfl
  | succ count ih =>
    by_cases h : line start ∈ c.dimensions
    · rw [paintRun_of_mem h, ih, dimensions_put]
    · rw [paintRun_of_not_mem h]

end PixelScript.Canvas
