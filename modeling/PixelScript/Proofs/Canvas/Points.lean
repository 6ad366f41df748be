import Mathlib.Data.Set.Card
import PixelScript.Canvas.Basic

/-!
# A canvas point by point

Every place of the storage belongs to a point of the canvas (`Dimensions.index_pointAt`), so a canvas
is known by its dimensions and by what it shows at each point (`Canvas.ext_get?`), and what it stores
is what it shows somewhere (`Canvas.mem_pixels_iff`). Drawing with one pixel is described by the points
that are painted (`Canvas.Repainted`), and these determine the canvas (`Canvas.Repainted.unique`).
-/

namespace PixelScript

/-- Points that are listed once each are as many as the list is long. -/
theorem Point.encard_eq_length {points : List Point} {s : Set Point} (hnodup : points.Nodup)
    (hmem : ∀ p, p ∈ s ↔ p ∈ points) : s.encard = points.length := by
  -- without repetitions, the list has the length of the finite set of its members
  have hset : s = (points.toFinset : Set Point) := by
    ext p
    rw [Finset.mem_coe, List.mem_toFinset, hmem]
  rw [hset, Set.encard_coe_eq_coe_finsetCard, List.toFinset_card_of_nodup hnodup]

namespace Dimensions

/-! ### Points and places

The inverse of the storage order. It lets what is said of the storage be said of points, and the
points of a canvas be listed. -/

/-- The point that is stored at a place. -/
def pointAt (d : Dimensions) (i : Nat) : Point := ⟨i % d.width + 1, i / d.width + 1⟩

/-- Every place below the area belongs to a point of the canvas: the remainder by the width is a
column, and the quotient is a row. -/
theorem pointAt_mem {d : Dimensions} {i : Nat} (h : i < d.area) : d.pointAt i ∈ d := by
  -- the width is not zero, or the remainder would be no column
  have hcol : i % d.width < d.width := Nat.mod_lt i d.width_pos
  have hrow : i / d.width < d.height := Nat.div_lt_of_lt_mul h
  exact ⟨⟨Nat.le_add_left 1 _, hcol⟩, Nat.le_add_left 1 _, hrow⟩

/-- The point that is stored at a place is stored there. One half of the inverse, which needs no
bound. -/
theorem index_pointAt (d : Dimensions) (i : Nat) : d.index (d.pointAt i) = i := by
  show (i / d.width + 1 - 1) * d.width + (i % d.width + 1 - 1) = i
  rw [Nat.add_sub_cancel, Nat.add_sub_cancel, Nat.mul_comm]
  exact Nat.div_add_mod i d.width

/-- What is stored at the place of a point is that point. The other half, for points of the canvas,
from the first one and from `index_inj`. -/
theorem pointAt_index {d : Dimensions} {p : Point} (h : p ∈ d) : d.pointAt (d.index p) = p := by
  have hmem : d.pointAt (d.index p) ∈ d := pointAt_mem (index_lt_area h)
  exact (index_inj hmem h).1 (d.index_pointAt _)

/-- The points of a canvas in the order in which they are stored. -/
def points (d : Dimensions) : List Point := (List.range d.area).map d.pointAt

theorem mem_points {d : Dimensions} {p : Point} : p ∈ d.points ↔ p ∈ d := by
  rw [points, List.mem_map]
  constructor
  · rintro ⟨i, hi, rfl⟩
    exact pointAt_mem (List.mem_range.1 hi)
  · -- a point stands in the list where it is stored
    intro hp
    exact ⟨d.index p, List.mem_range.2 (index_lt_area hp), pointAt_index hp⟩

theorem nodup_points (d : Dimensions) : d.points.Nodup :=
  List.nodup_range.map (Function.LeftInverse.injective d.index_pointAt)

@[simp] theorem length_points (d : Dimensions) : d.points.length = d.area := by simp [points]

end Dimensions

namespace Canvas

theorem get?_pointAt {c : Canvas} {i : Nat} (h : i < c.pixels.size) :
    c.get? (c.dimensions.pointAt i) = c.pixels[i]? := by
  have hmem : c.dimensions.pointAt i ∈ c.dimensions :=
    Dimensions.pointAt_mem (Nat.lt_of_lt_of_eq h c.size_pixels)
  rw [get?_eq_getElem? hmem, Dimensions.index_pointAt]

/-- What is stored is what is shown at some point. So a statement about all pixels is one about all
points, and the other way round. -/
theorem mem_pixels_iff {c : Canvas} {k : Char} : k ∈ c.pixels ↔ ∃ p, c.get? p = some k := by
  constructor
  · intro hk
    obtain ⟨i, hi⟩ := Array.mem_iff_getElem?.1 hk
    have hlt : i < c.pixels.size := (Array.getElem?_eq_some_iff.1 hi).1
    exact ⟨_, (get?_pointAt hlt).trans hi⟩
  · rintro ⟨p, hp⟩
    rw [get?_eq_getElem? (mem_dimensions_of_get? hp)] at hp
    exact Array.mem_of_getElem? hp

/-- A canvas is known by its dimensions and by what it shows. Each place of the storage is compared
through the point that belongs to it. -/
theorem ext_get? {c c' : Canvas} (hdims : c.dimensions = c'.dimensions)
    (hget : ∀ p ∈ c.dimensions, c.get? p = c'.get? p) : c = c' := by
  have hsize : c.pixels.size = c'.pixels.size := by rw [c.size_pixels, c'.size_pixels, hdims]
  have hpixels : c.pixels = c'.pixels := by
    apply Array.ext_getElem?
    intro i
    by_cases hi : i < c.pixels.size
    · -- what is stored at a place is what is shown at its point
      have hmem := Dimensions.pointAt_mem (Nat.lt_of_lt_of_eq hi c.size_pixels)
      rw [← get?_pointAt hi, hget _ hmem, hdims, get?_pointAt (hsize ▸ hi)]
    · -- neither canvas stores anything beyond its area
      rw [Array.getElem?_eq_none (by omega), Array.getElem?_eq_none (by omega)]
  cases c
  cases c'
  cases hdims
  cases hpixels
  rfl

/-! ### Repainting

Drawing described by its effect and not by its steps: which points show the new pixel, and that all
others show what they did. Every way of drawing on a canvas is proved to repaint some points, and
then only these points are looked at. -/

/-- The second canvas shows `k` at the given points, and at every other point what the first one shows. -/
structure Repainted (c : Canvas) (points : Point → Prop) (k : Char) (c' : Canvas) : Prop where
  dimensions_eq : c'.dimensions = c.dimensions
  get?_of_mem : ∀ q, points q → c'.get? q = some k
  get?_of_not_mem : ∀ q, ¬points q → c'.get? q = c.get? q

variable {c c' c'' : Canvas} {points : Point → Prop} {k : Char}

/-- To say for each point what is shown there is to say what was repainted. -/
theorem repainted_of_get? [DecidablePred points] (hdims : c'.dimensions = c.dimensions)
    (hget : ∀ q, c'.get? q = if points q then some k else c.get? q) : c.Repainted points k c' where
  dimensions_eq := hdims
  get?_of_mem := by
    intro q hq
    rw [hget, if_pos hq]
  get?_of_not_mem := by
    intro q hq
    rw [hget, if_neg hq]

namespace Repainted

/-- Only which points were painted counts, not how they are described. -/
theorem congr {others : Point → Prop} (h : c.Repainted points k c')
    (hpoints : ∀ q, points q ↔ others q) : c.Repainted others k c' where
  dimensions_eq := h.dimensions_eq
  get?_of_mem := fun q hq => h.get?_of_mem q ((hpoints q).2 hq)
  get?_of_not_mem := fun q hq => h.get?_of_not_mem q fun hmem => hq ((hpoints q).1 hmem)

/-- A canvas is determined by what was repainted on another one: at each point it shows the new
pixel or the old one. -/
theorem unique (h : c.Repainted points k c') (h' : c.Repainted points k c'') : c' = c'' := by
  apply ext_get? (h.dimensions_eq.trans h'.dimensions_eq.symm)
  intro q _
  by_cases hq : points q
  · rw [h.get?_of_mem q hq, h'.get?_of_mem q hq]
  · rw [h.get?_of_not_mem q hq, h'.get?_of_not_mem q hq]

/-- What shows another pixel than `k` was not painted. This is what stops a second flood where the
first one has been. -/
theorem not_of_get?_eq {target : Char} {q : Point} (h : c.Repainted points k c') (hk : k ≠ target)
    (hq : c'.get? q = some target) : ¬points q := by
  intro hpainted
  rw [h.get?_of_mem q hpainted, Option.some.injEq] at hq
  exact hk hq

/-- Nothing changes where `k` is shown already. Such a painting is no different from none. -/
theorem eq_self (h : c.Repainted points k c') (hsame : ∀ q, points q → c.get? q = some k) : c' = c := by
  apply h.unique
  exact ⟨rfl, hsame, fun _ _ => rfl⟩

/-- Points that are painted twice show the later pixel, and all others show what they did at first.
-/
theorem again {k' : Char} (h : c.Repainted points k c') (h' : c'.Repainted points k' c'') :
    c.Repainted points k' c'' where
  dimensions_eq := h'.dimensions_eq.trans h.dimensions_eq
  get?_of_mem := h'.get?_of_mem
  get?_of_not_mem := by
    intro q hq
    rw [h'.get?_of_not_mem q hq, h.get?_of_not_mem q hq]

/-- Points that are painted one part after the other are painted, in whichever order. The parts may
have points in common. -/
theorem trans {others : Point → Prop} (h : c.Repainted points k c') (h' : c'.Repainted others k c'') :
    c.Repainted (fun q => points q ∨ others q) k c'' where
  dimensions_eq := h'.dimensions_eq.trans h.dimensions_eq
  get?_of_mem := by
    intro q hq
    -- where both have painted, the later painting decides
    by_cases hother : others q
    · exact h'.get?_of_mem q hother
    · rw [h'.get?_of_not_mem q hother, h.get?_of_mem q (hq.resolve_right hother)]
  get?_of_not_mem := by
    intro q hq
    rw [not_or] at hq
    rw [h'.get?_of_not_mem q hq.2, h.get?_of_not_mem q hq.1]

end Repainted

theorem repainted_put {p : Point} (hp : p ∈ c.dimensions) : c.Repainted (· = p) k (c.put p k) :=
  repainted_of_get? rfl fun _ => get?_put hp

end Canvas

end PixelScript
