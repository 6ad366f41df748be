import PixelScript.Geometry.Dimensions

/-!
# Limits on sizes and points

Why a canvas refuses a request, and the two checks that find out: `Dimensions.ofSides` for a
requested size and `Dimensions.check` for a point.
-/

namespace PixelScript

/-- Why a size or a point is refused. -/
inductive CanvasError where
  /-- A side of the requested size is longer than `maxSide`. -/
  | tooLarge (width height : Nat)
  /-- A side of the requested size is shorter than `minSide`. -/
  | tooSmall (width height : Nat)
  /-- The point does not lie on the canvas. -/
  | outOfBounds (point : Point) (dimensions : Dimensions)
deriving DecidableEq

namespace CanvasError

/-- The quotation of a requested size at the end of a message. -/
def requested (width height : Nat) : String :=
  " (requested " ++ toString width ++ "x" ++ toString height ++ ")"

/-- The sentence that names the limit and the request that missed it. -/
def message : CanvasError → String
  | .tooLarge width height =>
    "co-ordinate is greater than " ++ toString maxSide ++ requested width height
  | .tooSmall width height =>
    "co-ordinate is smaller than " ++ toString minSide ++ requested width height
  | .outOfBounds point dimensions =>
    "co-ordinate " ++ point.text ++ " is outside the bitmap boundary: " ++ dimensions.text

end CanvasError

namespace Dimensions

/-- The dimensions with the given sides. A side that is too long is reported before one that is
too short. -/
def ofSides (width height : Nat) : Except CanvasError Dimensions :=
  if large : maxSide < width ∨ maxSide < height then .error (.tooLarge width height)
  else if small : width < minSide ∨ height < minSide then .error (.tooSmall width height)
  else .ok ⟨width, height, by omega, by omega, by omega, by omega⟩

/-- Refuses a point that does not lie on the canvas. -/
def check (d : Dimensions) (p : Point) : Except CanvasError Unit :=
  if p ∈ d then .ok () else .error (.outOfBounds p d)

/-- The sides of dimensions are within the limits, so asking for them again is never refused. -/
theorem ofSides_self (d : Dimensions) : ofSides d.width d.height = .ok d := by
  have := d.width_pos
  have := d.width_le
  have := d.height_pos
  have := d.height_le
  rw [ofSides, dif_neg (by omega), dif_neg (by omega)]

/-- What is granted is what was asked for. A request is granted at most one answer, as the limits of
that answer carry no data. -/
theorem ofSides_eq_ok_iff {width height : Nat} {d : Dimensions} :
    ofSides width height = .ok d ↔ d.width = width ∧ d.height = height := by
  refine ⟨fun h => ?_, fun ⟨hw, hh⟩ => hw ▸ hh ▸ ofSides_self d⟩
  unfold ofSides at h
  split at h
  · cases h
  · split at h
    · cases h
    · cases h
      exact ⟨rfl, rfl⟩

theorem check_eq_ok_iff {d : Dimensions} {p : Point} : d.check p = .ok () ↔ p ∈ d := by
  unfold check
  split <;> simp_all

/-- A refusal quotes the point and the dimensions that it misses, and nothing else. -/
theorem check_of_not_mem {d : Dimensions} {p : Point} (h : p ∉ d) :
    d.check p = .error (.outOfBounds p d) := if_neg h

end Dimensions

end PixelScript
