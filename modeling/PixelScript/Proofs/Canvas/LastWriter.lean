import Mathlib.Data.List.Induction
import PixelScript.Proofs.Canvas.Segment

/-!
# The last writer wins

A canvas that was only drawn on with single pixels and straight segments, and cleared from time to
time, shows at every point what the latest stroke there left (`get_after_strokes`). A stroke that
fails counts for the points that it covered before it came to the edge.
-/

namespace PixelScript

/-! ## Strokes

What one stroke does to what a canvas shows. A stroke is described by the points that it covers, so
it does not matter how it proceeds. -/

/-- A call that draws on a canvas or clears it. -/
inductive Stroke where
  | paint (p : Point) (k : Char)
  | vertical (col a b : Nat) (k : Char)
  | horizontal (a b row : Nat) (k : Char)
  | clear
deriving DecidableEq

namespace Stroke

/-- The canvas after the call, with or without success. -/
def apply (s : Stroke) (c : Canvas) : Canvas :=
  match s with
  | .paint p k => (c.paint p k).2
  | .vertical col a b k => (c.drawVertical col a b k).2
  | .horizontal a b row k => (c.drawHorizontal a b row k).2
  | .clear => c.clear

/-- The pixel that the stroke leaves. A clearing leaves the background. -/
def pixel : Stroke → Char
  | .paint _ k | .vertical _ _ _ k | .horizontal _ _ _ k => k
  | .clear => Canvas.background

/-- Whether a stroke covers a point of a canvas. A segment covers the points from its lower end to
its upper end or the edge, if its lower end is on the canvas. -/
def Covers (d : Dimensions) (q : Point) : Stroke → Prop
  | .paint p _ => p = q ∧ p ∈ d
  | .vertical col a b _ => Canvas.InColumn d col a b q
  | .horizontal a b row _ => Canvas.InRow d a b row q
  | .clear => False

instance (d : Dimensions) (q : Point) : DecidablePred (Covers d q)
  | .paint p _ => inferInstanceAs (Decidable (p = q ∧ p ∈ d))
  | .vertical col a b _ => inferInstanceAs (Decidable (Canvas.InColumn d col a b q))
  | .horizontal a b row _ => inferInstanceAs (Decidable (Canvas.InRow d a b row q))
  | .clear => inferInstanceAs (Decidable False)

/-- A stroke draws on the canvas that there is, and a clearing makes a canvas of the same size. -/
theorem dimensions_apply (s : Stroke) (c : Canvas) : (s.apply c).dimensions = c.dimensions := by
  cases s with
  | paint p k =>
    by_cases hp : p ∈ c.dimensions
    · rw [apply, Canvas.paint_of_mem hp, Canvas.dimensions_put]
    · rw [apply, Canvas.paint_of_not_mem hp]
  | vertical col a b k => exact Canvas.dimensions_drawVertical c col a b k
  | horizontal a b row k => exact Canvas.dimensions_drawHorizontal c a b row k
  | clear => rfl

/-- A stroke leaves its pixel where it covers the canvas, and nothing else changes. A clearing is
left out here, as it covers nothing and changes everything. -/
theorem get?_apply {s : Stroke} (hs : s ≠ .clear) (c : Canvas) (q : Point) :
    (s.apply c).get? q = if s.Covers c.dimensions q then some s.pixel else c.get? q := by
  cases s with
  | paint p k =>
    by_cases hp : p ∈ c.dimensions
    · have hcovers : (paint p k).Covers c.dimensions q ↔ q = p :=
        ⟨fun h => h.1.symm, fun h => ⟨h.symm, hp⟩⟩
      rw [apply, Canvas.paint_of_mem hp, Canvas.get?_put hp]
      simp only [hcovers]
      rfl
    · -- a point that is refused is covered by nothing
      rw [apply, Canvas.paint_of_not_mem hp, if_neg fun h => hp h.2]
  | vertical col a b k => exact Canvas.get?_drawVertical c col a b k q
  | horizontal a b row k => exact Canvas.get?_drawHorizontal c a b row k q
  | clear => exact absurd rfl hs

end Stroke

/-! ## Many strokes

A canvas after any number of strokes, against the latest stroke that covers a point. Both are
compared as one more stroke is added at the end. -/

/-- The canvas after calls in the order in which they are listed. -/
def Canvas.after (c : Canvas) (strokes : List Stroke) : Canvas :=
  strokes.foldl (fun c s => s.apply c) c

/-- What the latest stroke after the last clearing left at a point, or the background if no stroke
covers the point. -/
def lastPixel (d : Dimensions) (q : Point) (strokes : List Stroke) : Char :=
  let sinceClear := strokes.reverse.takeWhile (· ≠ .clear)
  match sinceClear.find? (·.Covers d q) with
  | some s => s.pixel
  | none => Canvas.background

/-- One more stroke at the end shows where it covers a point, and a clearing shows everywhere. Where
it does neither, the strokes before it decide. -/
theorem lastPixel_concat (d : Dimensions) (q : Point) (strokes : List Stroke) (s : Stroke) :
    lastPixel d q (strokes ++ [s]) =
      if s = .clear then Canvas.background
      else if s.Covers d q then s.pixel else lastPixel d q strokes := by
  rw [lastPixel, lastPixel, List.reverse_append, List.reverse_singleton, List.singleton_append,
    List.takeWhile_cons]
  -- a clearing ends the search at once, so nothing that comes before it is found
  by_cases hs : s = .clear
  · rw [if_pos hs, if_neg (by simpa using hs)]
    rfl
  · rw [if_neg hs, if_pos (by simpa using hs), List.find?_cons]
    by_cases hcovers : s.Covers d q
    · rw [if_pos hcovers]
      simp only [decide_eq_true hcovers]
    · rw [if_neg hcovers]
      simp only [decide_eq_false hcovers]

/-- After one pixel was painted at each of several points, these points show theirs. Induction from
the latest stroke on, which shows at its own point whatever was painted there before. -/
theorem lastPixel_paint {d : Dimensions} {q : Point} (hq : q ∈ d) (pixelAt : Point → Char)
    {points : List Point} (hmem : q ∈ points) :
    lastPixel d q (points.map fun p => .paint p (pixelAt p)) = pixelAt q := by
  induction points using List.reverseRecOn with
  | nil => cases hmem
  | append_singleton points p ih =>
    rw [List.map_append, List.map_singleton, lastPixel_concat, if_neg (by nofun)]
    by_cases hp : p = q
    · rw [if_pos ⟨hp, hp ▸ hq⟩, hp]
      rfl
    · -- the latest stroke is at another point, so the one for this point came earlier
      have hearlier : q ∈ points := by
        rcases List.mem_append.1 hmem with hmem | hmem
        · exact hmem
        · exact absurd (List.mem_singleton.1 hmem).symm hp
      rw [if_neg fun h => hp h.1, ih hearlier]

theorem Canvas.after_concat (c : Canvas) (strokes : List Stroke) (s : Stroke) :
    c.after (strokes ++ [s]) = s.apply (c.after strokes) := by
  rw [after, List.foldl_append]
  rfl

theorem Canvas.dimensions_after (c : Canvas) (strokes : List Stroke) :
    (c.after strokes).dimensions = c.dimensions := by
  induction strokes using List.reverseRecOn with
  | nil => rfl
  | append_singleton strokes s ih => rw [after_concat, Stroke.dimensions_apply, ih]

/-- What a blank canvas shows after strokes. The induction goes from the first stroke on, so the
stroke looked at is the latest, and both sides change by it in the same way (`Stroke.get?_apply`,
`lastPixel_concat`). -/
theorem Canvas.get?_after_blank {d : Dimensions} {q : Point} (hq : q ∈ d) (strokes : List Stroke) :
    ((blank d).after strokes).get? q = some (lastPixel d q strokes) := by
  induction strokes using List.reverseRecOn with
  | nil => exact get?_blank hq
  | append_singleton strokes s ih =>
    have hdims : ((blank d).after strokes).dimensions = d := dimensions_after _ strokes
    rw [after_concat, lastPixel_concat]
    -- a clearing is the only stroke that does not look at what was there
    by_cases hs : s = .clear
    · rw [if_pos hs, hs, Stroke.apply, clear_eq_blank, hdims, get?_blank hq]
    · rw [if_neg hs, Stroke.get?_apply hs, hdims, ih]
      split <;> rfl

/-- Canvases of every size show the last pixel of every run of strokes. -/
theorem get_after_strokes {w h : Nat} (hw : 1 ≤ w ∧ w ≤ 250) (hh : 1 ≤ h ∧ h ≤ 250) :
    ∃ c, Canvas.ofSides w h = .ok c ∧ c.dimensions.width = w ∧ c.dimensions.height = h ∧
      ∀ strokes, ∀ q ∈ c.dimensions,
        (c.after strokes).get q = .ok (lastPixel c.dimensions q strokes) := by
  -- sides within the limits are never refused
  have hsome : ∃ d, Dimensions.ofSides w h = .ok d :=
    ⟨⟨w, h, hw.1, hw.2, hh.1, hh.2⟩, Dimensions.ofSides_eq_ok_iff.2 ⟨rfl, rfl⟩⟩
  obtain ⟨d, hd⟩ := hsome
  obtain ⟨hwidth, hheight⟩ := Dimensions.ofSides_eq_ok_iff.1 hd
  refine ⟨Canvas.blank d, by rw [Canvas.ofSides, hd], hwidth, hheight, ?_⟩
  intro strokes q hq
  rw [Canvas.dimensions_blank] at hq ⊢
  rw [Canvas.get, Canvas.get?_after_blank hq]

/-- A clipped column crosses a row that was drawn before, and neither shows what was there before
the clearing. -/
theorem get_after_strokes_crossing :
    (1 ≤ 3 ∧ 3 ≤ 250) ∧ ∃ c, Canvas.ofSides 3 3 = .ok c ∧
      let strokes : List Stroke := [.paint ⟨1, 1⟩ 'a', .clear, .horizontal 3 1 3 'b',
        .vertical 2 9 2 'c', .vertical 2 0 3 'd']
      (c.after strokes).get ⟨2, 3⟩ = .ok 'c' ∧ (c.after strokes).get ⟨3, 3⟩ = .ok 'b' ∧
        (c.after strokes).get ⟨1, 1⟩ = .ok 'O' := by
  obtain ⟨c, hc, hw, hh, hget⟩ := get_after_strokes (w := 3) (h := 3) (by decide) (by decide)
  refine ⟨by decide, c, hc, ?_⟩
  have hdims : c.dimensions = ⟨3, 3, by decide, by decide, by decide, by decide⟩ :=
    Dimensions.ext hw hh
  rw [hdims] at hget
  intro strokes
  rw [hget _ ⟨2, 3⟩ (by decide), hget _ ⟨3, 3⟩ (by decide), hget _ ⟨1, 1⟩ (by decide)]
  exact ⟨rfl, rfl, rfl⟩

end PixelScript
