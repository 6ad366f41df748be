import Mathlib.Data.List.Nodup
import PixelScript.Proofs.Canvas.Flood
import PixelScript.Proofs.Canvas.Segment

/-!
# Drawing on a transposed canvas

Two canvases are transposes of one another when each shows at every point what the other shows at the
transposed point (`Canvas.Transposed`). Whatever is drawn on one of them can be drawn on the other with
columns and rows exchanged, and they are transposes again. A column becomes a row, and a flood spreads
over the transposed region, although its points wait in another order.
-/

namespace PixelScript

/-- The refusal of the transposed request. -/
def CanvasError.transpose : CanvasError → CanvasError
  | .tooLarge width height => .tooLarge height width
  | .tooSmall width height => .tooSmall height width
  | .outOfBounds p d => .outOfBounds p.transpose d.transpose

/-- A size and the transposed size are granted or refused together, and for the same reason. The
limits on the two sides are the same, and are looked at together. -/
theorem Dimensions.ofSides_transpose (width height : Nat) :
    ofSides height width =
      ((ofSides width height).map Dimensions.transpose).mapError CanvasError.transpose := by
  unfold ofSides
  by_cases hlarge : maxSide < width ∨ maxSide < height
  · rw [dif_pos hlarge, dif_pos hlarge.symm]
    rfl
  · rw [dif_neg hlarge, dif_neg fun h => hlarge h.symm]
    by_cases hsmall : width < minSide ∨ height < minSide
    · rw [dif_pos hsmall, dif_pos hsmall.symm]
      rfl
    · rw [dif_neg hsmall, dif_neg fun h => hsmall h.symm]
      rfl

namespace Canvas

/-- Columns and rows are exchanged, in the size and in what is shown. -/
structure Transposed (c c' : Canvas) : Prop where
  dimensions_eq : c'.dimensions = c.dimensions.transpose
  get?_eq : ∀ p, c'.get? p.transpose = c.get? p

namespace Transposed

variable {c c' : Canvas}

theorem symm (h : Transposed c c') : Transposed c' c := by
  refine ⟨?_, ?_⟩
  · rw [h.dimensions_eq]
    rfl
  · intro p
    exact (h.get?_eq p.transpose).symm

theorem mem_iff (h : Transposed c c') {p : Point} :
    p.transpose ∈ c'.dimensions ↔ p ∈ c.dimensions := by
  rw [h.dimensions_eq]
  exact Dimensions.mem_transpose

/-! ### Single pixels

Untouched and cleared canvases, and painting. All drawing goes through one lemma, which compares
what is covered on the two canvases. -/

/-- Untouched canvases of transposed dimensions are transposes: the background shows everywhere. -/
theorem blank (d : Dimensions) : Transposed (blank d) (blank d.transpose) := by
  refine ⟨rfl, ?_⟩
  intro p
  by_cases hp : p ∈ d
  · rw [get?_blank hp, get?_blank (Dimensions.mem_transpose.2 hp)]
  · have hnone : (Canvas.blank d).get? p = none := get?_eq_none_iff.2 hp
    have hnone' : (Canvas.blank d.transpose).get? p.transpose = none :=
      get?_eq_none_iff.2 fun h => hp (Dimensions.mem_transpose.1 h)
    rw [hnone, hnone']

theorem clear (h : Transposed c c') : Transposed c.clear c'.clear := by
  rw [clear_eq_blank, clear_eq_blank, h.dimensions_eq]
  exact blank c.dimensions

/-- Pixels at corresponding points stay so if both canvases are painted at corresponding points. It
does not matter in which order the points are painted, so this is all that is used of any kind of
drawing. -/
theorem of_painted (h : Transposed c c') {d d' : Canvas} {k : Char} {covered covered' : Point → Prop}
    [DecidablePred covered] [DecidablePred covered'] (hd : d.dimensions = c.dimensions)
    (hd' : d'.dimensions = c'.dimensions)
    (hget : ∀ q, d.get? q = if covered q then some k else c.get? q)
    (hget' : ∀ q, d'.get? q = if covered' q then some k else c'.get? q)
    (hcovered : ∀ q, covered' q.transpose ↔ covered q) : Transposed d d' := by
  refine ⟨by rw [hd', hd, h.dimensions_eq], ?_⟩
  intro q
  rw [hget, hget', h.get?_eq]
  simp only [hcovered]

/-- A point and the transposed point are painted, or both are refused and nothing changes. -/
theorem paint (h : Transposed c c') (p : Point) (k : Char) :
    Transposed (c.paint p k).2 (c'.paint p.transpose k).2 := by
  by_cases hp : p ∈ c.dimensions
  · have hp' : p.transpose ∈ c'.dimensions := h.mem_iff.2 hp
    rw [paint_of_mem hp, paint_of_mem hp']
    have hcovered (q : Point) : q.transpose = p.transpose ↔ q = p :=
      ⟨fun heq => congrArg Point.transpose heq, fun heq => congrArg Point.transpose heq⟩
    exact h.of_painted rfl rfl (fun q => get?_put hp) (fun q => get?_put hp') hcovered
  · have hp' : p.transpose ∉ c'.dimensions := fun hmem => hp (h.mem_iff.1 hmem)
    rw [paint_of_not_mem hp, paint_of_not_mem hp']
    exact h

/-! ### Segments

A column on one canvas is a row on the other. Both ends and the edge change places with them. -/

/-- A segment of a column covers the transposes of what the same segment of a row covers. -/
theorem drawVertical (h : Transposed c c') (col a b : Nat) (k : Char) :
    Transposed (c.drawVertical col a b k).2 (c'.drawHorizontal a b col k).2 := by
  have hcovered (q : Point) :
      InRow c'.dimensions a b col q.transpose ↔ InColumn c.dimensions col a b q := by
    have hend : (⟨min a b, col⟩ : Point) ∈ c'.dimensions ↔ (⟨col, min a b⟩ : Point) ∈ c.dimensions :=
      h.mem_iff (p := ⟨col, min a b⟩)
    rw [InRow, InColumn, hend, h.dimensions_eq]
    rfl
  exact h.of_painted (dimensions_drawVertical c col a b k) (dimensions_drawHorizontal c' a b col k)
    (get?_drawVertical c col a b k) (get?_drawHorizontal c' a b col k) hcovered

/-- The same the other way round, since the relation is symmetric. -/
theorem drawHorizontal (h : Transposed c c') (a b row : Nat) (k : Char) :
    Transposed (c.drawHorizontal a b row k).2 (c'.drawVertical row a b k).2 :=
  (h.symm.drawVertical row a b k).symm

/-! ### Floods

A flood goes down before it goes to the right, so transposed floods visit their points in different
orders. What they paint is known without the order. -/

/-- Transposed points are in the transposed region. Induction on how a point came into the region,
where a step down becomes a step to the right. -/
theorem region (h : Transposed c c') {seed p : Point} (hp : c.Region seed p) :
    c'.Region seed.transpose p.transpose := by
  -- a step down is a step to the right on the other canvas
  induction hp with
  | seed => exact .seed
  | @down p _ hsame ih =>
    have hsame' : c'.get? p.transpose.right = c'.get? seed.transpose := by
      rw [← Point.transpose_down, h.get?_eq, h.get?_eq, hsame]
    exact .right ih hsame'
  | @right p _ hsame ih =>
    have hsame' : c'.get? p.transpose.down = c'.get? seed.transpose := by
      rw [← Point.transpose_right, h.get?_eq, h.get?_eq, hsame]
    exact .down ih hsame'

theorem region_iff (h : Transposed c c') {seed p : Point} :
    c'.Region seed.transpose p.transpose ↔ c.Region seed p :=
  ⟨fun hp => h.symm.region hp, h.region⟩

/-- The floods paint equally many points, since the points of one are the transposes of the other's.
Both lists are without repetition, so they are as long as each other. -/
theorem fill (h : Transposed c c') {seed : Point} (hseed : seed ∈ c.dimensions) (k : Char) :
    ∃ count d d', c.fill seed k = .ok (count, d) ∧ c'.fill seed.transpose k = .ok (count, d') ∧
      Transposed d d' := by
  obtain ⟨points, d, hfill, hdims, hnodup, hmem, hget⟩ := fill_region hseed k
  obtain ⟨points', d', hfill', hdims', hnodup', hmem', hget'⟩ := fill_region (h.mem_iff.2 hseed) k
  have hcovered (q : Point) : q.transpose ∈ points' ↔ q ∈ points := by
    rw [hmem', hmem, h.region_iff]
  -- the lists have the same points up to order, and neither repeats one
  have hperm : (points.map Point.transpose).Perm points' := by
    have hinj : Function.Injective Point.transpose := fun p q heq => congrArg Point.transpose heq
    rw [List.perm_ext_iff_of_nodup (hnodup.map hinj) hnodup']
    intro q
    rw [List.mem_map]
    constructor
    · rintro ⟨p, hp, rfl⟩
      exact (hcovered p).2 hp
    · intro hq
      exact ⟨q.transpose, (hcovered q.transpose).1 hq, rfl⟩
  have hcount : points'.length = points.length := by rw [← hperm.length_eq, List.length_map]
  refine ⟨points.length, d, d', hfill, by rw [hfill', hcount], ?_⟩
  exact h.of_painted hdims hdims' hget hget' hcovered

end Transposed

end Canvas

end PixelScript
