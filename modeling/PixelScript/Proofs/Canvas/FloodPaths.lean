import Mathlib.Data.List.Chain
import PixelScript.Interpreter
import PixelScript.Proofs.Canvas.Flood
import PixelScript.Proofs.Canvas.Points

/-!
# Floods and paths

The region of a seed in terms of paths: a path goes down or to the right from one point to the next,
over points that show one pixel (`Canvas.Path`). The points at the ends of the paths from a seed are its
region (`Canvas.region_iff_exists_path`), so a flood paints what can be reached by a path, and the number
that it gives back is how many points that are (`Canvas.fill_paths`).
-/

namespace PixelScript

namespace Canvas

/-- A path from the seed to a point. It stays on the canvas, each of its points lies right below or
right beside the one before, and all of them show the pixel. -/
structure Path (c : Canvas) (pixel : Char) (seed p : Point) (path : List Point) : Prop where
  head : path.head? = some seed
  last : path.getLast? = some p
  steps : path.IsChain fun q r => r = q.down ∨ r = q.right
  mem_dimensions : ∀ q ∈ path, q ∈ c.dimensions
  get?_eq : ∀ q ∈ path, c.get? q = some pixel

variable {c : Canvas} {pixel : Char} {seed p q : Point}

/-! ## Paths to the points of a region

A region is generated by steps from its points, so a path to a point grows with the steps that put
the point into the region. -/

theorem path_singleton (h : c.get? seed = some pixel) : c.Path pixel seed seed [seed] where
  head := rfl
  last := rfl
  steps := List.isChain_singleton seed
  mem_dimensions := by
    intro q hq
    rw [List.mem_singleton.1 hq]
    exact mem_dimensions_of_get? h
  get?_eq := by
    intro q hq
    rw [List.mem_singleton.1 hq, h]

/-- A path goes on to a neighbour of its last point that shows the pixel. Nothing is asked of the
neighbour's place, because a point that shows something is on the canvas. -/
theorem Path.concat {path : List Point} (h : c.Path pixel seed p path)
    (hnext : q = p.down ∨ q = p.right) (hq : c.get? q = some pixel) :
    c.Path pixel seed q (path ++ [q]) where
  head := by rw [List.head?_append, h.head, Option.some_or]
  last := List.getLast?_concat
  steps := by
    apply List.IsChain.append h.steps (List.isChain_singleton q)
    intro r hr t ht
    -- the two lists meet at the last point of the path and the new one
    rw [h.last, Option.mem_some_iff] at hr
    rw [List.head?_cons, Option.mem_some_iff] at ht
    rw [← hr, ← ht]
    exact hnext
  mem_dimensions := by
    intro r hr
    rcases List.mem_append.1 hr with hr | hr
    · exact h.mem_dimensions r hr
    · rw [List.mem_singleton.1 hr]
      exact mem_dimensions_of_get? hq
  get?_eq := by
    intro r hr
    rcases List.mem_append.1 hr with hr | hr
    · exact h.get?_eq r hr
    · rw [List.mem_singleton.1 hr, hq]

/-- To every point of a region there is a path. Induction on how the point came into the region. -/
theorem Region.exists_path (h : c.Region seed p) (hseed : c.get? seed = some pixel) :
    ∃ path, c.Path pixel seed p path := by
  induction h with
  | seed => exact ⟨[seed], path_singleton hseed⟩
  | down _ hsame ih =>
    obtain ⟨path, hpath⟩ := ih
    exact ⟨_, hpath.concat (.inl rfl) (hsame.trans hseed)⟩
  | right _ hsame ih =>
    obtain ⟨path, hpath⟩ := ih
    exact ⟨_, hpath.concat (.inr rfl) (hsame.trans hseed)⟩

/-! ## Paths stay in a region

The other direction: whatever path is chosen, it never leaves the region of its seed. -/

/-- From a point of a region, points that show the seed's pixel lead to points of the region only.
Induction on the path, from any point of the region. -/
theorem Region.of_isChain {path : List Point} (hp : c.Region seed p)
    (hsteps : (p :: path).IsChain fun q r => r = q.down ∨ r = q.right)
    (hsame : ∀ q ∈ path, c.get? q = c.get? seed) : ∀ q ∈ p :: path, c.Region seed q := by
  induction path generalizing p with
  | nil =>
    intro q hq
    rw [List.mem_singleton.1 hq]
    exact hp
  | cons r path ih =>
    obtain ⟨hstep, hsteps⟩ := List.isChain_cons_cons.1 hsteps
    have hr : c.get? r = c.get? seed := hsame r List.mem_cons_self
    -- the step to the next point is one that a region can take
    have hregion : c.Region seed r := by
      rcases hstep with rfl | rfl
      · exact .down hp hr
      · exact .right hp hr
    intro q hq
    rcases List.mem_cons.1 hq with rfl | hq
    · exact hp
    · exact ih hregion hsteps (fun q hq => hsame q (List.mem_cons_of_mem r hq)) q hq

/-- A path from the seed leads to a point of its region. -/
theorem Path.region {path : List Point} (h : c.Path pixel seed p path) : c.Region seed p := by
  obtain ⟨rest, rfl⟩ := List.head?_eq_some_iff.1 h.head
  have hseed : c.get? seed = some pixel := h.get?_eq seed List.mem_cons_self
  have hsame : ∀ q ∈ rest, c.get? q = c.get? seed := by
    intro q hq
    rw [hseed]
    exact h.get?_eq q (List.mem_cons_of_mem seed hq)
  exact Region.of_isChain .seed h.steps hsame p (List.mem_of_getLast? h.last)

/-- The region of a seed are the points that paths lead to. The region is how a flood is reasoned
about, and paths are how it is told what is flooded. -/
theorem region_iff_exists_path (hseed : c.get? seed = some pixel) :
    c.Region seed p ↔ ∃ path, c.Path pixel seed p path := by
  constructor
  · -- every step into the region is a step on the path
    intro hp
    exact hp.exists_path hseed
  · rintro ⟨path, hpath⟩
    exact hpath.region

/-! ## What a flood paints -/

/-- A seed off the canvas is refused, and the canvas stays as it was. A flood from a point of the canvas
comes to an end: the points that paths lead to, over points that show the seed's pixel, all show the new
pixel then, whether or not it is another one, and all other points show what they showed before. The
number that is given back is how many points were painted. -/
theorem fill_paths (c : Canvas) (seed : Point) (k : Char) :
    if seed ∈ c.dimensions then
      ∃ target count c', c.get seed = .ok target ∧ c.fill seed k = .ok (count, c') ∧
        {p | ∃ path, c.Path target seed p path}.encard = count ∧
        c'.dimensions = c.dimensions ∧
        (∀ p path, c.Path target seed p path → c'.get p = .ok k) ∧
        ∀ p, (¬∃ path, c.Path target seed p path) → c'.get p = c.get p
    else
      c.fill seed k = .error (.outOfBounds seed c.dimensions) ∧
        ∀ s : Interpreter, s.canvas = some c →
          s.dispatch (.fill seed k) = (.error (.canvas (.outOfBounds seed c.dimensions)), s) := by
  split
  · next hseed =>
    obtain ⟨target, htarget⟩ := exists_get?_of_mem hseed
    obtain ⟨points, c', hfill, hdims, hnodup, hmem, hget⟩ := fill_region hseed k
    have hpath (p : Point) : p ∈ points ↔ ∃ path, c.Path target seed p path := by
      rw [hmem, region_iff_exists_path htarget]
    refine ⟨target, points.length, c', by rw [get, htarget], hfill, ?_, hdims, ?_, ?_⟩
    · -- the points that were painted are listed once each
      exact Point.encard_eq_length hnodup fun p => (hpath p).symm
    · intro p path hp
      rw [get, hget, if_pos ((hpath p).2 ⟨path, hp⟩)]
    · intro p hp
      have hnot : p ∉ points := fun h => hp ((hpath p).1 h)
      rw [get, get, hget, if_neg hnot, hdims]
  · next hseed =>
    have hfill := fill_of_not_mem hseed k
    refine ⟨hfill, ?_⟩
    -- the command is refused like the flood, and the interpreter keeps its canvas
    intro s hs
    simp only [Interpreter.dispatch, hs, hfill]

end Canvas

end PixelScript
