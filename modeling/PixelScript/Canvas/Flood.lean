import PixelScript.Canvas.Basic
import PixelScript.Queue

/-!
# Flooding a region

A flood starts at a seed and spreads down and to the right over pixels like the seed's. Points wait
in a queue; a point that is taken from it for the first time is painted when it still shows the
seed's former pixel, and then its own neighbours below and to the right wait in turn.

`Flood` is a flood in progress, `Flood.step` takes one point from the queue, and `Flood.run` goes
on until the queue is empty. It ends because every step lowers `Flood.weight`: a point is marked as
visited before it lets at most two others wait.
-/

namespace PixelScript

/-- A flood in progress. -/
structure Flood where
  canvas : Canvas
  /-- The pixel that the seed had, which is the one to be painted over. -/
  target : Char
  pixel : Char
  /-- Which points have been taken from the queue, in the order of `Dimensions.index`. -/
  visited : Array Bool
  queue : Queue Point
  painted : Nat

namespace Flood

/-- The points that a flood reaches next from a point: below first, then to the right. -/
def neighbours (d : Dimensions) (p : Point) : List Point :=
  [p.down, p.right].filter (· ∈ d)

/-- The point is on the canvas and has not been taken from the queue yet. -/
def isFresh (f : Flood) (p : Point) : Bool :=
  decide (p ∈ f.canvas.dimensions) && f.visited[f.canvas.dimensions.index p]? == some false

/-- Notes that the point has been taken from the queue. -/
def mark (f : Flood) (p : Point) : Flood :=
  { f with visited := f.visited.setIfInBounds (f.canvas.dimensions.index p) true }

/-- Paints the point and lets its neighbours wait. -/
def spread (f : Flood) (p : Point) : Flood :=
  { f with
    canvas := f.canvas.put p f.pixel
    queue := (neighbours f.canvas.dimensions p).foldl Queue.push f.queue
    painted := f.painted + 1 }

/-- Looks at a point taken from the queue. -/
def visit (f : Flood) (p : Point) : Flood :=
  -- a point can wait twice, for the one above it and for the one to its left
  if f.isFresh p then
    if f.canvas.get? p = some f.target then (f.mark p).spread p else f.mark p
  else f

/-- The flood right after its seed, which shows `target`, has been painted. -/
def start (c : Canvas) (seed : Point) (target pixel : Char) : Flood :=
  let f : Flood := ⟨c, target, pixel, Array.replicate c.dimensions.area false, Queue.empty, 0⟩
  (f.mark seed).spread seed

/-- Looks at the point that has waited longest. -/
def step (f : Flood) : Option Flood :=
  match f.queue.pop? with
  | some (p, queue) => some ({ f with queue := queue }.visit p)
  | none => none

/-! ### A flood ends

Every point that is visited is marked, and only the first visit lets other points wait. A point that
is not marked yet counts three, which is more than its two neighbours can add, and a point that
waits counts one. -/

/-- Three for every point not visited yet, and one for every point that waits. -/
def weight (f : Flood) : Nat := 3 * f.visited.count false + f.queue.size

/-- There is one neighbour below and one to the right, and either of them may be off the canvas. -/
theorem length_neighbours_le (d : Dimensions) (p : Point) : (neighbours d p).length ≤ 2 :=
  List.length_filter_le _ _

/-- Every point that is added lets the queue grow by one, whatever the queue holds. Induction on the
added points. -/
theorem size_foldl_push (points : List Point) (q : Queue Point) :
    (points.foldl Queue.push q).size = q.size + points.length := by
  induction points generalizing q with
  | nil => rfl
  | cons p points ih => rw [List.foldl_cons, ih, Queue.size_push, List.length_cons]; omega

/-- Marking a place that was not marked yet leaves one unmarked place less. The count of what is
left is what bounds the number of points that a flood still visits. -/
theorem count_false_set {visited : Array Bool} {i : Nat} (h : visited[i]? = some false) :
    (visited.setIfInBounds i true).count false + 1 = visited.count false := by
  obtain ⟨hi, hv⟩ := Array.getElem?_eq_some_iff.1 h
  rw [Array.setIfInBounds, dif_pos hi, Array.count_set hi]
  have : 0 < visited.count false := Array.count_pos_iff.2 (hv ▸ Array.getElem_mem hi)
  simp [hv]
  omega

/-- Marking a fresh point lowers the weight by three, which is more than the two neighbours that it
may let wait can add (`weight_spread_le`). -/
theorem weight_mark {f : Flood} {p : Point} (h : f.isFresh p) :
    (f.mark p).weight + 3 = f.weight := by
  have hc := count_false_set (by simpa [isFresh] using h : _ ∧ _).2
  simp only [weight, mark]
  omega

/-- Spreading from a point adds at most two to the weight, one for each neighbour that waits. -/
theorem weight_spread_le (f : Flood) (p : Point) : (f.spread p).weight ≤ f.weight + 2 := by
  have := length_neighbours_le f.canvas.dimensions p
  simp only [weight, spread, size_foldl_push]
  omega

/-- Looking at a point never raises the weight: a fresh point is marked first, and gives up more by
that than its neighbours can add. A point that is not fresh changes nothing at all. -/
theorem weight_visit_le (f : Flood) (p : Point) : (f.visit p).weight ≤ f.weight := by
  unfold visit
  split
  · rename_i h
    -- three are given up here, whether the point is painted or not
    have hm := weight_mark h
    split
    · have := weight_spread_le (f.mark p) p
      omega
    · omega
  · exact Nat.le_refl _

/-- Taking a point from the queue and looking at it lowers the weight. The queue is shorter by one,
and looking adds nothing (`weight_visit_le`). -/
theorem weight_visit_pop_lt {f : Flood} {p : Point} {queue : Queue Point}
    (h : f.queue.pop? = some (p, queue)) : ({ f with queue := queue }.visit p).weight < f.weight := by
  refine Nat.lt_of_le_of_lt (weight_visit_le _ p) ?_
  have := Queue.size_of_pop? h
  simp only [weight]
  omega

/-- Every step lowers the weight, so a flood cannot go on forever. This is what `run` and every
induction over runs rest on. -/
theorem weight_step_lt {f g : Flood} (h : f.step = some g) : g.weight < f.weight := by
  unfold step at h
  split at h
  · rename_i hq
    cases h
    exact weight_visit_pop_lt hq
  · cases h

/-- Looks at one waiting point after the other until none waits. -/
def run (f : Flood) : Flood :=
  match _h : f.queue.pop? with
  | some (p, queue) => run ({ f with queue := queue }.visit p)
  | none => f
termination_by f.weight
decreasing_by exact weight_visit_pop_lt _h

/-- A run goes on with what a step leaves. Together with `run_of_step_eq_none` this describes runs
by steps, so that nothing has to open the recursion of `run` again. -/
theorem run_of_step_eq_some {f g : Flood} (h : f.step = some g) : f.run = g.run := by
  rw [run]
  unfold step at h
  split <;> simp_all

/-- A run ends where no step can be made, with the flood as it is. -/
theorem run_of_step_eq_none {f : Flood} (h : f.step = none) : f.run = f := by
  rw [run]
  unfold step at h
  split <;> simp_all

end Flood

/-- Floods from the seed, and tells how many points were painted. -/
def Canvas.fill (c : Canvas) (seed : Point) (pixel : Char) : Except CanvasError (Nat × Canvas) :=
  -- a seed off the canvas is refused before anything is painted
  match c.get seed with
  | .ok target =>
    let f := (Flood.start c seed target pixel).run
    .ok (f.painted, f.canvas)
  | .error e => .error e

end PixelScript
