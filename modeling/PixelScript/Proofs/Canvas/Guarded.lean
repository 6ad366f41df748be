import Mathlib.Logic.Relation
import PixelScript.Canvas.Rendering
import PixelScript.Canvas.Segment
import PixelScript.Proofs.Canvas.Flood
import PixelScript.Proofs.Fault

/-!
# Drawing with guards

The operations on canvases with a guard at every place that they look up. A command's points are
checked before anything is stored, and a flood lets only points of the canvas wait
(`Flood.OnCanvas`). So none of the guards ever finds a fault, and every operation does what it does
without them.
-/

namespace PixelScript

namespace Guarded

/-! ## Pixels

Looking up the place of a point takes three things for granted: the point is on the canvas, and its
column and its row are not zero. The last two follow from the first, and are guarded all the same
because each is a subtraction of its own. -/

/-- The place of a point, which has to be on the canvas. -/
def index (d : Dimensions) (p : Point) : Except Fault Nat := do
  require (p ∈ d) (.offCanvas p d)
  let above ← minus p.row 1
  let before ← minus p.col 1
  return above * d.width + before

/-- The pixel at a point, looked up by its place. -/
def pixel (c : Canvas) (p : Point) : Except Fault Char := do
  let place ← index c.dimensions p
  read c.pixels place

/-- Stores a pixel at the place of its point, which has to exist. -/
def put (c : Canvas) (p : Point) (k : Char) : Except Fault Canvas := do
  let place ← index c.dimensions p
  require (place < c.pixels.size) (.missing place c.pixels.size)
  return c.put p k

/-- On the canvas the place of a point is found without a fault, and is its place in the order of
storage. -/
theorem index_of_mem {d : Dimensions} {p : Point} (h : p ∈ d) : index d p = .ok (d.index p) := by
  -- columns and rows count from one, so both subtractions are in bounds
  have hrow : 1 ≤ p.row := h.2.1
  have hcol : 1 ≤ p.col := h.1.1
  rw [index, require_of h, ok_bind, minus_of_le hrow, ok_bind, minus_of_le hcol, ok_bind]
  rfl

example : index ⟨2, 2, by decide, by decide, by decide, by decide⟩ ⟨1, 3⟩ =
    .error (.offCanvas ⟨1, 3⟩ ⟨2, 2, by decide, by decide, by decide, by decide⟩) := rfl

theorem index_eq_ok {d : Dimensions} {p : Point} {place : Nat} (h : index d p = .ok place) :
    p ∈ d ∧ place = d.index p := by
  by_cases hp : p ∈ d
  · rw [index_of_mem hp] at h
    exact ⟨hp, (Except.ok.inj h).symm⟩
  · -- off the canvas the first guard is a fault already
    rw [index, require, if_neg hp] at h
    cases h

theorem read_pixels {c : Canvas} {p : Point} {k : Char} (h : c.get? p = some k) :
    read c.pixels (c.dimensions.index p) = .ok k := by
  rw [read_eq_ok_iff, ← Canvas.get?_eq_getElem? (Canvas.mem_dimensions_of_get? h), h]

theorem pixel_of_get? {c : Canvas} {p : Point} {k : Char} (h : c.get? p = some k) :
    pixel c p = .ok k := by
  rw [pixel, index_of_mem (Canvas.mem_dimensions_of_get? h), ok_bind, read_pixels h]

theorem put_of_mem {c : Canvas} {p : Point} (h : p ∈ c.dimensions) (k : Char) :
    put c p k = .ok (c.put p k) := by
  rw [put, index_of_mem h, ok_bind, require_of (Canvas.index_lt_size h), ok_bind]
  rfl

/-! ## Segments

A segment checks each point before it stores anything there. So a point off the canvas is a refusal
and never a fault. -/

/-- Paints one pixel after its point was checked. -/
def paint (c : Canvas) (p : Point) (k : Char) :
    Except Fault (Except CanvasError Unit × Canvas) :=
  match c.dimensions.check p with
  | .ok () => do return (.ok (), ← put c p k)
  | .error e => return (.error e, c)

/-- Paints points of a line until one is refused, each of them with guards. -/
def paintRun (line : Nat → Point) (k : Char) :
    Nat → Nat → Canvas → Except Fault (Except CanvasError Unit × Canvas)
  | 0, _, c => return (.ok (), c)
  | count + 1, start, c => do
    match ← paint c (line start) k with
    | (.ok (), c) => paintRun line k count (start + 1) c
    | (.error e, c) => return (.error e, c)

/-- Paints a segment with guards. -/
def paintBetween (c : Canvas) (line : Nat → Point) (a b : Nat) (k : Char) :
    Except Fault (Except CanvasError Unit × Canvas) :=
  paintRun line k (max a b + 1 - min a b) (min a b) c

/-- A pixel is stored only where the point has been checked, so the guards find no fault. -/
theorem paint_eq (c : Canvas) (p : Point) (k : Char) : paint c p k = .ok (c.paint p k) := by
  by_cases hp : p ∈ c.dimensions
  · unfold paint
    rw [Dimensions.check_eq_ok_iff.2 hp, Canvas.paint_of_mem hp, put_of_mem hp]
    rfl
  · -- the point is refused before anything is looked up
    unfold paint
    rw [Dimensions.check_of_not_mem hp, Canvas.paint_of_not_mem hp]
    rfl

/-- No fault is found at any point of a run. Induction on the number of points that are left. -/
theorem paintRun_eq (line : Nat → Point) (k : Char) (count start : Nat) (c : Canvas) :
    paintRun line k count start c = .ok (Canvas.paintRun line k count start c) := by
  induction count generalizing start c with
  | zero => rfl
  | succ count ih =>
    rw [paintRun, paint_eq, ok_bind, Canvas.paintRun]
    rcases c.paint (line start) k with ⟨_ | _, c'⟩
    · rfl
    · exact ih (start + 1) c'

theorem paintBetween_eq (c : Canvas) (line : Nat → Point) (a b : Nat) (k : Char) :
    paintBetween c line a b k = .ok (c.paintBetween line a b k) := paintRun_eq _ _ _ _ _

/-! ## Floods

A flood stores a mark and a pixel without a check of its own. It relies on the queue, which holds
points of the canvas only, and that is what has to be kept from step to step. -/

/-- The first point is painted and marked. -/
def start (c : Canvas) (seed : Point) (target k : Char) : Except Fault Flood := do
  let place ← index c.dimensions seed
  require (place < c.pixels.size) (.missing place c.pixels.size)
  require (place < c.dimensions.area) (.missing place c.dimensions.area)
  return Flood.start c seed target k

/-- Looks at a point taken from the queue. What is stored goes where something was read before. -/
def visit (f : Flood) (p : Point) : Except Fault Flood := do
  let place ← index f.canvas.dimensions p
  if ← read f.visited place then return f
  if (← read f.canvas.pixels place) = f.target then return (f.mark p).spread p
  return f.mark p

/-- On the canvas a point is fresh exactly if its mark says that it was not visited. -/
theorem isFresh_eq_of_mem {f : Flood} {p : Point} (hp : p ∈ f.canvas.dimensions) {seen : Bool}
    (hseen : f.visited[f.canvas.dimensions.index p]? = some seen) : f.isFresh p = !seen := by
  rw [Flood.isFresh, hseen, decide_eq_true hp]
  cases seen <;> rfl

/-- If a point is on the canvas and has a mark, it is looked at without a fault, and with the same
effect as without guards. The mark decides first, then the pixel. -/
theorem visit_of_read {f : Flood} {p : Point} (hp : p ∈ f.canvas.dimensions) {seen : Bool}
    (hseen : f.visited[f.canvas.dimensions.index p]? = some seen) :
    visit f p = .ok (f.visit p) := by
  have hfresh := isFresh_eq_of_mem hp hseen
  rw [visit, index_of_mem hp, ok_bind, read_eq_ok_iff.2 hseen, ok_bind, Flood.visit, hfresh]
  cases seen with
  -- a point that was visited is left alone, whatever the canvas shows there
  | true => rfl
  | false =>
    cases hk : f.canvas.get? p with
    | none => exact absurd hp (Canvas.get?_eq_none_iff.1 hk)
    | some k =>
      rw [read_pixels hk]
      by_cases htarget : k = f.target
      · simp [htarget, pure, Except.pure]
      · simp [htarget, pure, Except.pure]

/-- Where nothing is missing, the guards make no difference. This is what the recursion of `run`
ends by: the weight is that of the flood without guards. -/
theorem eq_visit_of_ok {f g : Flood} {p : Point} (h : visit f p = .ok g) : g = f.visit p := by
  -- a visit without a fault has found a place and a mark
  obtain ⟨place, hplace, hrest⟩ := exists_of_bind_eq_ok h
  obtain ⟨hp, rfl⟩ := index_eq_ok hplace
  obtain ⟨seen, hseen, -⟩ := exists_of_bind_eq_ok hrest
  rw [visit_of_read hp (read_eq_ok_iff.1 hseen)] at h
  exact (Except.ok.inj h).symm

/-- Looks at one waiting point after the other until none waits. -/
def run (f : Flood) : Except Fault Flood :=
  match _hpop : f.queue.pop? with
  | some (p, queue) =>
    match _hvisit : visit { f with queue := queue } p with
    | .ok g => run g
    | .error fault => .error fault
  | none => .ok f
termination_by f.weight
decreasing_by
  rw [eq_visit_of_ok _hvisit]
  exact Flood.weight_visit_pop_lt _hpop

theorem run_of_pop? {f g : Flood} {p : Point} {queue : Queue Point}
    (hpop : f.queue.pop? = some (p, queue)) (hvisit : visit { f with queue := queue } p = .ok g) :
    run f = run g := by
  rw [run]
  split
  · next q later hnext =>
    -- the queue is the one that is given, and so is what the visit leaves
    rw [hpop, Option.some.injEq, Prod.mk.injEq] at hnext
    obtain ⟨rfl, rfl⟩ := hnext
    split
    · next other hother => rw [Except.ok.inj (hvisit.symm.trans hother)]
    · next fault hfault => cases hvisit.symm.trans hfault
  · next hnone => cases hpop.symm.trans hnone

theorem run_of_pop?_eq_none {f : Flood} (hpop : f.queue.pop? = none) : run f = .ok f := by
  rw [run]
  split
  · next hsome => cases hpop.symm.trans hsome
  · rfl

/-- Floods from a seed that is checked once, at the beginning. -/
def fill (c : Canvas) (seed : Point) (k : Char) :
    Except Fault (Except CanvasError (Nat × Canvas)) :=
  match c.dimensions.check seed with
  | .ok () => do
    let target ← pixel c seed
    let f ← run (← start c seed target k)
    return .ok (f.painted, f.canvas)
  | .error e => return .error e

end Guarded

/-- There is a mark for every point of the canvas, and no other point waits. -/
structure Flood.OnCanvas (f : Flood) : Prop where
  size_visited : f.visited.size = f.canvas.dimensions.area
  waiting : ∀ p ∈ f.queue.toList, p ∈ f.canvas.dimensions

namespace Flood

variable {c : Canvas} {f g : Flood}

theorem OnCanvas.mark (h : f.OnCanvas) (p : Point) : (f.mark p).OnCanvas := by
  refine ⟨?_, h.waiting⟩
  -- a mark is overwritten, and the number of marks stays
  show (f.visited.setIfInBounds _ true).size = f.canvas.dimensions.area
  rw [Array.size_setIfInBounds, h.size_visited]

theorem OnCanvas.spread (h : f.OnCanvas) (p : Point) : (f.spread p).OnCanvas := by
  refine ⟨h.size_visited, ?_⟩
  intro q hq
  -- only neighbours on the canvas join the queue
  rw [toList_queue_spread, List.mem_append] at hq
  rcases hq with hwaits | hjoins
  · exact h.waiting q hwaits
  · exact (mem_neighbours.1 hjoins).2

/-- A flood starts with a mark for every point, and only neighbours on the canvas wait. -/
theorem onCanvas_start (c : Canvas) (seed : Point) (target k : Char) :
    (start c seed target k).OnCanvas := by
  have hempty : (untouched c target k).OnCanvas := by
    refine ⟨Array.size_replicate, ?_⟩
    intro p hp
    cases hp
  exact (hempty.mark seed).spread seed

/-- Every step keeps it, by the three turns. Taking a point from the queue leaves the others as they
were. -/
theorem OnCanvas.step (h : f.OnCanvas) (hstep : f.step = some g) : g.OnCanvas := by
  have hrest {p : Point} {queue : Queue Point} (hpop : f.queue.pop? = some (p, queue)) :
      ({ f with queue := queue } : Flood).OnCanvas := by
    refine ⟨h.size_visited, ?_⟩
    intro q hq
    exact h.waiting q (by rw [Queue.toList_of_pop? hpop]; exact List.mem_cons_of_mem p hq)
  -- each turn takes a point from the queue, and may then mark it and send its neighbours to wait
  obtain ⟨t, hturn⟩ := step_eq_some_iff.1 hstep
  cases hturn with
  | skip hpop => exact hrest hpop
  | mark hpop => exact (hrest hpop).mark _
  | paint hpop => exact ((hrest hpop).mark _).spread _

/-- No step changes the size of the canvas, so the marks stay in step with the pixels. -/
theorem dimensions_step (hstep : f.step = some g) :
    g.canvas.dimensions = f.canvas.dimensions := by
  obtain ⟨t, hturn⟩ := step_eq_some_iff.1 hstep
  cases hturn with
  | skip | mark => rfl
  | paint => exact Canvas.dimensions_put _ _ _

/-- However far a flood has come, only points of the canvas wait. Induction on the steps that led
there. -/
theorem onCanvas_of_steps {seed : Point} {target k : Char}
    (h : Relation.ReflTransGen (fun f g : Flood => f.step = some g) (start c seed target k) f) :
    f.OnCanvas ∧ f.canvas.dimensions = c.dimensions := by
  induction h with
  | refl => exact ⟨onCanvas_start c seed target k, Canvas.dimensions_put _ _ _⟩
  | tail _ hstep ih =>
    obtain ⟨honCanvas, hdims⟩ := ih
    exact ⟨honCanvas.step hstep, (dimensions_step hstep).trans hdims⟩

theorem OnCanvas.mem_of_pop? (h : f.OnCanvas) {p : Point} {queue : Queue Point}
    (hpop : f.queue.pop? = some (p, queue)) : p ∈ f.canvas.dimensions :=
  h.waiting p (by rw [Queue.toList_of_pop? hpop]; exact List.mem_cons_self)

end Flood

namespace Guarded

theorem start_of_mem {c : Canvas} {seed : Point} (h : seed ∈ c.dimensions) (target k : Char) :
    start c seed target k = .ok (Flood.start c seed target k) := by
  rw [start, index_of_mem h, ok_bind, require_of (Canvas.index_lt_size h), ok_bind,
    require_of (Dimensions.index_lt_area h), ok_bind]
  rfl

/-- A run finds no fault if the flood is on the canvas when it begins. The induction is on the run
without guards, whose points all are on the canvas. -/
theorem run_of_onCanvas {f : Flood} (h : f.OnCanvas) : run f = .ok f.run := by
  fun_induction Flood.run f with
  | case1 f p queue hpop ih =>
    -- the point taken is on the canvas, so there is a mark for it and the visit finds no fault
    have hp : p ∈ f.canvas.dimensions := h.mem_of_pop? hpop
    have hstep : f.step = some ({ f with queue := queue }.visit p) := by
      rw [Flood.step, hpop]
    have hvisit : visit { f with queue := queue } p = .ok ({ f with queue := queue }.visit p) :=
      visit_of_read hp (Array.getElem?_eq_getElem (h.size_visited ▸ Dimensions.index_lt_area hp))
    rw [run_of_pop? hpop hvisit]
    exact ih (h.step hstep)
  | case2 f hpop => exact run_of_pop?_eq_none hpop

/-- A flood is started only where the seed has been checked, so it finds no fault. -/
theorem fill_eq (c : Canvas) (seed : Point) (k : Char) : fill c seed k = .ok (c.fill seed k) := by
  unfold fill
  rw [Canvas.fill, Canvas.get]
  by_cases hseed : seed ∈ c.dimensions
  · cases hget : c.get? seed with
    -- a canvas shows something at each of its points
    | none => exact absurd hseed (Canvas.get?_eq_none_iff.1 hget)
    | some target =>
      rw [Dimensions.check_eq_ok_iff.2 hseed]
      simp only [pixel_of_get? hget, start_of_mem hseed, ok_bind,
        run_of_onCanvas (Flood.onCanvas_start c seed target k)]
      rfl
  · rw [Dimensions.check_of_not_mem hseed, Canvas.get?_eq_none_iff.2 hseed]
    rfl

/-! ## Printing

Cutting the pixels into rows relies on a width that is not zero, and no canvas is that narrow. -/

/-- Prints a canvas, row by row. -/
def render (c : Canvas) (options : Options) (sink : Sink) :
    Except Fault (Except StreamError Unit × Sink) := do
  require (c.dimensions.width ≠ 0) .zeroWidth
  return c.render options sink

theorem render_eq (c : Canvas) (options : Options) (sink : Sink) :
    render c options sink = .ok (c.render options sink) := by
  have hwidth : c.dimensions.width ≠ 0 := Nat.ne_of_gt c.dimensions.width_pos
  rw [render, require_of hwidth, ok_bind]
  rfl

end Guarded

end PixelScript
