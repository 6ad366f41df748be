import PixelScript.Canvas.Flood

/-!
# What a flood paints

The region of a seed is what can be reached from it by steps down and to the right over points that
show the seed's pixel (`Canvas.Region`). A flood paints exactly the region of its seed, each point once
(`Canvas.fill_region`), in whichever order its points wait.

A step takes one point from the queue and does one of three things (`Flood.Turn`,
`Flood.step_eq_some_iff`). What every step keeps holds after the whole run (`Flood.run_induction`); here this
is `Flood.Painted`, which says what has been painted, and `Flood.Explored`, which says where the flood can
still spread (`Flood.Takes.keeps`).
-/

namespace PixelScript

/-! ## Regions

What a flood is to paint, said without a queue and without marks. -/

/-- The points that show the seed's pixel and are reached from the seed by steps down and to the
right over such points. -/
inductive Canvas.Region (c : Canvas) (seed : Point) : Point → Prop where
  | seed : Region c seed seed
  | down {p : Point} (hp : Region c seed p) (hsame : c.get? p.down = c.get? seed) :
      Region c seed p.down
  | right {p : Point} (hp : Region c seed p) (hsame : c.get? p.right = c.get? seed) :
      Region c seed p.right

/-- All points of a region show the seed's pixel: the seed does, and each step asks for it. -/
theorem Canvas.Region.get?_eq {c : Canvas} {seed q : Point} (h : c.Region seed q) :
    c.get? q = c.get? seed := by
  cases h with
  | seed => rfl
  | down _ hsame => exact hsame
  | right _ hsame => exact hsame

namespace Flood

/-- The neighbours of a point are the points right below and right beside it, as far as they are on
the canvas. -/
theorem mem_neighbours {d : Dimensions} {p q : Point} :
    q ∈ neighbours d p ↔ (q = p.down ∨ q = p.right) ∧ q ∈ d := by
  simp [neighbours]

/-- A neighbour of a point of a region is in the region as soon as it shows the seed's pixel.
Whether it is the lower or the right one makes no difference. -/
theorem region_of_mem_neighbours {c : Canvas} {seed p q : Point} (hp : c.Region seed p)
    (hq : q ∈ neighbours c.dimensions p) (hsame : c.get? q = c.get? seed) : c.Region seed q := by
  rcases (mem_neighbours.1 hq).1 with hdown | hright
  · rw [hdown] at hsame ⊢
    exact .down hp hsame
  · rw [hright] at hsame ⊢
    exact .right hp hsame

/-! ## Steps and runs

What a single step does and how what every step keeps is carried over to a run. Everything that is
said of floods further on goes through the three turns, and no proof opens a step again. -/

/-- What a step does with the point that it takes from the queue. -/
inductive Turn where
  /-- The point was visited before. -/
  | skip (p : Point)
  /-- The point is visited, and does not show the target. -/
  | mark (p : Point)
  /-- The point is visited and painted, and its neighbours wait. -/
  | paint (p : Point)
deriving DecidableEq

namespace Turn

/-- The point that is taken from the queue. -/
def point : Turn → Point
  | skip p | mark p | paint p => p

/-- The point, if it is visited. -/
def visited? : Turn → Option Point
  | skip _ => none
  | mark p | paint p => some p

/-- The point, if it is painted. -/
def painted? : Turn → Option Point
  | skip _ | mark _ => none
  | paint p => some p

end Turn

/-- The turn leads from one flood to the next. -/
inductive Takes (f : Flood) : Turn → Flood → Prop where
  | skip {p : Point} {queue : Queue Point} (hpop : f.queue.pop? = some (p, queue))
      (hstale : f.isFresh p = false) : Takes f (.skip p) { f with queue := queue }
  | mark {p : Point} {queue : Queue Point} (hpop : f.queue.pop? = some (p, queue))
      (hfresh : f.isFresh p) (hother : f.canvas.get? p ≠ some f.target) :
      Takes f (.mark p) ({ f with queue := queue }.mark p)
  | paint {p : Point} {queue : Queue Point} (hpop : f.queue.pop? = some (p, queue))
      (hfresh : f.isFresh p) (htarget : f.canvas.get? p = some f.target) :
      Takes f (.paint p) (({ f with queue := queue }.mark p).spread p)

/-- Every step is a turn, and every turn is a step. What decides between the three turns is in the
turn, so a proof by cases has it at hand. -/
theorem step_eq_some_iff {f g : Flood} : f.step = some g ↔ ∃ t, f.Takes t g := by
  constructor
  · intro h
    unfold step at h
    split at h
    · next p queue hpop =>
      -- the three branches of a visit are the three turns
      obtain rfl := Option.some.inj h
      rw [visit]
      split
      · next hfresh =>
        split
        · next htarget => exact ⟨_, .paint hpop hfresh htarget⟩
        · next hother => exact ⟨_, .mark hpop hfresh hother⟩
      · next hstale => exact ⟨_, .skip hpop (Bool.not_eq_true _ ▸ hstale)⟩
    · cases h
  · rintro ⟨t, hturn⟩
    cases hturn with
    | @skip p queue hpop hstale =>
      have hstale : { f with queue := queue }.isFresh p = false := hstale
      simp [step, hpop, visit, hstale]
    | @mark p queue hpop hfresh hother =>
      have hfresh : { f with queue := queue }.isFresh p = true := hfresh
      simp [step, hpop, visit, hfresh, hother]
    | @paint p queue hpop hfresh htarget =>
      have hfresh : { f with queue := queue }.isFresh p = true := hfresh
      simp [step, hpop, visit, hfresh, htarget]

/-- What every step keeps holds after the whole run. The induction is on the weight, which every
step lowers. -/
theorem run_induction {motive : Flood → Prop}
    (hstep : ∀ f g, f.step = some g → motive f → motive g) {f : Flood} (h : motive f) :
    motive f.run := by
  induction hw : f.weight using Nat.strongRecOn generalizing f with
  | ind weight ih =>
    cases hs : f.step with
    | none =>
      rw [run_of_step_eq_none hs]
      exact h
    | some g =>
      -- the run goes on from a lighter flood
      have hlt : g.weight < weight := hw ▸ weight_step_lt hs
      rw [run_of_step_eq_some hs]
      exact ih g.weight hlt (hstep f g hs h) rfl

/-- A run goes on until nothing waits. By the recursion of `run` itself, which ends only where
nothing can be taken from the queue. -/
theorem toList_queue_run (f : Flood) : f.run.queue.toList = [] := by
  fun_induction run f with
  | case1 f p queue hpop ih => exact ih
  | case2 f hpop => exact Queue.pop?_eq_none_iff.1 hpop

/-- A fresh point is on the canvas, as only points of the canvas are marked or not. -/
theorem mem_of_isFresh {f : Flood} {p : Point} (h : f.isFresh p) : p ∈ f.canvas.dimensions := by
  rw [isFresh, Bool.and_eq_true, decide_eq_true_eq] at h
  exact h.1

/-- Marking a point makes it stale and no other, because no other point has its place among the
marks. -/
theorem isFresh_mark {f : Flood} {p : Point} (hp : p ∈ f.canvas.dimensions) (q : Point) :
    (f.mark p).isFresh q = (!decide (q = p) && f.isFresh q) := by
  show (decide (q ∈ f.canvas.dimensions) &&
    (f.visited.setIfInBounds (f.canvas.dimensions.index p) true)[f.canvas.dimensions.index q]? ==
      some false) = _
  rw [Array.getElem?_setIfInBounds]
  by_cases hq : q = p
  · rw [hq, if_pos rfl]
    -- whatever mark was read at the place, it is overwritten
    split <;> simp
  · -- another point of the canvas has another place
    have hindex : q ∈ f.canvas.dimensions →
        f.canvas.dimensions.index p ≠ f.canvas.dimensions.index q :=
      fun hmem heq => hq ((Dimensions.index_inj hp hmem).1 heq).symm
    by_cases hmem : q ∈ f.canvas.dimensions
    · rw [if_neg (hindex hmem), decide_eq_false hq, Bool.not_false, Bool.true_and, isFresh]
    · simp [isFresh, hmem]

/-- The neighbours of a point that is painted wait behind all others. This is the only change to the
queue besides taking its first point. -/
theorem toList_queue_spread (f : Flood) (p : Point) :
    (f.spread p).queue.toList = f.queue.toList ++ neighbours f.canvas.dimensions p :=
  Queue.toList_foldl_push _ _

/-! ## What has been painted

The first half of the invariant: the canvas as it was, with the listed points painted over. It holds
whatever the marks and the queue are. -/

section Progress

variable {c : Canvas} {seed : Point} {k : Char} {points : List Point} {f g : Flood}

/-- On the canvas that was `c`, the listed points have been painted with `k`, and no others. -/
structure Painted (c : Canvas) (k : Char) (points : List Point) (f : Flood) : Prop where
  dimensions_eq : f.canvas.dimensions = c.dimensions
  pixel_eq : f.pixel = k
  get?_eq : ∀ q, f.canvas.get? q = if q ∈ points then some k else c.get? q
  nodup : points.Nodup
  painted_eq : f.painted = points.length

theorem Painted.mark (h : Painted c k points f) (p : Point) : Painted c k points (f.mark p) :=
  ⟨h.dimensions_eq, h.pixel_eq, h.get?_eq, h.nodup, h.painted_eq⟩

/-- What waits plays no part in what has been painted. -/
theorem Painted.forget (h : Painted c k points f) (queue : Queue Point) :
    Painted c k points { f with queue := queue } :=
  ⟨h.dimensions_eq, h.pixel_eq, h.get?_eq, h.nodup, h.painted_eq⟩

/-- Painting one more point adds it to the list, if it is not there yet. The count goes up with the
list, since every point is listed once. -/
theorem Painted.spread (h : Painted c k points f) {p : Point} (hp : p ∈ f.canvas.dimensions)
    (hnew : p ∉ points) : Painted c k (p :: points) (f.spread p) := by
  refine ⟨h.dimensions_eq, h.pixel_eq, ?_, List.nodup_cons.2 ⟨hnew, h.nodup⟩, ?_⟩
  · -- the new point shows the pixel, and all others are as they were
    intro q
    show (f.canvas.put p f.pixel).get? q = _
    rw [Canvas.get?_put hp, h.get?_eq, h.pixel_eq]
    simp only [List.mem_cons]
    by_cases hq : q = p
    · simp [hq]
    · simp [hq]
  · show f.painted + 1 = _
    rw [h.painted_eq, List.length_cons]

/-! ## Where a flood can spread

The second half of the invariant, on the marks and the queue: the listed points have been dealt with
together with their neighbours, or the neighbours still wait. When nothing waits any more, nothing
can be missing. -/

/-- The listed points are in the region of the seed, their neighbours wait or are stale, and every
stale point that shows the seed's pixel is listed. -/
structure Explored (c : Canvas) (seed : Point) (points : List Point) (f : Flood) : Prop where
  seed_mem : seed ∈ points
  target_eq : c.get? seed = some f.target
  region : ∀ p ∈ points, c.Region seed p
  stale : ∀ p ∈ points, f.isFresh p = false
  listed : ∀ p ∈ c.dimensions, f.isFresh p = false → c.get? p = c.get? seed → p ∈ points
  waiting : ∀ q ∈ f.queue.toList, ∃ p ∈ points, q ∈ neighbours c.dimensions p
  closed : ∀ p ∈ points, ∀ q ∈ neighbours c.dimensions p, f.isFresh q = false ∨ q ∈ f.queue.toList

/-- A fresh point has not been listed, as listed points are stale. -/
theorem Explored.not_mem_of_isFresh (h : Explored c seed points f) {p : Point} (hfresh : f.isFresh p) :
    p ∉ points := by
  intro hp
  have hstale : f.isFresh p = false := h.stale p hp
  exact Bool.false_ne_true (hstale.symm.trans hfresh)

/-- A stale point can be taken from the queue. Where it was needed because it waits, it is needed no
more, as it is stale. -/
theorem Explored.forget (h : Explored c seed points f) {p : Point} {queue : Queue Point}
    (hpop : f.queue.toList = p :: queue.toList) (hstale : f.isFresh p = false) :
    Explored c seed points { f with queue := queue } := by
  refine ⟨h.seed_mem, h.target_eq, h.region, h.stale, h.listed, ?_, ?_⟩
  · intro q hq
    exact h.waiting q (by rw [hpop]; exact List.mem_cons_of_mem p hq)
  · intro p' hp' q hq
    -- the neighbour is stale, or it waits and is either the point that is taken or another one
    rcases h.closed p' hp' q hq with hstale' | hwaits
    · exact .inl hstale'
    · rw [hpop, List.mem_cons] at hwaits
      rcases hwaits with rfl | hwaits
      · exact .inl hstale
      · exact .inr hwaits

/-- A point that does not show the seed's pixel can be marked. It becomes stale without being
listed, which is allowed only because its pixel is another one. -/
theorem Explored.mark (h : Explored c seed points f) {p : Point} (hp : p ∈ f.canvas.dimensions)
    (hother : c.get? p ≠ c.get? seed) : Explored c seed points (f.mark p) := by
  refine ⟨h.seed_mem, h.target_eq, h.region, ?_, ?_, h.waiting, ?_⟩
  · intro q hq
    rw [isFresh_mark hp, h.stale q hq, Bool.and_false]
  · -- the point that is marked shows something else, so only the others have to be listed
    intro q hq hstale hsame
    have hne : q ≠ p := fun heq => hother (heq ▸ hsame)
    rw [isFresh_mark hp] at hstale
    exact h.listed q hq (by simpa [hne] using hstale) hsame
  · intro p' hp' q hq
    rcases h.closed p' hp' q hq with hstale | hwaits
    · exact .inl (by rw [isFresh_mark hp, hstale, Bool.and_false])
    · exact .inr hwaits

/-- A point of the region can be marked and listed once its neighbours wait. Each clause is looked
at for the new point and for those that were listed before. -/
theorem Explored.spread (h : Explored c seed points f) (hdims : f.canvas.dimensions = c.dimensions)
    {p : Point} (hp : p ∈ f.canvas.dimensions) (hregion : c.Region seed p) :
    Explored c seed (p :: points) ((f.mark p).spread p) := by
  have hfresh (q : Point) : ((f.mark p).spread p).isFresh q = (!decide (q = p) && f.isFresh q) :=
    isFresh_mark hp q
  have hqueue : ((f.mark p).spread p).queue.toList =
      f.queue.toList ++ neighbours c.dimensions p := by
    rw [← hdims]
    exact toList_queue_spread (f.mark p) p
  refine ⟨List.mem_cons_of_mem p h.seed_mem, h.target_eq, ?_, ?_, ?_, ?_, ?_⟩
  · intro q hq
    rcases List.mem_cons.1 hq with rfl | hq
    · exact hregion
    · exact h.region q hq
  · intro q hq
    rw [hfresh]
    rcases List.mem_cons.1 hq with rfl | hq
    · simp
    · rw [h.stale q hq, Bool.and_false]
  · intro q hq hstale hsame
    rw [hfresh] at hstale
    -- the new point is listed now, and no other became stale
    by_cases heq : q = p
    · exact heq ▸ List.mem_cons_self
    · exact List.mem_cons_of_mem p (h.listed q hq (by simpa [heq] using hstale) hsame)
  · intro q hq
    rw [hqueue, List.mem_append] at hq
    rcases hq with hq | hq
    · obtain ⟨p', hp', hq⟩ := h.waiting q hq
      exact ⟨p', List.mem_cons_of_mem p hp', hq⟩
    · exact ⟨p, List.mem_cons_self, hq⟩
  · intro p' hp' q hq
    rw [hqueue, List.mem_append, hfresh]
    -- the neighbours of the new point wait now, and those of the others are as they were
    rcases List.mem_cons.1 hp' with rfl | hp'
    · exact .inr (.inr hq)
    · rcases h.closed p' hp' q hq with hstale | hwaits
      · exact .inl (by rw [hstale, Bool.and_false])
      · exact .inr (.inl hwaits)

/-- Once nothing waits, the listed points are the region. They belong to it all along. That none is
missing is by induction on the region: a neighbour of a listed point is stale, and a stale point
with the seed's pixel is listed. -/
theorem Explored.mem_iff (h : Explored c seed points f) (hempty : f.queue.toList = []) (q : Point) :
    q ∈ points ↔ c.Region seed q := by
  refine ⟨h.region q, ?_⟩
  have hnext {p q : Point} (hp : p ∈ points) (hstep : q = p.down ∨ q = p.right)
      (hsame : c.get? q = c.get? seed) : q ∈ points := by
    have hmem : q ∈ c.dimensions := Canvas.mem_dimensions_of_get? (hsame.trans h.target_eq)
    -- nothing waits, so the neighbour must have been dealt with
    rcases h.closed p hp q (mem_neighbours.2 ⟨hstep, hmem⟩) with hstale | hwaits
    · exact h.listed q hmem hstale hsame
    · rw [hempty] at hwaits
      cases hwaits
  intro hq
  induction hq with
  | seed => exact h.seed_mem
  | down _ hsame ih => exact hnext ih (.inl rfl) hsame
  | right _ hsame ih => exact hnext ih (.inr rfl) hsame

/-! ## The whole run

The invariant holds at the start and every turn keeps it, so it holds in the end. This is the one
proof about floods that follows what they do. -/

/-- A turn keeps both halves of the invariant, and the point that it paints joins the list. One case
for each kind of turn: a point that is skipped only leaves the queue, one that is marked is marked
first and then leaves it, and one that is painted is in the region because it waited for a listed
point. -/
theorem Takes.keeps {t : Turn} (h : f.Takes t g) (hpainted : Painted c k points f)
    (hexplored : Explored c seed points f) :
    Painted c k (t.painted?.toList ++ points) g ∧ Explored c seed (t.painted?.toList ++ points) g := by
  have hdims : f.canvas.dimensions = c.dimensions := hpainted.dimensions_eq
  have hget {p : Point} (hfresh : f.isFresh p) : f.canvas.get? p = c.get? p := by
    rw [hpainted.get?_eq, if_neg (hexplored.not_mem_of_isFresh hfresh)]
  cases h with
  | skip hpop hstale =>
    exact ⟨hpainted.forget _, hexplored.forget (Queue.toList_of_pop? hpop) hstale⟩
  | @mark p queue hpop hfresh hother =>
    have hmem : p ∈ f.canvas.dimensions := mem_of_isFresh hfresh
    have hdiffers : c.get? p ≠ c.get? seed := by rwa [hexplored.target_eq, ← hget hfresh]
    -- marked while it still waits, and then taken from the queue as a stale point
    have hmarked : Explored c seed points (f.mark p) := hexplored.mark hmem hdiffers
    have hstale : (f.mark p).isFresh p = false := by simp [isFresh_mark hmem]
    exact ⟨(hpainted.forget queue).mark p, hmarked.forget (Queue.toList_of_pop? hpop) hstale⟩
  | @paint p queue hpop hfresh htarget =>
    have hlist : f.queue.toList = p :: queue.toList := Queue.toList_of_pop? hpop
    have hmem : p ∈ f.canvas.dimensions := mem_of_isFresh hfresh
    have hstale : (f.mark p).isFresh p = false := by simp [isFresh_mark hmem]
    -- the point waited for a listed one, so it is in the region
    have hsame : c.get? p = c.get? seed := by rw [hexplored.target_eq, ← hget hfresh, htarget]
    obtain ⟨p', hp', hnext⟩ := hexplored.waiting p (by rw [hlist]; exact List.mem_cons_self)
    have hregion : c.Region seed p := region_of_mem_neighbours (hexplored.region p' hp') hnext hsame
    have hspread := hexplored.spread hdims hmem hregion
    have hqueue : ((f.mark p).spread p).queue.toList =
        p :: ((neighbours f.canvas.dimensions p).foldl Queue.push queue).toList := by
      rw [toList_queue_spread, Queue.toList_foldl_push, ← List.cons_append, ← hlist]
      rfl
    have hnew : p ∉ points := hexplored.not_mem_of_isFresh hfresh
    exact ⟨((hpainted.forget queue).mark p).spread hmem hnew, hspread.forget hqueue hstale⟩

theorem exists_points_of_step (hstep : f.step = some g)
    (h : ∃ points, Painted c k points f ∧ Explored c seed points f) :
    ∃ points, Painted c k points g ∧ Explored c seed points g := by
  obtain ⟨points, hpainted, hexplored⟩ := h
  obtain ⟨t, hturn⟩ := step_eq_some_iff.1 hstep
  exact ⟨_, hturn.keeps hpainted hexplored⟩

/-- A flood whose seed is still to be painted: nothing was visited, and nothing waits. -/
def untouched (c : Canvas) (target k : Char) : Flood :=
  ⟨c, target, k, Array.replicate c.dimensions.area false, Queue.empty, 0⟩

/-- A flood starts by marking and painting its seed, as it does with every other point that it
paints. -/
theorem start_eq (c : Canvas) (seed : Point) (target k : Char) :
    start c seed target k = ((untouched c target k).mark seed).spread seed := rfl

theorem isFresh_untouched (c : Canvas) (target k : Char) (q : Point) :
    (untouched c target k).isFresh q = decide (q ∈ c.dimensions) := by
  by_cases hq : q ∈ c.dimensions
  · simp [isFresh, untouched, hq, Dimensions.index_lt_area hq]
  · simp [isFresh, untouched, hq]

theorem isFresh_start (hseed : seed ∈ c.dimensions) (target k : Char) (q : Point) :
    (start c seed target k).isFresh q = (!decide (q = seed) && decide (q ∈ c.dimensions)) := by
  rw [← isFresh_untouched c target k]
  exact isFresh_mark hseed q

theorem toList_queue_start (c : Canvas) (seed : Point) (target k : Char) :
    (start c seed target k).queue.toList = neighbours c.dimensions seed :=
  toList_queue_spread _ seed

/-- A flood starts with its seed painted and nothing else, by the step that paints a point. -/
theorem painted_start (hseed : seed ∈ c.dimensions) (target k : Char) :
    Painted c k [seed] (start c seed target k) := by
  have hnone : Painted c k [] (untouched c target k) :=
    ⟨rfl, rfl, fun q => (if_neg List.not_mem_nil).symm, List.nodup_nil, rfl⟩
  exact (hnone.mark seed).spread hseed List.not_mem_nil

/-- A flood starts with the neighbours of its seed waiting, so the invariant holds for the list of
the seed alone. -/
theorem explored_start {target : Char} (htarget : c.get? seed = some target) (k : Char) :
    Explored c seed [seed] (start c seed target k) := by
  have hstale := isFresh_start (Canvas.mem_dimensions_of_get? htarget) target k
  have hqueue := toList_queue_start c seed target k
  refine ⟨List.mem_singleton_self seed, htarget, ?_, ?_, ?_, ?_, ?_⟩
  · intro p hp
    rw [List.mem_singleton.1 hp]
    exact .seed
  · intro p hp
    simp [hstale, List.mem_singleton.1 hp]
  · intro p hp hfalse _
    -- the seed is the only point that is stale at the start
    simpa [hstale, hp] using hfalse
  · intro q hq
    exact ⟨seed, List.mem_singleton_self seed, hqueue ▸ hq⟩
  · intro p hp q hq
    rw [hqueue]
    exact .inr (List.mem_singleton.1 hp ▸ hq)

end Progress

end Flood

namespace Canvas

/-- A flood from a point of the canvas paints its region and nothing else, and counts each point of
the region once. The list of painted points that the invariant speaks of is the region when the run
ends. -/
theorem fill_region {c : Canvas} {seed : Point} (h : seed ∈ c.dimensions) (k : Char) :
    ∃ (points : List Point) (c' : Canvas),
      c.fill seed k = .ok (points.length, c') ∧ c'.dimensions = c.dimensions ∧
      points.Nodup ∧ (∀ q, q ∈ points ↔ c.Region seed q) ∧
      ∀ q, c'.get? q = if q ∈ points then some k else c.get? q := by
  obtain ⟨target, htarget⟩ := exists_get?_of_mem h
  obtain ⟨points, hpainted, hexplored⟩ :=
    Flood.run_induction (fun _ _ => Flood.exists_points_of_step)
      ⟨[seed], Flood.painted_start h target k, Flood.explored_start htarget k⟩
  have hempty := (Flood.start c seed target k).toList_queue_run
  refine ⟨points, (Flood.start c seed target k).run.canvas, ?_, hpainted.dimensions_eq,
    hpainted.nodup, hexplored.mem_iff hempty, hpainted.get?_eq⟩
  rw [fill, get, htarget, ← hpainted.painted_eq]

/-- What most proofs need of a flood: it succeeds on the canvas, keeps its size, and shows no pixel
that is neither old nor the new one. -/
theorem fill_of_mem {c : Canvas} {seed : Point} (h : seed ∈ c.dimensions) (k : Char) :
    ∃ count c', c.fill seed k = .ok (count, c') ∧ c'.dimensions = c.dimensions ∧
      ∀ q, c'.get? q = c.get? q ∨ c'.get? q = some k := by
  obtain ⟨points, c', hfill, hdims, -, -, hget⟩ := fill_region h k
  refine ⟨points.length, c', hfill, hdims, ?_⟩
  intro q
  rw [hget]
  split
  · exact .inr rfl
  · exact .inl rfl

theorem fill_of_not_mem {c : Canvas} {seed : Point} (h : seed ∉ c.dimensions) (k : Char) :
    c.fill seed k = .error (.outOfBounds seed c.dimensions) := by
  rw [fill, get, get?_eq_none_iff.2 h]

end Canvas

end PixelScript
