import Mathlib.Data.List.Nodup
import PixelScript.Proofs.Canvas.Guarded
import PixelScript.Proofs.Canvas.Points

/-!
# The work list of a flood

What the points that wait are, and what becomes of them. The turns that a flood has taken so far are listed
(`Flood.Turns`), and with them the points that were visited, painted, and sent to wait. The queue hands out
the points in the order in which they joined it (`Flood.Turns.joinedBy_eq`). A point joins it for the one
above it or for the one to its left, so at most twice (`Flood.count_joinedBy_le`), and it is visited at most
once, since visiting it makes it stale (`Flood.Turns.isFresh_iff`). `Flood.WorkList` says all of this of a
flood in progress, whichever pixel it paints with (`Canvas.fill_workList`).
-/

namespace PixelScript

/-! ## Below and to the right

A flood goes on to the point below and to the one to the right. On a canvas both ways can be undone,
which is why no point is sent to wait more often than there are ways to it. -/

theorem Point.down_inj {d : Dimensions} {p q : Point} (hp : p ∈ d) (hq : q ∈ d) (h : p.down = q.down) :
    p = q := by
  have hprow : p.row < Number.largest := Nat.lt_of_le_of_lt hp.2.2 d.height_lt_largest
  have hqrow : q.row < Number.largest := Nat.lt_of_le_of_lt hq.2.2 d.height_lt_largest
  have hcol : p.down.col = q.down.col := by rw [h]
  have hnext : p.down.row = q.down.row := by rw [h]
  -- the rows of a canvas are too small for the last number to be their next one
  have hrow : p.row = q.row := (Number.next_inj hprow hqrow).1 hnext
  obtain ⟨pcol, prow⟩ := p
  obtain ⟨qcol, qrow⟩ := q
  exact (Point.mk.injEq ..).mpr ⟨hcol, hrow⟩

/-- Two points of a canvas have different points to their right. This is the statement about
columns, transposed. -/
theorem Point.right_inj {d : Dimensions} {p q : Point} (hp : p ∈ d) (hq : q ∈ d)
    (h : p.right = q.right) : p = q := by
  have hdown : p.transpose.down = q.transpose.down := by
    rw [← transpose_right, ← transpose_right, h]
  have hsame := down_inj (Dimensions.mem_transpose.2 hp) (Dimensions.mem_transpose.2 hq) hdown
  rw [← transpose_transpose p, hsame, transpose_transpose]

/-- A region lies below its seed and to the right of it. -/
theorem Canvas.Region.seed_le {c : Canvas} {seed p : Point} (h : c.Region seed p) :
    seed.col ≤ p.col ∧ seed.row ≤ p.row := by
  -- each step goes down or to the right, and numbers only grow on the way
  induction h with
  | seed => exact ⟨Nat.le_refl _, Nat.le_refl _⟩
  | down _ _ ih => exact ⟨ih.1, Nat.le_trans ih.2 (Number.le_next _)⟩
  | right _ _ ih => exact ⟨Nat.le_trans ih.1 (Number.le_next _), ih.2⟩

namespace Flood

theorem le_of_mem_neighbours {d : Dimensions} {p q : Point} (h : q ∈ neighbours d p) :
    p.col ≤ q.col ∧ p.row ≤ q.row := by
  rcases (mem_neighbours.1 h).1 with rfl | rfl
  · exact ⟨Nat.le_refl _, Number.le_next _⟩
  · exact ⟨Number.le_next _, Nat.le_refl _⟩

/-- A point is sent to wait no more often than it is below one of the points or to the right of one.
Induction on the points. -/
theorem count_flatMap_neighbours_le (d : Dimensions) (points : List Point) (q : Point) :
    (points.flatMap (neighbours d)).count q ≤
      (points.map Point.down).count q + (points.map Point.right).count q := by
  induction points with
  | nil => exact Nat.le_refl _
  | cons p rest ih =>
    -- of the two neighbours of a point, those off the canvas are left out
    have hfirst : (neighbours d p).count q ≤ [p.down, p.right].count q :=
      List.filter_sublist.count_le q
    rw [List.flatMap_cons, List.count_append, List.map_cons, List.map_cons]
    simp only [List.count_cons, List.count_nil] at hfirst ⊢
    omega

/-! ## A record of the turns

A run is followed with a list of its turns, the last of them at the end. What was visited, painted
and sent to wait is read off the list, so it can be spoken of after the queue has forgotten it. -/

/-- The turns lead from one flood to another, the first of them first. -/
inductive Turns (first : Flood) : List Turn → Flood → Prop where
  | nil : Turns first [] first
  | concat {turns : List Turn} {t : Turn} {f g : Flood} (hturns : Turns first turns f)
      (hturn : f.Takes t g) : Turns first (turns ++ [t]) g

/-- The points that were visited: the seed, and then one after the other. -/
def visitedBy (seed : Point) (turns : List Turn) : List Point :=
  seed :: turns.filterMap Turn.visited?

/-- The points that were painted: the seed, and then one after the other. -/
def paintedBy (seed : Point) (turns : List Turn) : List Point :=
  seed :: turns.filterMap Turn.painted?

/-- The points that were sent to wait, one after the other. -/
def joinedBy (d : Dimensions) (seed : Point) (turns : List Turn) : List Point :=
  (paintedBy seed turns).flatMap (neighbours d)

theorem visitedBy_concat (seed : Point) (turns : List Turn) (t : Turn) :
    visitedBy seed (turns ++ [t]) = visitedBy seed turns ++ t.visited?.toList := by
  cases t <;> simp [visitedBy, Turn.visited?]

theorem paintedBy_concat (seed : Point) (turns : List Turn) (t : Turn) :
    paintedBy seed (turns ++ [t]) = paintedBy seed turns ++ t.painted?.toList := by
  cases t <;> simp [paintedBy, Turn.painted?]

/-- One more turn sends the neighbours of the point that it paints to wait, behind those that were
sent before. -/
theorem joinedBy_concat (d : Dimensions) (seed : Point) (turns : List Turn) (t : Turn) :
    joinedBy d seed (turns ++ [t]) =
      joinedBy d seed turns ++ t.painted?.toList.flatMap (neighbours d) := by
  rw [joinedBy, paintedBy_concat, List.flatMap_append, joinedBy]

/-! ## What a turn does

The three kinds of turns are looked at one by one, and what is said here holds of any flood. Later
proofs take a turn as a whole and do not ask of which kind it is. -/

section Turns

variable {c : Canvas} {seed : Point} {k target : Char} {first f g : Flood} {t : Turn} {turns : List Turn}

/-- The point that has waited longest is taken, and the neighbours of a point that is painted wait behind
all others. -/
theorem Takes.toList_queue (h : f.Takes t g) :
    ∃ rest, f.queue.toList = t.point :: rest ∧
      g.queue.toList = rest ++ t.painted?.toList.flatMap (neighbours f.canvas.dimensions) := by
  cases h with
  | @skip p queue hpop => exact ⟨queue.toList, Queue.toList_of_pop? hpop, (List.append_nil _).symm⟩
  | @mark p queue hpop => exact ⟨queue.toList, Queue.toList_of_pop? hpop, (List.append_nil _).symm⟩
  | @paint p queue hpop =>
    refine ⟨queue.toList, Queue.toList_of_pop? hpop, ?_⟩
    rw [toList_queue_spread]
    exact congrArg (queue.toList ++ ·) (List.flatMap_singleton ..).symm

/-- Only a fresh point is visited. A point that is stale when its turn comes is skipped. -/
theorem Takes.isFresh_of_visited (h : f.Takes t g) {p : Point} (hp : t.visited? = some p) :
    f.isFresh p := by
  cases h with
  | skip => cases hp
  | mark _ hfresh => exact Option.some.inj hp ▸ hfresh
  | paint _ hfresh => exact Option.some.inj hp ▸ hfresh

/-- A point that is visited is stale from then on, and no other point becomes stale. -/
theorem Takes.isFresh_iff (h : f.Takes t g) (q : Point) :
    g.isFresh q ↔ f.isFresh q ∧ t.visited? ≠ some q := by
  have hvisit {p : Point} (hmark : g.isFresh q = (!decide (q = p) && f.isFresh q)) :
      g.isFresh q ↔ f.isFresh q ∧ some p ≠ some q := by
    rw [hmark, Bool.and_eq_true, Bool.not_eq_true', decide_eq_false_iff_not, and_comm, ne_eq,
      Option.some.injEq, @eq_comm _ q p]
  cases h with
  | skip => exact (and_iff_left nofun).symm
  | mark _ hfresh => exact hvisit (isFresh_mark (mem_of_isFresh hfresh) q)
  | paint _ hfresh => exact hvisit (isFresh_mark (mem_of_isFresh hfresh) q)

/-- Only the point that is painted can come to show something else. -/
theorem Takes.get?_eq (h : f.Takes t g) {q : Point} (hq : t.painted? ≠ some q) :
    g.canvas.get? q = f.canvas.get? q := by
  cases h with
  | skip => rfl
  | mark => rfl
  | paint _ hfresh =>
    have hne : q ≠ _ := fun heq => hq (congrArg some heq.symm)
    exact (Canvas.get?_put (mem_of_isFresh hfresh)).trans (if_neg hne)

/-! ## What the turns have done

Here the statements about one turn are put together along the record, by induction on it. The seed
comes first in every list, as it is visited and painted before the loop begins. -/

/-- Every step can be recorded as a turn, so a run has a record. -/
theorem exists_turns (f : Flood) : ∃ turns, f.Turns turns f.run := by
  refine run_induction (motive := fun g => ∃ turns, f.Turns turns g) ?_ ⟨[], .nil⟩
  rintro g h hstep ⟨turns, hturns⟩
  obtain ⟨t, hturn⟩ := step_eq_some_iff.1 hstep
  exact ⟨turns ++ [t], hturns.concat hturn⟩

/-- Every turn lowers the weight, so there is an end to the turns. -/
theorem Takes.weight_lt (h : f.Takes t g) : g.weight < f.weight :=
  weight_step_lt (step_eq_some_iff.2 ⟨t, h⟩)

/-- There are never more turns than the weight that is left allows. -/
theorem Turns.length_add_weight_le (h : first.Turns turns f) : turns.length + f.weight ≤ first.weight := by
  induction h with
  | nil => exact Nat.le_of_eq (Nat.zero_add _)
  | concat _ hturn ih =>
    have hlt := hturn.weight_lt
    rw [List.length_append, List.length_singleton]
    omega

/-- Throughout the record the flood is about the points of the first canvas, whose dimensions do not
change. -/
theorem Turns.onCanvas (h : (start c seed target k).Turns turns f) :
    f.OnCanvas ∧ f.canvas.dimensions = c.dimensions := by
  apply onCanvas_of_steps
  induction h with
  | nil => exact .refl
  | concat _ hturn ih => exact ih.tail (step_eq_some_iff.2 ⟨_, hturn⟩)

/-- What is known about the points of a flood in progress holds of the points on record. -/
theorem Turns.keeps (htarget : c.get? seed = some target) (h : (start c seed target k).Turns turns f) :
    Painted c k (paintedBy seed turns).reverse f ∧ Explored c seed (paintedBy seed turns).reverse f := by
  induction h with
  | nil =>
    have hseed := Canvas.mem_dimensions_of_get? htarget
    exact ⟨painted_start hseed target k, explored_start htarget k⟩
  | @concat turns t f g _ hturn ih =>
    have hlist : (paintedBy seed (turns ++ [t])).reverse =
        t.painted?.toList ++ (paintedBy seed turns).reverse := by
      rw [paintedBy_concat, List.reverse_append]
      cases t <;> rfl
    rw [hlist]
    exact hturn.keeps ih.1 ih.2

/-- The points of the canvas that were not visited are the fresh ones. -/
theorem Turns.isFresh_iff (hseed : seed ∈ c.dimensions) (h : (start c seed target k).Turns turns f)
    (p : Point) : f.isFresh p ↔ p ∈ c.dimensions ∧ p ∉ visitedBy seed turns := by
  induction h with
  | nil => simp [isFresh_start hseed, visitedBy, and_comm]
  | concat _ hturn ih =>
    rw [hturn.isFresh_iff, ih, visitedBy_concat, List.mem_append, not_or, Option.mem_toList, and_assoc]

/-- No point is visited twice, and the seed is not visited again. -/
theorem Turns.nodup_visitedBy (hseed : seed ∈ c.dimensions)
    (h : (start c seed target k).Turns turns f) : (visitedBy seed turns).Nodup := by
  induction h with
  | nil => exact List.nodup_singleton seed
  | @concat turns t f g hturns hturn ih =>
    rw [visitedBy_concat, List.nodup_append]
    refine ⟨ih, by cases t.visited? <;> simp, ?_⟩
    intro p hp q hq heq
    -- a point that is visited was fresh before, so it is not on record
    have hfresh := hturn.isFresh_of_visited (Option.mem_toList.1 hq)
    rw [hturns.isFresh_iff hseed] at hfresh
    exact hfresh.2 (heq ▸ hp)

/-- The queue hands out the points in the order in which they joined it. -/
theorem Turns.joinedBy_eq (h : (start c seed target k).Turns turns f) :
    joinedBy c.dimensions seed turns = turns.map Turn.point ++ f.queue.toList := by
  induction h with
  | nil => simp [joinedBy, paintedBy, toList_queue_start]
  | @concat turns t f g hturns hturn ih =>
    obtain ⟨rest, hf, hg⟩ := hturn.toList_queue
    rw [joinedBy_concat, ih, hf, hg, hturns.onCanvas.2]
    simp

/-- A point is sent to wait by the point above it and by the one to its left, and by no other. -/
theorem count_joinedBy_le {d : Dimensions} (hnodup : (paintedBy seed turns).Nodup)
    (hmem : ∀ p ∈ paintedBy seed turns, p ∈ d) (q : Point) : (joinedBy d seed turns).count q ≤ 2 := by
  have hdown : ((paintedBy seed turns).map Point.down).Nodup :=
    hnodup.map_on fun p hp q hq => Point.down_inj (hmem p hp) (hmem q hq)
  have hright : ((paintedBy seed turns).map Point.right).Nodup :=
    hnodup.map_on fun p hp q hq => Point.right_inj (hmem p hp) (hmem q hq)
  -- once for each way to the point, and each way comes from one point only
  calc (joinedBy d seed turns).count q
      ≤ ((paintedBy seed turns).map Point.down).count q +
        ((paintedBy seed turns).map Point.right).count q := count_flatMap_neighbours_le d _ q
    _ ≤ 1 + 1 := by
        apply Nat.add_le_add
        · exact List.nodup_iff_count_le_one.1 hdown q
        · exact List.nodup_iff_count_le_one.1 hright q

/-- The points that were not visited are as many as the marks that say so. A mark is found at the
place where its point is stored, so both sides count the points of the canvas in storage order. -/
theorem OnCanvas.encard_fresh (h : f.OnCanvas) : {p | f.isFresh p}.encard = f.visited.count false := by
  let d := f.canvas.dimensions
  have hmarks : f.visited.toList = d.points.map fun p => !f.isFresh p := by
    apply List.ext_getElem
    · rw [Array.length_toList, List.length_map, Dimensions.length_points, h.size_visited]
    · intro i hi _
      rw [Array.length_toList] at hi
      have hread : f.visited[d.index (d.pointAt i)]? = some f.visited[i] := by
        rw [Dimensions.index_pointAt, Array.getElem?_eq_getElem hi]
      have hmem : d.pointAt i ∈ d := Dimensions.pointAt_mem (h.size_visited ▸ hi)
      simp [Dimensions.points, Guarded.isFresh_eq_of_mem hmem hread]
  -- counting marks is counting the points that they stand for
  have hcount : f.visited.count false = (d.points.filter f.isFresh).length := by
    rw [← Array.count_toList, hmarks, List.count_eq_countP, List.countP_map, List.countP_eq_length_filter]
    congr 2
    funext p
    simp
  rw [hcount]
  apply Point.encard_eq_length (d.nodup_points.filter _)
  intro p
  rw [List.mem_filter, Dimensions.mem_points]
  exact ⟨fun hp => ⟨mem_of_isFresh hp, hp⟩, And.right⟩

/-- A flood begins with less weight than three for every point. Visiting the seed takes three away,
and at most two neighbours of it wait. -/
theorem weight_start_lt (hseed : seed ∈ c.dimensions) (target k : Char) :
    (start c seed target k).weight < 3 * c.dimensions.area := by
  let f : Flood := untouched c target k
  have hweight : f.weight = 3 * c.dimensions.area := by
    simp [weight, f, untouched, Queue.size, Queue.empty]
  have hfresh : f.isFresh seed := by rw [isFresh_untouched, decide_eq_true hseed]
  have hmark : (f.mark seed).weight + 3 = f.weight := weight_mark hfresh
  have hspread : (start c seed target k).weight ≤ (f.mark seed).weight + 2 := by
    rw [start_eq]
    exact weight_spread_le _ seed
  omega

end Turns

/-! ## The work list

The record and the flood are now put side by side. Each field is a statement about both, so that a
reader can follow a flood at any moment without looking into the loop. -/

/-- How a flood from the seed with the pixel `k`, on the canvas that was `c`, stands after the turns. -/
structure WorkList (c : Canvas) (seed : Point) (k : Char) (turns : List Turn) (f : Flood) : Prop where
  /-- Only points of the canvas wait, and they lie below the seed and to its right. -/
  waiting : ∀ p ∈ f.queue.toList, p ∈ c.dimensions ∧ seed.col ≤ p.col ∧ seed.row ≤ p.row
  /-- The points that were sent to wait were taken from the queue in the same order, or still wait. -/
  joinedBy_eq : joinedBy c.dimensions seed turns = turns.map Turn.point ++ f.queue.toList
  /-- No point was sent to wait more than twice. -/
  count_joinedBy_le : ∀ p, (joinedBy c.dimensions seed turns).count p ≤ 2
  /-- No point was visited twice. -/
  nodup_visitedBy : (visitedBy seed turns).Nodup
  /-- The fresh points are those that were not visited. -/
  isFresh_iff : ∀ p, f.isFresh p ↔ p ∈ c.dimensions ∧ p ∉ visitedBy seed turns
  /-- The points that were painted show the pixel, and the others what they showed at first. -/
  get?_eq : ∀ p, f.canvas.get? p = if p ∈ paintedBy seed turns then some k else c.get? p
  /-- The points that were painted are counted once each. -/
  encard_paintedBy : {p | p ∈ paintedBy seed turns}.encard = f.painted
  painted_le : f.painted ≤ c.dimensions.area
  /-- The weight is three for every fresh point and one for every point that waits. -/
  weight_eq : (f.weight : ℕ∞) = 3 * {p | f.isFresh p}.encard + f.queue.toList.length
  /-- A turn paints a point only if the point is fresh and still shows what it showed at first, which is
  what the seed showed. -/
  paints : ∀ p g, f.Takes (.paint p) g →
    f.isFresh p ∧ f.canvas.get? p = c.get? p ∧ c.get? p = c.get? seed
  /-- All points that it does not paint show what they showed before. -/
  keeps : ∀ t g, f.Takes t g → ∀ p, t.painted? ≠ some p → g.canvas.get? p = f.canvas.get? p
  /-- Every turn lowers the weight. -/
  lowers : ∀ t g, f.Takes t g → g.weight < f.weight

variable {c : Canvas} {seed : Point} {k target : Char} {f : Flood} {turns : List Turn}

/-- However many turns a flood has taken, its work list is in order. -/
theorem Turns.workList (htarget : c.get? seed = some target)
    (h : (start c seed target k).Turns turns f) : WorkList c seed k turns f := by
  obtain ⟨hpainted, hexplored⟩ := h.keeps htarget
  obtain ⟨honCanvas, -⟩ := h.onCanvas
  have hseed : seed ∈ c.dimensions := Canvas.mem_dimensions_of_get? htarget
  have hregion (p : Point) (hp : p ∈ paintedBy seed turns) : c.Region seed p :=
    hexplored.region p (List.mem_reverse.2 hp)
  have hmem (p : Point) (hp : p ∈ paintedBy seed turns) : p ∈ c.dimensions :=
    Canvas.mem_dimensions_of_get? ((hregion p hp).get?_eq.trans htarget)
  have hnodup : (paintedBy seed turns).Nodup := List.nodup_reverse.1 hpainted.nodup
  have hlength : f.painted = (paintedBy seed turns).length := by
    rw [hpainted.painted_eq, List.length_reverse]
  have hget (p : Point) : f.canvas.get? p = if p ∈ paintedBy seed turns then some k else c.get? p := by
    rw [hpainted.get?_eq]
    simp only [List.mem_reverse]
  refine ⟨?_, h.joinedBy_eq, count_joinedBy_le hnodup hmem, h.nodup_visitedBy hseed, h.isFresh_iff hseed,
    hget, ?_, ?_, ?_, ?_, fun t g hturn p => hturn.get?_eq, fun t g hturn => hturn.weight_lt⟩
  · intro q hq
    -- what waits is next to a point of the region
    obtain ⟨p, hp, hnext⟩ := hexplored.waiting q hq
    have hseedle := (hregion p (List.mem_reverse.1 hp)).seed_le
    have hle := le_of_mem_neighbours hnext
    exact ⟨(mem_neighbours.1 hnext).2, Nat.le_trans hseedle.1 hle.1, Nat.le_trans hseedle.2 hle.2⟩
  · rw [hlength]
    exact Point.encard_eq_length hnodup fun _ => Iff.rfl
  · have hsub : paintedBy seed turns ⊆ c.dimensions.points := fun p hp => Dimensions.mem_points.2 (hmem p hp)
    rw [hlength, ← Dimensions.length_points]
    exact (List.subperm_of_subset hnodup hsub).length_le
  · rw [honCanvas.encard_fresh, Queue.length_toList, weight]
    push_cast
    rfl
  · intro p g hturn
    cases hturn with
    | paint _ hfresh hshows =>
      have hnew := hexplored.not_mem_of_isFresh hfresh
      have hsame : f.canvas.get? p = c.get? p := by rw [hpainted.get?_eq, if_neg hnew]
      exact ⟨hfresh, hsame, by rw [hexplored.target_eq, ← hsame, hshows]⟩

end Flood

/-- Throughout a flood, whichever pixel it paints with, the work list is in order, and every step is a turn.
There are fewer turns than three times the area of the canvas, and the last of them leaves the count and
the canvas that are given back. -/
theorem Canvas.fill_workList {c : Canvas} {seed : Point} (hseed : seed ∈ c.dimensions) (k : Char) :
    ∃ target, c.get seed = .ok target ∧
      (∀ turns f, (Flood.start c seed target k).Turns turns f →
        Flood.WorkList c seed k turns f ∧ (∀ g, f.step = some g ↔ ∃ t, f.Takes t g) ∧
          turns.length + f.weight < 3 * c.dimensions.area) ∧
      ∃ turns f, (Flood.start c seed target k).Turns turns f ∧ f.queue.toList = [] ∧
        c.fill seed k = .ok (f.painted, f.canvas) := by
  obtain ⟨target, hshows⟩ := exists_get?_of_mem hseed
  have htarget : c.get seed = .ok target := by rw [get, hshows]
  refine ⟨target, htarget, ?_, ?_⟩
  · intro turns f hturns
    refine ⟨hturns.workList hshows, fun g => Flood.step_eq_some_iff, ?_⟩
    exact Nat.lt_of_le_of_lt hturns.length_add_weight_le (Flood.weight_start_lt hseed target k)
  · obtain ⟨turns, hturns⟩ := (Flood.start c seed target k).exists_turns
    refine ⟨turns, _, hturns, Flood.toList_queue_run _, ?_⟩
    rw [fill, htarget]

/-- The lower right corner waits for the point above it and for the one to its left. It is painted once,
although it shows the same pixel afterwards. -/
theorem Canvas.fill_workList_corner :
    let c := blank ⟨2, 2, by decide, by decide, by decide, by decide⟩
    let turns : List Flood.Turn := [.paint ⟨1, 2⟩, .paint ⟨2, 1⟩, .paint ⟨2, 2⟩, .skip ⟨2, 2⟩]
    (⟨1, 1⟩ : Point) ∈ c.dimensions ∧ ∃ f, (Flood.start c ⟨1, 1⟩ 'O' 'O').Turns turns f ∧
      Flood.WorkList c ⟨1, 1⟩ 'O' turns f ∧ f.painted = 4 ∧ f.queue.toList = [] ∧
      (Flood.joinedBy c.dimensions ⟨1, 1⟩ turns).count ⟨2, 2⟩ = 2 := by
  intro c turns
  have hmem : (⟨1, 1⟩ : Point) ∈ c.dimensions := by decide
  have hrecord : ∃ f, (Flood.start c ⟨1, 1⟩ 'O' 'O').Turns turns f ∧ f.painted = 4 ∧
      f.queue.toList = [] :=
    ⟨_, (((Flood.Turns.nil.concat (.paint rfl rfl rfl)).concat (.paint rfl rfl rfl)).concat
      (.paint rfl rfl rfl)).concat (.skip rfl rfl), rfl, rfl⟩
  obtain ⟨f, hturns, hpainted, hempty⟩ := hrecord
  obtain ⟨target, htarget, hall, -⟩ := fill_workList hmem 'O'
  obtain rfl : 'O' = target := Except.ok.inj htarget
  exact ⟨hmem, f, hturns, (hall turns f hturns).1, hpainted, hempty, by decide⟩

end PixelScript
