import PixelScript.Canvas.Segment
import PixelScript.Proofs.Canvas.Points

/-!
# What a segment paints

A segment is painted from its lower end on. If that end is on the canvas, everything up to the upper
end or the edge of the canvas is painted, and the segment succeeds unless the edge comes first;
otherwise nothing is painted. `drawVertical_result` and `get?_drawVertical` say so of columns,
`drawHorizontal_result` and `get?_drawHorizontal` of rows. Both come from the same facts about any
line that crosses a canvas, and so does the account of all the ways in which a segment can end
(`segmentOutcome_draw`).
-/

namespace PixelScript

/-! ## Along a line

Columns and rows have everything in common that matters to a segment. A line crosses the canvas or
does not, and if it does, its points on the canvas are those with a place from one to the last. -/

/-- The points of a line are known by their places, and either none of them is on the canvas or
those from the first place to the last one are. -/
structure Crossing (d : Dimensions) (line : Nat → Point) (place : Point → Nat) (last : Nat)
    (crosses : Prop) : Prop where
  mem_iff : ∀ i, line i ∈ d ↔ crosses ∧ 1 ≤ i ∧ i ≤ last
  place_line : ∀ i, place (line i) = i

/-- A column crosses the canvas if it is one of its columns, and its last place is the last row. -/
theorem crossing_column (d : Dimensions) (col : Nat) :
    Crossing d (fun row => ⟨col, row⟩) Point.row d.height (1 ≤ col ∧ col ≤ d.width) :=
  ⟨fun _ => Iff.rfl, fun _ => rfl⟩

theorem crossing_row (d : Dimensions) (row : Nat) :
    Crossing d (fun col => ⟨col, row⟩) Point.col d.width (1 ≤ row ∧ row ≤ d.height) :=
  ⟨fun _ => And.comm, fun _ => rfl⟩

/-- The line goes on from a point of the canvas until it comes to the edge, so if the next point is
off the canvas, this is the last place. -/
theorem Crossing.eq_last {d : Dimensions} {line : Nat → Point} {place : Point → Nat} {last : Nat}
    {crosses : Prop} (hline : Crossing d line place last crosses) {start : Nat}
    (hstart : line start ∈ d) (hnext : line (start + 1) ∉ d) : start = last := by
  obtain ⟨hcrosses, hpos, hle⟩ := (hline.mem_iff start).1 hstart
  -- a line that crosses the canvas leaves it nowhere but at its last place
  have hpast : ¬start + 1 ≤ last := fun h =>
    hnext ((hline.mem_iff (start + 1)).2 ⟨hcrosses, by omega, h⟩)
  omega

namespace Canvas

section Line

variable {line : Nat → Point} {place : Point → Nat} {last : Nat} {crosses : Prop} {k : Char}

/-- A run succeeds if it is empty or its points are all on the canvas. If not, the first one that is
not is reported: the first of all, or the one past the last. Induction on the number of points that
are left, with the first of them painted or refused. -/
theorem paintRun_result {c : Canvas} (hline : Crossing c.dimensions line place last crosses)
    (count start : Nat) :
    (paintRun line k count start c).1 =
      if count = 0 then .ok ()
      else if line start ∉ c.dimensions then .error (.outOfBounds (line start) c.dimensions)
      else if start + count ≤ last + 1 then .ok ()
      else .error (.outOfBounds (line (last + 1)) c.dimensions) := by
  induction count generalizing start c with
  | zero => rfl
  | succ count ih =>
    rw [if_neg (Nat.succ_ne_zero count)]
    by_cases hstart : line start ∈ c.dimensions
    · have hle := ((hline.mem_iff start).1 hstart).2.2
      rw [paintRun_of_mem hstart, ih (c := c.put (line start) k) hline, if_neg (not_not_intro hstart),
        dimensions_put]
      -- with one point left, the run ends on the canvas
      by_cases hcount : count = 0
      · rw [if_pos hcount, if_pos (by omega)]
      · rw [if_neg hcount]
        by_cases hnext : line (start + 1) ∈ c.dimensions
        · rw [if_neg (not_not_intro hnext), Nat.add_assoc, Nat.add_comm 1 count]
        · have hedge := hline.eq_last hstart hnext
          -- the run has come to the edge, with points left to paint
          rw [if_pos hnext, if_neg (by omega), hedge]
    · -- the first point is refused already
      rw [paintRun_of_not_mem hstart, if_pos hstart]

/-- A run whose first point is on the canvas paints all its points that are. What is painted does
not depend on whether the run succeeds in the end. Induction on the number of points that are left.
-/
theorem get?_paintRun {c : Canvas} (hline : Crossing c.dimensions line place last crosses)
    (count start : Nat) (q : Point) :
    (paintRun line k count start c).2.get? q =
      if line start ∈ c.dimensions ∧ q = line (place q) ∧
          start ≤ place q ∧ place q < start + count ∧ place q ≤ last
      then some k else c.get? q := by
  induction count generalizing start c with
  | zero =>
    rw [if_neg (by omega)]
    rfl
  | succ count ih =>
    by_cases hstart : line start ∈ c.dimensions
    · obtain ⟨hcrosses, hpos, hle⟩ := (hline.mem_iff start).1 hstart
      rw [paintRun_of_mem hstart, ih (c := c.put (line start) k) hline, get?_put hstart,
        dimensions_put]
      by_cases hq : q = line start
      · have hplace : place q = start := by rw [hq, hline.place_line]
        -- the first point is painted, and painted over at most with the same pixel
        rw [if_pos hq, ite_self, if_pos ⟨hstart, by rw [hplace, hq], by omega, by omega, by omega⟩]
      · -- another point is covered by the whole run just if it is by the run from the next point on
        have hiff : (line (start + 1) ∈ c.dimensions ∧ q = line (place q) ∧
            start + 1 ≤ place q ∧ place q < start + 1 + count ∧ place q ≤ last) ↔
            (line start ∈ c.dimensions ∧ q = line (place q) ∧
              start ≤ place q ∧ place q < start + (count + 1) ∧ place q ≤ last) := by
          constructor
          · rintro ⟨-, hon, hfrom, hto, hlast⟩
            exact ⟨hstart, hon, by omega, by omega, hlast⟩
          · rintro ⟨-, hon, hfrom, hto, hlast⟩
            have hne : place q ≠ start := fun h => hq (by rw [hon, h])
            have hnext : line (start + 1) ∈ c.dimensions :=
              (hline.mem_iff _).2 ⟨hcrosses, by omega, by omega⟩
            exact ⟨hnext, hon, by omega, by omega, hlast⟩
        rw [if_neg hq]
        simp only [hiff]
    · -- nothing is painted where the run begins off the canvas
      rw [paintRun_of_not_mem hstart, if_neg fun h => hstart h.1]

/-- How a segment ends, by its two ends alone. Both ends belong to it, so there is always a first
point, and the case of an empty run does not arise. -/
theorem paintBetween_result {c : Canvas} (hline : Crossing c.dimensions line place last crosses)
    (a b : Nat) :
    (c.paintBetween line a b k).1 =
      if line (min a b) ∉ c.dimensions then
        .error (.outOfBounds (line (min a b)) c.dimensions)
      else if max a b ≤ last then .ok ()
      else .error (.outOfBounds (line (last + 1)) c.dimensions) := by
  -- the number of points of a segment, in terms of its ends
  have hends : min a b + (max a b + 1 - min a b) ≤ last + 1 ↔ max a b ≤ last := by omega
  rw [paintBetween, paintRun_result hline, if_neg (by omega)]
  simp only [hends]

/-- What a segment leaves: the points from its lower end to its upper one or the edge, whichever
comes first, show the pixel. -/
theorem get?_paintBetween {c : Canvas} (hline : Crossing c.dimensions line place last crosses)
    (a b : Nat) (q : Point) :
    (c.paintBetween line a b k).2.get? q =
      if line (min a b) ∈ c.dimensions ∧ q = line (place q) ∧
          min a b ≤ place q ∧ place q ≤ min (max a b) last
      then some k else c.get? q := by
  have hends : (min a b ≤ place q ∧ place q < min a b + (max a b + 1 - min a b) ∧
      place q ≤ last) ↔ (min a b ≤ place q ∧ place q ≤ min (max a b) last) := by omega
  rw [paintBetween, get?_paintRun hline]
  simp only [hends]

end Line

/-! ## Columns and rows

The two kinds of segments, each as the points of the canvas that it covers. A segment that begins
off the canvas covers nothing, even where its upper end is on it. -/

/-- The points of a canvas that a segment of a column covers. -/
def InColumn (d : Dimensions) (col a b : Nat) (q : Point) : Prop :=
  (⟨col, min a b⟩ : Point) ∈ d ∧ q.col = col ∧ min a b ≤ q.row ∧ q.row ≤ min (max a b) d.height

/-- The points of a canvas that a segment of a row covers. -/
def InRow (d : Dimensions) (a b row : Nat) (q : Point) : Prop :=
  (⟨min a b, row⟩ : Point) ∈ d ∧ q.row = row ∧ min a b ≤ q.col ∧ q.col ≤ min (max a b) d.width

instance (d : Dimensions) (col a b : Nat) (q : Point) : Decidable (InColumn d col a b q) :=
  inferInstanceAs (Decidable (_ ∧ _))

instance (d : Dimensions) (a b row : Nat) (q : Point) : Decidable (InRow d a b row q) :=
  inferInstanceAs (Decidable (_ ∧ _))

/-- A segment of a column succeeds, or fails at its lower end or at the first point below the
canvas. -/
theorem drawVertical_result (c : Canvas) (col a b : Nat) (k : Char) :
    (c.drawVertical col a b k).1 =
      if (⟨col, min a b⟩ : Point) ∉ c.dimensions then
        .error (.outOfBounds ⟨col, min a b⟩ c.dimensions)
      else if max a b ≤ c.dimensions.height then .ok ()
      else .error (.outOfBounds ⟨col, c.dimensions.height + 1⟩ c.dimensions) :=
  paintBetween_result (crossing_column _ _) a b

/-- A segment of a row succeeds, or fails at its lower end or at the first point to the right of the
canvas. -/
theorem drawHorizontal_result (c : Canvas) (a b row : Nat) (k : Char) :
    (c.drawHorizontal a b row k).1 =
      if (⟨min a b, row⟩ : Point) ∉ c.dimensions then
        .error (.outOfBounds ⟨min a b, row⟩ c.dimensions)
      else if max a b ≤ c.dimensions.width then .ok ()
      else .error (.outOfBounds ⟨c.dimensions.width + 1, row⟩ c.dimensions) :=
  paintBetween_result (crossing_row _ _) a b

/-- After a segment of a column, the points that it covers show its pixel and all others are as
before. -/
theorem get?_drawVertical (c : Canvas) (col a b : Nat) (k : Char) (q : Point) :
    (c.drawVertical col a b k).2.get? q =
      if InColumn c.dimensions col a b q then some k else c.get? q := by
  -- a point is on the line of the column if its column is that one
  have hon : q = ⟨col, q.row⟩ ↔ q.col = col := by
    cases q
    simp
  rw [drawVertical, get?_paintBetween (crossing_column _ _)]
  simp only [hon]
  rfl

theorem get?_drawHorizontal (c : Canvas) (a b row : Nat) (k : Char) (q : Point) :
    (c.drawHorizontal a b row k).2.get? q =
      if InRow c.dimensions a b row q then some k else c.get? q := by
  have hon : q = ⟨q.col, row⟩ ↔ q.row = row := by
    cases q
    simp
  rw [drawHorizontal, get?_paintBetween (crossing_row _ _)]
  simp only [hon]
  rfl

/-- Drawing does not change the size of the canvas, whether or not it succeeds. -/
theorem dimensions_drawVertical (c : Canvas) (col a b : Nat) (k : Char) :
    (c.drawVertical col a b k).2.dimensions = c.dimensions :=
  dimensions_paintRun _ _ _ _ _

theorem dimensions_drawHorizontal (c : Canvas) (a b row : Nat) (k : Char) :
    (c.drawHorizontal a b row k).2.dimensions = c.dimensions :=
  dimensions_paintRun _ _ _ _ _

/-! ## How a segment ends

The account of a segment as a whole: what it returns together with what it has painted. It is given
for any line that crosses the canvas and holds of columns and rows as two cases of it. -/

/-- All that painting a segment from the place `a` to the place `b` of a line comes to. The line is the
one numbered `across` of `breadth` lines side by side, and its places on a canvas go from one to `last`. -/
def SegmentOutcome (c : Canvas) (line : Nat → Point) (across breadth last a b : Nat) (k : Char)
    (outcome : Except CanvasError Unit × Canvas) : Prop :=
  if (1 ≤ across ∧ across ≤ breadth) ∧ 1 ≤ min a b ∧ max a b ≤ last then
    outcome.1 = .ok () ∧
      c.Repainted (fun q => ∃ i, min a b ≤ i ∧ i ≤ max a b ∧ q = line i) k outcome.2
  else if line (min a b) ∉ c.dimensions then
    outcome = (.error (.outOfBounds (line (min a b)) c.dimensions), c)
  else
    last < max a b ∧ outcome.1 = .error (.outOfBounds (line (last + 1)) c.dimensions) ∧
      c.Repainted (fun q => ∃ i, min a b ≤ i ∧ i ≤ last ∧ q = line i) k outcome.2

section Outcome

variable {c : Canvas} {line : Nat → Point} {place : Point → Nat} {last : Nat} {crosses : Prop}
  {a b : Nat} {k : Char}

/-- A segment whose lower end is on the canvas is painted up to its upper end or the edge. -/
theorem repainted_paintBetween (hline : Crossing c.dimensions line place last crosses)
    (hlow : line (min a b) ∈ c.dimensions) :
    c.Repainted (fun q => ∃ i, min a b ≤ i ∧ i ≤ min (max a b) last ∧ q = line i) k
      (c.paintBetween line a b k).2 := by
  have hdims : (c.paintBetween line a b k).2.dimensions = c.dimensions := dimensions_paintRun _ _ _ _ _
  refine (repainted_of_get? hdims (get?_paintBetween hline a b)).congr ?_
  intro q
  constructor
  · rintro ⟨-, hq, hfrom, hto⟩
    exact ⟨place q, hfrom, hto, hq⟩
  · rintro ⟨i, hfrom, hto, rfl⟩
    rw [hline.place_line]
    exact ⟨hlow, rfl, hfrom, hto⟩

/-- A segment whose lower end is off the canvas fails there at once and paints nothing. -/
theorem paintBetween_of_not_mem (hlow : line (min a b) ∉ c.dimensions) :
    c.paintBetween line a b k = (.error (.outOfBounds (line (min a b)) c.dimensions), c) := by
  -- a segment has at least one point, its lower end
  obtain ⟨more, hmore⟩ : ∃ more, max a b + 1 - min a b = more + 1 :=
    ⟨max a b - min a b, by omega⟩
  rw [paintBetween, hmore, paintRun_of_not_mem hlow]

/-- Any line that crosses the canvas ends in one of the three ways. The lower end decides whether
anything is painted, and the upper end whether the edge comes first. -/
theorem segmentOutcome_paintBetween {across breadth : Nat}
    (hline : Crossing c.dimensions line place last (1 ≤ across ∧ across ≤ breadth)) :
    c.SegmentOutcome line across breadth last a b k (c.paintBetween line a b k) := by
  unfold SegmentOutcome
  have hresult := paintBetween_result (k := k) hline a b
  by_cases hlow : line (min a b) ∈ c.dimensions
  · obtain ⟨hcrosses, hpos, -⟩ := (hline.mem_iff _).1 hlow
    have hpainted := repainted_paintBetween (k := k) hline hlow
    rw [if_neg (not_not_intro hlow)] at hresult
    by_cases hhigh : max a b ≤ last
    · rw [if_pos hhigh] at hresult
      rw [Nat.min_eq_left hhigh] at hpainted
      rw [if_pos ⟨hcrosses, hpos, hhigh⟩]
      exact ⟨hresult, hpainted⟩
    · -- the edge comes before the upper end
      have hpast : last < max a b := Nat.lt_of_not_le hhigh
      rw [if_neg hhigh] at hresult
      rw [Nat.min_eq_right (Nat.le_of_lt hpast)] at hpainted
      rw [if_neg fun h => hhigh h.2.2, if_neg (not_not_intro hlow)]
      exact ⟨hpast, hresult, hpainted⟩
  · -- a segment with all its points on the canvas has its lower end there
    have hnot : ¬((1 ≤ across ∧ across ≤ breadth) ∧ 1 ≤ min a b ∧ max a b ≤ last) := by
      rintro ⟨hcrosses, hpos, hhigh⟩
      exact hlow ((hline.mem_iff _).2 ⟨hcrosses, hpos, by omega⟩)
    rw [if_neg hnot, if_pos hlow]
    exact paintBetween_of_not_mem hlow

end Outcome

/-- A segment of a column ends in one of three ways. If all its points are on the canvas, it succeeds and
exactly these are painted. If its lower end is off the canvas, that end is reported and nothing changes.
Otherwise the first point past the last row is reported, and exactly the points up to the last row are
painted. The same holds of rows, with the last column in place of the last row. In which order the ends
are given makes no difference. -/
theorem segmentOutcome_draw (c : Canvas) (across a b : Nat) (k : Char) :
    c.SegmentOutcome (fun row => ⟨across, row⟩) across c.dimensions.width c.dimensions.height a b k
        (c.drawVertical across a b k) ∧
      c.SegmentOutcome (fun col => ⟨col, across⟩) across c.dimensions.height c.dimensions.width a b k
        (c.drawHorizontal a b across k) ∧
      c.drawVertical across b a k = c.drawVertical across a b k ∧
      c.drawHorizontal b a across k = c.drawHorizontal a b across k :=
  ⟨segmentOutcome_paintBetween (crossing_column _ _), segmentOutcome_paintBetween (crossing_row _ _),
    paintBetween_comm _ _ _ _ _, paintBetween_comm _ _ _ _ _⟩

end Canvas

end PixelScript
