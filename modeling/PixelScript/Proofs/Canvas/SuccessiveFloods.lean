import Mathlib.Data.Set.Card
import PixelScript.Proofs.Canvas.Flood
import PixelScript.Proofs.Canvas.Points

/-!
# Floods one after another

A flood repaints the region of its seed and counts its points (`Canvas.fill_repaints`), so what several
floods do is a matter of how their regions lie on canvases that change in between.

* Flooding twice from one seed (`Canvas.fill_twice`): the points painted first show one pixel and lie
  together, so the second flood goes at least as far.
* Flooding from the neighbours of a seed instead of from the seed (`Canvas.fill_branches`): what the first
  flood paints is out of reach for the second, and together they paint what is left of the region, in
  whichever order they come.
-/

namespace PixelScript.Canvas

variable {c c' : Canvas} {seed p q : Point} {target k : Char}

/-! ## One flood

All that the later sections use of a flood is what it paints and how much that is, both in terms of
the region of the seed. The order in which the loop goes through the points is not seen from here
on. -/

/-- A flood from a point on the canvas paints the region of the point and nothing else, and gives
back how many points that are. -/
theorem fill_repaints (h : seed ∈ c.dimensions) (k : Char) :
    ∃ (count : Nat) (c' : Canvas), c.fill seed k = .ok (count, c') ∧
      c.Repainted (c.Region seed) k c' ∧ {q | c.Region seed q}.encard = count := by
  obtain ⟨points, c', hfill, hdims, hnodup, hmem, hget⟩ := fill_region h k
  exact ⟨points.length, c', hfill, (repainted_of_get? hdims hget).congr hmem,
    Point.encard_eq_length hnodup fun q => (hmem q).symm⟩

/-! ## Flooding twice

Painting a region never breaks it up, as all of its points show the same pixel afterwards. It may
grow, though: where the region borders on points that showed the new pixel before, the second flood
goes on beyond the border. -/

/-- A region stays together if all its points are painted with one pixel. -/
theorem Region.of_repainted (h : c.Repainted (c.Region seed) k c') (hp : c.Region seed p) :
    c'.Region seed p := by
  have hsame {q : Point} (hq : c.Region seed q) : c'.get? q = c'.get? seed := by
    rw [h.get?_of_mem q hq, h.get?_of_mem seed .seed]
  -- the path that led to the point is walked again on the painted canvas
  induction hp with
  | seed => exact .seed
  | down hp hsame' ih => exact .down ih (hsame (.down hp hsame'))
  | right hp hsame' ih => exact .right ih (hsame (.right hp hsame'))

/-- With a pixel that was nowhere on the canvas, a region does not grow. -/
theorem region_repainted_iff (h : c.Repainted (c.Region seed) k c') (hk : k ∉ c.pixels) :
    c'.Region seed p ↔ c.Region seed p := by
  refine ⟨fun hp => ?_, Region.of_repainted h⟩
  -- what shows the new pixel has it from the flood
  have hpainted {q : Point} (hsame : c'.get? q = c'.get? seed) : c.Region seed q := by
    apply Classical.byContradiction
    intro hq
    rw [h.get?_of_not_mem q hq, h.get?_of_mem seed .seed] at hsame
    exact hk (mem_pixels_iff.2 ⟨q, hsame⟩)
  cases hp with
  | seed => exact .seed
  | down _ hsame => exact hpainted hsame
  | right _ hsame => exact hpainted hsame

/-- Two floods from one seed. To flood again with the same pixel changes nothing, and with another one it
paints at least what that one would have painted alone. The count is never smaller the second time. If the
first pixel was nowhere on the canvas, or was the seed's own, then the second flood cannot be told from a
flood without the first one. -/
theorem fill_twice (h : seed ∈ c.dimensions) (k₁ k₂ : Char) :
    ∃ count₁ c₁ count₂ c₂, c.fill seed k₁ = .ok (count₁, c₁) ∧ c.fill seed k₂ = .ok (count₂, c₂) ∧
      c.Repainted (c.Region seed) k₂ c₂ ∧
      (∃ count, c₁.fill seed k₁ = .ok (count, c₁) ∧ count₁ ≤ count) ∧
      ∃ count c', c₁.fill seed k₂ = .ok (count, c') ∧ count₂ ≤ count ∧
        (∀ p, c.Region seed p → c'.get? p = some k₂) ∧
        (k₁ ∉ c.pixels ∨ c.get? seed = some k₁ → c' = c₂ ∧ count = count₂) := by
  obtain ⟨count₁, c₁, hfill₁, hpaint₁, hcount₁⟩ := fill_repaints h k₁
  obtain ⟨count₂, c₂, hfill₂, hpaint₂, hcount₂⟩ := fill_repaints h k₂
  have hseed : seed ∈ c₁.dimensions := hpaint₁.dimensions_eq ▸ h
  obtain ⟨count, c₁', hfill, hpaint, hcount⟩ := fill_repaints hseed k₁
  obtain ⟨count', c', hfill', hpaint', hcount'⟩ := fill_repaints hseed k₂
  -- the four floods are those of both pixels on the first canvas, and of both on the second
  -- the second region is no smaller, whatever the pixels are
  have hsubset : {q | c.Region seed q} ⊆ {q | c₁.Region seed q} := fun q hq => hq.of_repainted hpaint₁
  have hle := Set.encard_le_encard hsubset
  refine ⟨count₁, c₁, count₂, c₂, hfill₁, hfill₂, hpaint₂, ⟨count, ?_, ?_⟩, count', c', hfill', ?_, ?_, ?_⟩
  · -- the same pixel once more paints what shows it already
    have hself : c₁' = c₁ := by
      apply hpaint.eq_self
      intro q hq
      rw [hq.get?_eq, hpaint₁.get?_of_mem seed .seed]
    rw [hfill, hself]
  · rw [hcount₁, hcount] at hle
    exact_mod_cast hle
  · rw [hcount₂, hcount'] at hle
    exact_mod_cast hle
  · intro p hp
    exact hpaint'.get?_of_mem p (hp.of_repainted hpaint₁)
  · intro hk
    have hregion (q : Point) : c₁.Region seed q ↔ c.Region seed q := by
      -- a new pixel keeps the region as it was, and the seed's own pixel keeps the canvas
      rcases hk with hnew | hown
      · exact region_repainted_iff hpaint₁ hnew
      · have hself : c₁ = c := by
          apply hpaint₁.eq_self
          intro q hq
          rw [hq.get?_eq, hown]
        rw [hself]
    refine ⟨(hpaint₁.again (hpaint'.congr hregion)).unique hpaint₂, ?_⟩
    simp only [hregion] at hcount'
    exact_mod_cast hcount'.symm.trans hcount₂

/-- The first flood closes the gap to a pixel of its own kind, so the second one goes on beyond it; but it
does not if the pixel was new. -/
theorem fill_twice_beside :
    let c := (blank ⟨3, 1, by decide, by decide, by decide, by decide⟩).put ⟨2, 1⟩ 'X'
    (⟨1, 1⟩ : Point) ∈ c.dimensions ∧
      (∃ c₁, c.fill ⟨1, 1⟩ 'X' = .ok (1, c₁) ∧ c₁.fill ⟨1, 1⟩ 'X' = .ok (2, c₁)) ∧
      'Q' ∉ c.pixels ∧ ∃ c₁ c₂, c.fill ⟨1, 1⟩ 'Q' = .ok (1, c₁) ∧
        c.fill ⟨1, 1⟩ 'Z' = .ok (1, c₂) ∧ c₁.fill ⟨1, 1⟩ 'Z' = .ok (1, c₂) := by
  intro c
  have hmem : (⟨1, 1⟩ : Point) ∈ c.dimensions := by decide
  have hnew : 'Q' ∉ c.pixels := by decide +kernel
  refine ⟨hmem, ?_, hnew, ?_⟩
  · obtain ⟨count₁, c₁, -, -, hfill₁, -, -, ⟨count, hagain, -⟩, -⟩ := fill_twice hmem 'X' 'X'
    have hone : c.fill ⟨1, 1⟩ 'X' = .ok (1, c.put ⟨1, 1⟩ 'X') := by decide +kernel
    obtain ⟨rfl, rfl⟩ := Prod.mk.inj (Except.ok.inj (hfill₁.symm.trans hone))
    have htwo : ((c.put ⟨1, 1⟩ 'X').fill ⟨1, 1⟩ 'X').toOption.map Prod.fst = some 2 := by
      decide +kernel
    rw [hagain] at htwo
    obtain rfl := Option.some.inj htwo
    exact ⟨_, hone, hagain⟩
  · obtain ⟨count₁, c₁, count₂, c₂, hfill₁, hfill₂, -, -, count, c', hother, -, -, hsame⟩ :=
      fill_twice hmem 'Q' 'Z'
    obtain ⟨rfl, rfl⟩ := hsame (.inl hnew)
    have hone : (c.fill ⟨1, 1⟩ 'Q').toOption.map Prod.fst = some 1 := by decide +kernel
    have hone' : (c.fill ⟨1, 1⟩ 'Z').toOption.map Prod.fst = some 1 := by decide +kernel
    rw [hfill₁] at hone
    rw [hfill₂] at hone'
    obtain rfl := Option.some.inj hone
    obtain rfl := Option.some.inj hone'
    exact ⟨c₁, c', hfill₁, hfill₂, hother⟩

/-! ## Flooding branch by branch

Here a flood is compared with the recursion that it replaces: paint the seed, then go on from each
neighbour that still shows what the seed has shown. Several floods are looked at through what can be
reached from their starts (`Reached`), because the region of a start depends on what the floods
before it have painted. -/

/-- Floods from the points one after the other, each time only if the point still shows the target, and
adds up the counts. A point off the canvas shows nothing. -/
def fillEach (target k : Char) : List Point → Canvas → Except CanvasError (Nat × Canvas)
  | [], c => .ok (0, c)
  | p :: rest, c =>
    if c.get? p = some target then do
      let (count, c) ← c.fill p k
      let (others, c) ← fillEach target k rest c
      return (count + others, c)
    else fillEach target k rest c

/-- The points in the regions of those starts that show the target. -/
def Reached (c : Canvas) (target : Char) (starts : List Point) (q : Point) : Prop :=
  ∃ p ∈ starts, c.get? p = some target ∧ c.Region p q

theorem Reached.get?_eq {starts : List Point} (h : c.Reached target starts q) :
    c.get? q = some target := by
  obtain ⟨p, -, hp, hq⟩ := h
  rw [hq.get?_eq, hp]

section Stages

variable {points : Point → Prop} {starts : List Point}

/-- What can be reached after some points were painted over could be reached before. -/
theorem Reached.of_repainted (h : c.Repainted points k c') (hk : k ≠ target)
    (hq : c'.Reached target starts q) : c.Reached target starts q := by
  have hshown {r : Point} (hr : c'.get? r = some target) : c.get? r = some target := by
    rw [← h.get?_of_not_mem r (h.not_of_get?_eq hk hr), hr]
  obtain ⟨p, hp, hshows, hregion⟩ := hq
  refine ⟨p, hp, hshown hshows, ?_⟩
  -- a path over the target was never painted over, so it was there before
  induction hregion with
  | seed => exact .seed
  | down _ hsame ih => exact .down ih (by rw [hshown (hsame.trans hshows), hshown hshows])
  | right _ hsame ih => exact .right ih (by rw [hshown (hsame.trans hshows), hshown hshows])

/-- What was painted shows another pixel than the target, and cannot be reached any more. -/
theorem Repainted.not_reached (h : c.Repainted points k c') (hk : k ≠ target) (hq : points q) :
    ¬c'.Reached target starts q :=
  fun hreached => h.not_of_get?_eq hk hreached.get?_eq hq

/-- Suppose some points were painted over, and whatever was next to them and shows the target was painted
too or is a start. Then all that was in the region of a point that was painted or is a start was painted or
can be reached from the starts. -/
theorem Region.painted_or_reached (h : c.Repainted points k c')
    (hnext : ∀ q r, points q → (r = q.down ∨ r = q.right) → c.get? r = some target →
      points r ∨ r ∈ starts)
    (hp : c.get? p = some target) (hfrom : points p ∨ p ∈ starts) (hq : c.Region p q) :
    points q ∨ c'.Reached target starts q := by
  have hstart {r : Point} (hr : c.get? r = some target) (hfrom : points r ∨ r ∈ starts) :
      points r ∨ c'.Reached target starts r := by
    by_cases hpainted : points r
    · exact .inl hpainted
    · rw [← h.get?_of_not_mem r hpainted] at hr
      exact .inr ⟨r, hfrom.resolve_left hpainted, hr, .seed⟩
  have hstep {q r : Point} (ih : points q ∨ c'.Reached target starts q)
      (hadjacent : r = q.down ∨ r = q.right) (hsame : c.get? r = c.get? p) :
      points r ∨ c'.Reached target starts r := by
    rw [hp] at hsame
    rcases ih with hpainted | ⟨s, hs, hshows, hregion⟩
    · exact hstart hsame (hnext q r hpainted hadjacent hsame)
    · -- a point that is still unpainted is reached from the same start
      by_cases hpainted : points r
      · exact .inl hpainted
      · have hsame' : c'.get? r = c'.get? s := by rw [h.get?_of_not_mem r hpainted, hsame, hshows]
        right
        rcases hadjacent with rfl | rfl
        · exact ⟨s, hs, hshows, .down hregion hsame'⟩
        · exact ⟨s, hs, hshows, .right hregion hsame'⟩
  -- the seed is a start or painted, and every further point is next to one of which this is known
  induction hq with
  | seed => exact hstart hp hfrom
  | down _ hsame ih => exact hstep ih (.inl rfl) hsame
  | right _ hsame ih => exact hstep ih (.inr rfl) hsame

/-- A flood from the first start leaves the other starts what it has not painted. -/
theorem reached_cons_iff (hp : c.get? p = some target) (h : c.Repainted (c.Region p) k c')
    (hk : k ≠ target) :
    c.Reached target (p :: starts) q ↔ c.Region p q ∨ c'.Reached target starts q := by
  constructor
  · rintro ⟨s, hs, hshows, hregion⟩
    have hfrom : c.Region p s ∨ s ∈ starts := by
      rcases List.mem_cons.1 hs with rfl | hs
      · exact .inl .seed
      · exact .inr hs
    have hnext (q r : Point) (hq : c.Region p q) (hadjacent : r = q.down ∨ r = q.right)
        (hr : c.get? r = some target) : c.Region p r ∨ r ∈ starts := by
      rw [← hp] at hr
      rcases hadjacent with rfl | rfl
      · exact .inl (.down hq hr)
      · exact .inl (.right hq hr)
    exact hregion.painted_or_reached h hnext hshows hfrom
  · rintro (hregion | hreached)
    · exact ⟨p, List.mem_cons_self, hp, hregion⟩
    · obtain ⟨s, hs, hshows, hregion⟩ := hreached.of_repainted h hk
      exact ⟨s, List.mem_cons_of_mem p hs, hshows, hregion⟩

theorem reached_cons_of_ne (hp : c.get? p ≠ some target) :
    c.Reached target (p :: starts) q ↔ c.Reached target starts q := by
  constructor
  · rintro ⟨s, hs, hshows, hregion⟩
    rcases List.mem_cons.1 hs with rfl | hs
    · exact absurd hshows hp
    · exact ⟨s, hs, hshows, hregion⟩
  · rintro ⟨s, hs, hregion⟩
    exact ⟨s, List.mem_cons_of_mem p hs, hregion⟩

/-- Floods from several starts paint what can be reached from them, and count each point once.
Induction on the starts, for any canvas: what the first flood paints and what the others paint have
no point in common, so the counts add up. -/
theorem fillEach_repaints (hk : k ≠ target) (starts : List Point) (c : Canvas) :
    ∃ (count : Nat) (c' : Canvas), fillEach target k starts c = .ok (count, c') ∧
      c.Repainted (c.Reached target starts) k c' ∧ {q | c.Reached target starts q}.encard = count := by
  induction starts generalizing c with
  | nil =>
    have hnone (q : Point) : ¬c.Reached target [] q := by
      rintro ⟨p, hp, -⟩
      cases hp
    refine ⟨0, c, rfl, ⟨rfl, fun q hq => absurd hq (hnone q), fun _ _ => rfl⟩, ?_⟩
    simp [hnone]
  | cons p rest ih =>
    by_cases hp : c.get? p = some target
    · obtain ⟨count, c₁, hfill, hpaint, hcount⟩ := fill_repaints (mem_dimensions_of_get? hp) k
      -- the other floods find the canvas that the first one has left
      obtain ⟨others, c₂, hfill', hpaint', hcount'⟩ := ih c₁
      have hreached (q : Point) :
          c.Reached target (p :: rest) q ↔ c.Region p q ∨ c₁.Reached target rest q :=
        reached_cons_iff hp hpaint hk
      have hdisjoint : Disjoint {q | c.Region p q} {q | c₁.Reached target rest q} :=
        Set.disjoint_left.2 fun q hq => hpaint.not_reached hk hq
      refine ⟨count + others, c₂, ?_, (hpaint.trans hpaint').congr fun q => (hreached q).symm, ?_⟩
      · rw [fillEach, if_pos hp, hfill]
        show (fillEach target k rest c₁ >>= _) = _
        rw [hfill']
        rfl
      · simp only [hreached]
        rw [Set.ofPred_or, Set.encard_union_eq hdisjoint, hcount, hcount', Nat.cast_add]
    · have hreached (q : Point) : c.Reached target (p :: rest) q ↔ c.Reached target rest q :=
        reached_cons_of_ne hp
      obtain ⟨count, c', hfill, hpaint, hcount⟩ := ih c
      refine ⟨count, c', by rw [fillEach, if_neg hp, hfill], hpaint.congr fun q => (hreached q).symm, ?_⟩
      simp only [hreached]
      exact hcount

end Stages

theorem Region.trans (hp : c.Region seed p) (hq : c.Region p q) : c.Region seed q := by
  induction hq with
  | seed => exact hp
  | down _ hsame ih => exact .down ih (hsame.trans hp.get?_eq)
  | right _ hsame ih => exact .right ih (hsame.trans hp.get?_eq)

/-- Apart from the seed, a region is what can be reached from the two neighbours of the seed once the seed
is painted over. -/
theorem region_iff_branches (hseed : c.get? seed = some target) (hk : k ≠ target)
    {starts : List Point} (hstarts : ∀ p, p ∈ starts ↔ p = seed.down ∨ p = seed.right) :
    c.Region seed q ↔ q = seed ∨ (c.put seed k).Reached target starts q := by
  have hput := repainted_put (k := k) (mem_dimensions_of_get? hseed)
  constructor
  · intro hq
    have hnext (q r : Point) (hq : q = seed) (hadjacent : r = q.down ∨ r = q.right)
        (_ : c.get? r = some target) : r = seed ∨ r ∈ starts :=
      .inr ((hstarts r).2 (hq ▸ hadjacent))
    exact hq.painted_or_reached hput hnext hseed (.inl rfl)
  · rintro (rfl | hreached)
    · exact .seed
    · obtain ⟨p, hp, hshows, hregion⟩ := hreached.of_repainted hput hk
      have hsame : c.get? p = c.get? seed := hshows.trans hseed.symm
      rcases (hstarts p).1 hp with rfl | rfl
      · exact (Region.down .seed hsame).trans hregion
      · exact (Region.right .seed hsame).trans hregion

/-- A flood is the painted seed followed by the floods from its neighbours, in any order and however
often each of them is listed. The seed is counted once more than those floods count. -/
theorem fill_eq_fillEach (hseed : c.get? seed = some target) (hk : k ≠ target) (starts : List Point)
    (hstarts : ∀ p, p ∈ starts ↔ p = seed.down ∨ p = seed.right) :
    ∃ (count : Nat) (c' : Canvas), fillEach target k starts (c.put seed k) = .ok (count, c') ∧
      c.fill seed k = .ok (count + 1, c') := by
  have hmem := mem_dimensions_of_get? hseed
  have hput := repainted_put (k := k) hmem
  obtain ⟨total, c₁, hfill, hpaint, htotal⟩ := fill_repaints hmem k
  obtain ⟨count, c', heach, hpaint', hcount⟩ := fillEach_repaints hk starts (c.put seed k)
  have hregion (q : Point) := region_iff_branches (q := q) hseed hk hstarts
  have hcanvas : c₁ = c' := (hpaint.congr hregion).unique (hput.trans hpaint')
  -- the seed is counted on its own, as it cannot be reached again
  have hnot : seed ∉ {q | (c.put seed k).Reached target starts q} := hput.not_reached hk rfl
  have hsum : total = count + 1 := by
    simp only [hregion] at htotal
    have hinsert := Set.encard_insert_of_notMem hnot
    rw [hcount] at hinsert
    exact_mod_cast htotal.symm.trans hinsert
  refine ⟨count, c', heach, ?_⟩
  rw [hfill, hsum, hcanvas]

/-- A flood with another pixel than the seed's own can be carried out branch by branch: the seed is
painted, and then each of its two neighbours is flooded from if it still shows the pixel that the seed had.
The canvas is the same whichever neighbour comes first, and the counts add up to one less than the count
of the whole flood. -/
theorem fill_branches (hseed : c.get? seed = some target) (hk : k ≠ target) :
    ∃ (count : Nat) (c' : Canvas), c.fill seed k = .ok (count + 1, c') ∧
      fillEach target k [seed.down, seed.right] (c.put seed k) = .ok (count, c') ∧
      fillEach target k [seed.right, seed.down] (c.put seed k) = .ok (count, c') := by
  obtain ⟨count, c', hdown, hfill⟩ :=
    fill_eq_fillEach hseed hk [seed.down, seed.right] (by simp)
  obtain ⟨count', c'', hright, hfill'⟩ :=
    fill_eq_fillEach hseed hk [seed.right, seed.down] (by simp [or_comm])
  rw [hfill, Except.ok.injEq, Prod.mk.injEq, Nat.add_right_cancel_iff] at hfill'
  rw [← hfill'.1, ← hfill'.2] at hright
  exact ⟨count, c', hfill, hdown, hright⟩

/-- The lower right corner can be reached on both sides of the pixel in the middle, and is counted once. -/
theorem fill_branches_around :
    let c := (blank ⟨3, 3, by decide, by decide, by decide, by decide⟩).put ⟨2, 2⟩ 'A'
    c.get? ⟨1, 1⟩ = some 'O' ∧ 'X' ≠ 'O' ∧ ∃ c', c.fill ⟨1, 1⟩ 'X' = .ok (8, c') ∧
      fillEach 'O' 'X' [⟨1, 2⟩, ⟨2, 1⟩] (c.put ⟨1, 1⟩ 'X') = .ok (7, c') ∧
      fillEach 'O' 'X' [⟨2, 1⟩, ⟨1, 2⟩] (c.put ⟨1, 1⟩ 'X') = .ok (7, c') := by
  intro c
  have hseed : c.get? ⟨1, 1⟩ = some 'O' := by decide
  obtain ⟨count, c', hfill, hdown, hright⟩ := fill_branches (k := 'X') hseed (by decide)
  have hcount : (c.fill ⟨1, 1⟩ 'X').toOption.map Prod.fst = some 8 := by decide +kernel
  rw [hfill] at hcount
  obtain rfl : count = 7 := Nat.succ.inj (Option.some.inj hcount)
  exact ⟨hseed, by decide, c', hfill, hdown, hright⟩

end PixelScript.Canvas
