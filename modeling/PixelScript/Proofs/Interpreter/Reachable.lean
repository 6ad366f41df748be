import Mathlib.Data.List.Induction
import PixelScript.Proofs.Canvas.LastWriter
import PixelScript.Proofs.Canvas.Points
import PixelScript.Proofs.Interpreter.Line

/-!
# Reachable states

Lines are carried out one after the other, going on after failures (`Interpreter.after`). There is a
canvas as soon as a line has created one; its sides are the arguments of the latest line that did, and
it shows no blanks (`Interpreter.canvas_after`). Conversely a canvas without blanks is left by a script
that creates it and paints its points one by one (`Interpreter.exists_run`).
-/

namespace PixelScript

open Script

/-! ## Canvases without blanks

No command has a blank for its colour, since its colour was a word of a line. That a canvas shows no
blank is therefore an invariant, and it is the only one that the pixels have. -/

/-- The canvas shows no blanks. -/
def Canvas.Solid (c : Canvas) : Prop := ∀ k ∈ c.pixels, Text.isBlank k = false

theorem Canvas.solid_blank (d : Dimensions) : (blank d).Solid := by
  intro k hk
  obtain ⟨-, rfl⟩ := Array.mem_replicate.1 hk
  decide

/-- Drawing in a colour that is not a blank leaves no blanks. Every pixel afterwards was there
before, or it is the background or the colour. -/
theorem Canvas.Solid.draw {c : Canvas} (h : c.Solid) {command : Command}
    (hcolour : ∀ k, Field.colour k ∈ command.fields → Text.isBlank k = false) :
    (c.draw command).2.Solid := by
  intro k hk
  obtain ⟨q, hq⟩ := mem_pixels_iff.1 hk
  rcases c.get?_draw command q with hsame | hbackground | ⟨k', hk', hpainted⟩
  · exact h k (mem_pixels_iff.2 ⟨q, hsame ▸ hq⟩)
  · rw [hbackground, Option.some.injEq] at hq
    rw [← hq]
    decide
  · rw [hpainted, Option.some.injEq] at hq
    exact hq ▸ hcolour k' hk'

namespace Interpreter

/-! ## One line

Lines are told apart by whether they create a canvas. As with lines that print, this is a matter of
the first word and of success, and both can be seen from outside. -/

/-- The line names the verb that creates canvases, and succeeds. -/
def Creates (s : Interpreter) (text : String) : Prop :=
  (words text).head? = some ['I'] ∧ (s.executeLine text).1 = .ok ()

theorem letter_of_spelledBy {command : Command} {text : String}
    (hspelled : command.SpelledBy (words text)) :
    (words text).head? = some command.verb.letter.toList := by
  obtain ⟨arguments, hwords, -⟩ := hspelled
  rw [hwords]
  rfl

/-- The words of a line that creates a canvas are the letter and the two sides. The sides are small
enough that the numbers written down are not clamped. -/
theorem words_of_create {text : String} {d : Dimensions}
    (hspelled : (Command.create d.width d.height).SpelledBy (words text)) :
    ∃ width height, words text = [['I'], width, height] ∧
      Text.Digits.value width = d.width ∧ Text.Digits.value height = d.height := by
  obtain ⟨arguments, hwords, hall⟩ := hspelled
  rw [Verb.toList_letter] at hwords
  rcases hall with _ | ⟨⟨-, hw⟩, _ | ⟨⟨-, hh⟩, _ | _⟩⟩
  exact ⟨_, _, hwords, (Number.clamp_eq_iff d.width_lt_largest).1 hw,
    (Number.clamp_eq_iff d.height_lt_largest).1 hh⟩

/-- The first word of a line decides the verb of the command that the line spells. -/
theorem verb_of_letter {command : Command} {verb : Verb} {text : String}
    (hspelled : command.SpelledBy (words text))
    (hhead : (words text).head? = some verb.letter.toList) : command.verb = verb := by
  rw [letter_of_spelledBy hspelled, Option.some.injEq] at hhead
  exact Verb.letter_inj.1 (String.toList_inj.1 hhead)

theorem verb_of_head? {command : Command} {text : String}
    (hspelled : command.SpelledBy (words text)) (hhead : (words text).head? = some ['I']) :
    command.verb = .create :=
  verb_of_letter hspelled (by rw [hhead, Verb.toList_letter]; rfl)

/-- A line creates a canvas of the sides that it names, or draws on the canvas, or does not touch
it. -/
theorem canvas_executeLine (s : Interpreter) (text : String) :
    (s.Creates text ∧ ∃ d width height, words text = [['I'], width, height] ∧
        Text.Digits.value width = d.width ∧ Text.Digits.value height = d.height ∧
        (s.executeLine text).2.canvas = some (Canvas.blank d)) ∨
      (¬s.Creates text ∧ ((s.executeLine text).2.canvas = s.canvas ∨
        ∃ c command, s.canvas = some c ∧ command.SpelledBy (words text) ∧
          (s.executeLine text).2.canvas = some (c.draw command).2)) := by
  have hexecutes := s.executes_executeLine text
  unfold Creates
  generalize s.executeLine text = outcome at hexecutes ⊢
  -- the lines that create are one case, and those that fail are ruled out by their result
  cases hexecutes with
  | objected hobjection =>
    refine .inr ⟨?_, .inl rfl⟩
    rintro ⟨-, hok⟩
    cases hok
  | @created d hspelled =>
    obtain ⟨width, height, hwords, hwidth, hheight⟩ := words_of_create hspelled
    exact .inl ⟨⟨by rw [hwords]; rfl, rfl⟩, d, width, height, hwords, hwidth, hheight, rfl⟩
  | notCreated hspelled hrefusal =>
    refine .inr ⟨?_, .inl rfl⟩
    rintro ⟨-, hok⟩
    cases hok
  | @drawn c command hcanvas hdraws hspelled hresult =>
    -- a line that draws may succeed, but does not have the letter
    refine .inr ⟨?_, .inr ⟨c, command, hcanvas, hspelled, rfl⟩⟩
    rintro ⟨hhead, -⟩
    exact hdraws.1 (verb_of_head? hspelled hhead)
  | @notDrawn c command cause span hcanvas hdraws hspelled hresult =>
    refine .inr ⟨?_, .inr ⟨c, command, hcanvas, hspelled, rfl⟩⟩
    rintro ⟨-, hok⟩
    cases hok
  | printed hcanvas hspelled hresult =>
    refine .inr ⟨?_, .inl rfl⟩
    rintro ⟨hhead, -⟩
    cases verb_of_head? hspelled hhead
  | notPrinted hcanvas hspelled hresult =>
    refine .inr ⟨?_, .inl rfl⟩
    rintro ⟨-, hok⟩
    cases hok

/-! ## Any number of lines

The state after any lines is reached by a fold, and what is to be said of it by an induction. It
goes from the first line where a state is followed through the lines, and from the last where the
last line decides. -/

/-- The interpreter after lines, each of which is carried out whether or not those before it
succeeded. -/
def after (s : Interpreter) (lines : List String) : Interpreter :=
  lines.foldl (fun s line => (s.executeLine line).2) s

theorem after_append (s : Interpreter) (lines more : List String) :
    s.after (lines ++ more) = (s.after lines).after more := List.foldl_append

theorem after_concat (s : Interpreter) (lines : List String) (line : String) :
    s.after (lines ++ [line]) = ((s.after lines).executeLine line).2 := by
  rw [after_append]
  rfl

/-- The sides that the latest line names that created a canvas. Walking back from the last line,
lines that do not create a canvas are passed over. -/
inductive LatestSides (s : Interpreter) : List String → Nat → Nat → Prop where
  | created {lines : List String} {line : String} {width height : List Char}
      (hcreates : (s.after lines).Creates line) (hwords : words line = [['I'], width, height]) :
      LatestSides s (lines ++ [line]) (Text.Digits.value width) (Text.Digits.value height)
  | kept {lines : List String} {line : String} {width height : Nat}
      (hbefore : LatestSides s lines width height) (hkeeps : ¬(s.after lines).Creates line) :
      LatestSides s (lines ++ [line]) width height

/-- Where there is a latest line that created a canvas, there is a line that did. Induction on the
lines that are passed over. -/
theorem LatestSides.exists_creates {s : Interpreter} {lines : List String} {width height : Nat}
    (h : LatestSides s lines width height) :
    ∃ before line later, lines = before ++ line :: later ∧ (s.after before).Creates line := by
  induction h with
  | @created lines line width height hcreates hwords => exact ⟨lines, line, [], rfl, hcreates⟩
  | @kept lines line width height hbefore hkeeps ih =>
    obtain ⟨before, created, later, rfl, hcreates⟩ := ih
    exact ⟨before, created, later ++ [line], by rw [List.append_assoc, List.cons_append], hcreates⟩

/-- What every line keeps is kept by any number of lines. -/
theorem after_invariant {P : Interpreter → Prop}
    (hstep : ∀ s text, P s → P (s.executeLine text).2) {s : Interpreter} (hs : P s)
    (lines : List String) : P (s.after lines) := by
  induction lines generalizing s with
  | nil => exact hs
  | cons line rest ih => exact ih (hstep s line hs)

/-- Once there is a canvas, there is one ever after: no line takes a canvas away, whether it
succeeds or not. -/
theorem isSome_canvas_after {s : Interpreter} (h : s.canvas.isSome) (lines : List String) :
    (s.after lines).canvas.isSome := by
  refine after_invariant (P := fun s => s.canvas.isSome) ?_ h lines
  intro s text hsome
  rcases s.canvas_executeLine text with
    ⟨-, d, width, height, -, -, -, hcanvas⟩ | ⟨-, hsame | ⟨c, command, -, -, hdrawn⟩⟩
  · rw [hcanvas]
    rfl
  · rwa [hsame]
  · rw [hdrawn]
    rfl

/-- The canvas that lines leave has the sides that were named last, and no blanks. The induction
takes the last line apart from those before it, since it is the latest line that counts. -/
theorem canvas_after {s : Interpreter} (hs : s.canvas = none) (lines : List String) {c : Canvas}
    (hc : (s.after lines).canvas = some c) :
    LatestSides s lines c.dimensions.width c.dimensions.height ∧ c.Solid := by
  induction lines using List.reverseRecOn generalizing c with
  | nil =>
    rw [show (s.after []).canvas = none from hs] at hc
    cases hc
  | append_singleton lines line ih =>
    rw [after_concat] at hc
    rcases (s.after lines).canvas_executeLine line with
      ⟨hcreates, d, width, height, hwords, hwidth, hheight, hcanvas⟩ | ⟨hkeeps, hcases⟩
    · -- the last line made the canvas, so it is the one whose arguments count
      rw [hcanvas, Option.some.injEq] at hc
      rw [← hc, Canvas.dimensions_blank, ← hwidth, ← hheight]
      exact ⟨.created hcreates hwords, Canvas.solid_blank d⟩
    · rcases hcases with hsame | ⟨c', command, hc', hspelled, hdrawn⟩
      · obtain ⟨hsides, hsolid⟩ := ih (hsame ▸ hc)
        exact ⟨.kept hsides hkeeps, hsolid⟩
      · obtain ⟨hsides, hsolid⟩ := ih hc'
        rw [hdrawn, Option.some.injEq] at hc
        rw [← hc, Canvas.dimensions_draw]
        exact ⟨.kept hsides hkeeps,
          hsolid.draw fun k hk => Command.not_isBlank_of_mem_fields hspelled hk⟩

/-! ## A script for every canvas

Conversely every canvas without blanks is reached, by a script that does not fail. The script
creates a canvas of the right size and paints its points in the order in which they are stored, each
with the pixel that it is to show. -/

/-- A command that succeeds does so when it is written down as a line. -/
theorem executeLine_line {s t : Interpreter} {command : Command}
    (hwritable : ∀ f ∈ command.fields, f.IsWritable)
    (hcanvas : s.canvas.isSome ∨ command.verb = .create)
    (hdispatch : s.advanced.dispatch command = (.ok (), t)) :
    s.executeLine command.line = (.ok (), t) := by
  obtain ⟨request, -, hline⟩ := executeLine_of_spelledBy (Command.spelledBy_line hwritable) hcanvas
  rwa [hdispatch] at hline

/-- The line that creates a canvas of given dimensions succeeds with a blank one, whatever the
state. -/
theorem executeLine_create (s : Interpreter) (d : Dimensions) :
    s.executeLine (Command.create d.width d.height).line =
      (.ok (), { s.advanced with canvas := some (Canvas.blank d) }) := by
  have hwidth : d.width ≤ Number.largest := Nat.le_of_lt d.width_lt_largest
  have hheight : d.height ≤ Number.largest := Nat.le_of_lt d.height_lt_largest
  apply executeLine_line
  · simp [Command.fields, Field.IsWritable, hwidth, hheight]
  · exact .inr rfl
  · simp only [dispatch, Canvas.ofSides, Dimensions.ofSides_self]

/-- The line that paints a point on the canvas succeeds, as the coordinates are small enough to be
written down and read back. -/
theorem executeLine_paint {s : Interpreter} {c : Canvas} (hc : s.canvas = some c) {p : Point}
    (hp : p ∈ c.dimensions) {k : Char} (hk : Text.isBlank k = false) :
    ∃ t, s.executeLine (Command.paint p k).line = (.ok (), t) ∧
      t.canvas = some ((Stroke.paint p k).apply c) := by
  have hcol : p.col ≤ Number.largest :=
    Nat.le_trans hp.1.2 (Nat.le_of_lt c.dimensions.width_lt_largest)
  have hrow : p.row ≤ Number.largest :=
    Nat.le_trans hp.2.2 (Nat.le_of_lt c.dimensions.height_lt_largest)
  have hdraws : (Command.paint p k).Draws := by
    constructor <;> intro h <;> cases h
  have hdispatch : s.advanced.dispatch (.paint p k) = s.advanced.keep (c.paint p k) :=
    dispatch_of_draws hc hdraws
  rw [Canvas.paint_of_mem hp] at hdispatch
  refine ⟨_, executeLine_line ?_ (.inl (by rw [hc]; rfl)) hdispatch, ?_⟩
  · simp [Command.fields, Field.IsWritable, hcol, hrow, hk]
  · rw [Stroke.apply, Canvas.paint_of_mem hp]

theorem run_cons_of_ok {s t : Interpreter} {line : String}
    (h : s.executeLine line = (.ok (), t)) (rest : List String) :
    s.run (line :: rest) = t.run rest := by
  have hdecoded : s.executeDecoded (some line) = (.ok (), t) := h
  exact runDecoded_cons_of_ok hdecoded _

theorem run_cons_of_error {s t : Interpreter} {line : String} {e : ScriptError}
    (h : s.executeLine line = (.error e, t)) (rest : List String) :
    s.run (line :: rest) = (.error e, t) := by
  have hdecoded : s.executeDecoded (some line) = (.error e, t) := h
  exact runDecoded_cons_of_error hdecoded _

/-- Lines that paint points on the canvas succeed one after the other, and come to the strokes that
they are for. Induction on the points, for any canvas to start from. -/
theorem run_paint {s : Interpreter} {c : Canvas} (hc : s.canvas = some c) (pixelAt : Point → Char)
    {points : List Point}
    (hpoints : ∀ p ∈ points, p ∈ c.dimensions ∧ Text.isBlank (pixelAt p) = false) :
    ∃ t, s.run (points.map fun p => (Command.paint p (pixelAt p)).line) = (.ok (), t) ∧
      t.canvas = some (c.after (points.map fun p => .paint p (pixelAt p))) := by
  induction points generalizing s c with
  | nil => exact ⟨s, rfl, hc⟩
  | cons p rest ih =>
    obtain ⟨hp, hk⟩ := hpoints p List.mem_cons_self
    obtain ⟨t, hline, ht⟩ := executeLine_paint hc hp hk
    have hrest : ∀ q ∈ rest, q ∈ ((Stroke.paint p (pixelAt p)).apply c).dimensions ∧
        Text.isBlank (pixelAt q) = false := by
      intro q hq
      rw [Stroke.dimensions_apply]
      exact hpoints q (List.mem_cons_of_mem _ hq)
    obtain ⟨u, hrun, hu⟩ := ih ht hrest
    exact ⟨u, by rw [List.map_cons, run_cons_of_ok hline, hrun], hu⟩

/-- Every canvas without blanks is left by a run that succeeds, from any state. The run does not
depend on what was there before, because its first line creates a new canvas. -/
theorem exists_run (s : Interpreter) {c : Canvas} (hsolid : c.Solid) :
    ∃ lines t, s.run lines = (.ok (), t) ∧ t.canvas = some c := by
  let pixelAt (p : Point) : Char := (c.get? p).getD Canvas.background
  have hpixel : ∀ p ∈ c.dimensions, c.get? p = some (pixelAt p) := by
    intro p hp
    obtain ⟨k, hk⟩ := Canvas.exists_get?_of_mem hp
    simp only [pixelAt, hk, Option.getD_some]
  have hpoints : ∀ p ∈ c.dimensions.points, p ∈ (Canvas.blank c.dimensions).dimensions ∧
      Text.isBlank (pixelAt p) = false := by
    intro p hp
    have hmem := Dimensions.mem_points.1 hp
    exact ⟨hmem, hsolid _ (Canvas.mem_pixels_iff.2 ⟨p, hpixel p hmem⟩)⟩
  -- the first line creates a blank canvas, and every point is painted after that
  let created : Interpreter := { s.advanced with canvas := some (Canvas.blank c.dimensions) }
  have hline : s.executeLine _ = (.ok (), created) := s.executeLine_create c.dimensions
  obtain ⟨u, hrun, hu⟩ := run_paint (show created.canvas = _ from rfl) pixelAt hpoints
  refine ⟨_ :: _, u, by rw [run_cons_of_ok hline, hrun], ?_⟩
  rw [hu, Option.some.injEq]
  -- each point was painted once, so its last pixel is the one that it is to show
  apply Canvas.ext_get?
  · exact Canvas.dimensions_after _ _
  · intro q hq
    have hq : q ∈ c.dimensions := by rwa [Canvas.dimensions_after] at hq
    rw [Canvas.get?_after_blank hq, lastPixel_paint hq pixelAt (Dimensions.mem_points.2 hq),
      hpixel q hq]

/-! ## Exactly these states

Both directions together describe the canvases that can be reached: they are those within the limits
that show no blank. -/

/-- What an interpreter that starts without a canvas can come to have: a canvas from the first line
on that creates one, with the sides that were named last and without blanks. Every such canvas is
reached, and by lines that all succeed. -/
theorem reachable_canvases (sink : Sink) (options : Options) (name : String) :
    let fresh : Interpreter := { sink := sink, options := options, name := name }
    (∀ lines,
      ((fresh.after lines).canvas.isSome ↔
        ∃ before line later, lines = before ++ line :: later ∧
          (fresh.after before).Creates line) ∧
      ((fresh.after lines).canvas.isSome →
        ∀ more, (fresh.after (lines ++ more)).canvas.isSome) ∧
      ∀ c, (fresh.after lines).canvas = some c →
        LatestSides fresh lines c.dimensions.width c.dimensions.height ∧
        (1 ≤ c.dimensions.width ∧ c.dimensions.width ≤ 250) ∧
        (1 ≤ c.dimensions.height ∧ c.dimensions.height ≤ 250) ∧
        c.pixels.size = c.dimensions.width * c.dimensions.height ∧
        ∀ k ∈ c.pixels, Text.isBlank k = false) ∧
    ∀ c : Canvas, (∀ k ∈ c.pixels, Text.isBlank k = false) →
      ∃ lines t, fresh.run lines = (.ok (), t) ∧ t.canvas = some c := by
  intro fresh
  refine ⟨?_, fun c hsolid => exists_run fresh hsolid⟩
  intro lines
  refine ⟨⟨?_, ?_⟩, ?_, ?_⟩
  · intro hsome
    obtain ⟨c, hc⟩ := Option.isSome_iff_exists.1 hsome
    exact (canvas_after rfl lines hc).1.exists_creates
  · rintro ⟨before, line, later, rfl, hcreates⟩
    -- there is a canvas right after the line, so there is one after the later lines
    rw [List.append_cons, after_append, after_concat]
    apply isSome_canvas_after
    rcases (fresh.after before).canvas_executeLine line with
      ⟨-, d, width, height, -, -, -, hcanvas⟩ | ⟨hkeeps, -⟩
    · rw [hcanvas]
      rfl
    · exact absurd hcreates hkeeps
  · intro hsome more
    rw [after_append]
    exact isSome_canvas_after hsome more
  · intro c hc
    obtain ⟨hsides, hsolid⟩ := canvas_after rfl lines hc
    exact ⟨hsides, ⟨c.dimensions.width_pos, c.dimensions.width_le⟩,
      ⟨c.dimensions.height_pos, c.dimensions.height_le⟩, c.size_pixels, hsolid⟩

end Interpreter

end PixelScript
