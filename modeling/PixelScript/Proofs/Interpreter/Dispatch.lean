import PixelScript.Interpreter
import PixelScript.Proofs.Canvas.Flood
import PixelScript.Proofs.Canvas.Segment
import PixelScript.Proofs.Script.Binding

/-!
# What commands do

Apart from the commands that create or print a canvas, a command draws on the canvas that there is
(`Canvas.draw`, `Interpreter.dispatch_of_draws`). Which commands are refused depends on the
dimensions only (`Command.refusal?`). What is drawn stays within the dimensions, and shows nothing
but the former pixels, the background and the colour of the command (`Canvas.get?_draw`).
-/

namespace PixelScript

open Script

/-- Whether a command draws on the canvas that there is. All verbs do but the one that makes a new
canvas and the one that prints. -/
def Script.Command.Draws (command : Command) : Prop :=
  command.verb ≠ .create ∧ command.verb ≠ .print

/-! ## Refusals

A refusal can be told in advance from the command and the dimensions, without looking at a pixel. It
is given as a function here so that it can be compared with what carrying the command out comes to.
-/

/-- Why a command is refused where there is a canvas of the given dimensions, or none. -/
def Script.Command.refusal? (size : Option Dimensions) : Command → Option CanvasError
  | .clear | .print => none
  | .create width height =>
    if maxSide < width ∨ maxSide < height then some (.tooLarge width height)
    else if width < minSide ∨ height < minSide then some (.tooSmall width height)
    else none
  | .paint p _ | .fill p _ => size.bind fun d => if p ∈ d then none else some (.outOfBounds p d)
  | .vertical col a b _ => size.bind fun d =>
    if (⟨col, min a b⟩ : Point) ∉ d then some (.outOfBounds ⟨col, min a b⟩ d)
    else if max a b ≤ d.height then none
    else some (.outOfBounds ⟨col, d.height + 1⟩ d)
  | .horizontal a b row _ => size.bind fun d =>
    if (⟨min a b, row⟩ : Point) ∉ d then some (.outOfBounds ⟨min a b, row⟩ d)
    else if max a b ≤ d.width then none
    else some (.outOfBounds ⟨d.width + 1, row⟩ d)

/-- The result of something that fails for the given reason, or succeeds where there is none. -/
def resultOf {ε : Type} : Option ε → Except ε Unit
  | some e => .error e
  | none => .ok ()

theorem resultOf_map {ε ε' : Type} (f : ε → ε') (o : Option ε) :
    resultOf (o.map f) = (resultOf o).mapError f := by
  cases o <;> rfl

/-! ## Drawing

The commands that draw are seen as one operation on a canvas, with one case for each verb. The
lemmas have the same cases, and each of them cites what is known of the operation in its own module.
-/

namespace Canvas

/-- Carries out a command that draws on the canvas. A flood also gives back a number, which is
dropped, and a command that does not draw is carried out as if there was nothing to do. -/
def draw (c : Canvas) : Command → Except CanvasError Unit × Canvas
  | .create .. | .print => (.ok (), c)
  | .clear => (.ok (), c.clear)
  | .paint p k => c.paint p k
  | .vertical col a b k => c.drawVertical col a b k
  | .horizontal a b row k => c.drawHorizontal a b row k
  | .fill seed k =>
    match c.fill seed k with
    | .ok (_, c') => (.ok (), c')
    | .error e => (.error e, c)

/-- A flood whose seed is on the canvas succeeds, and every pixel afterwards is the former one or
the given one. -/
theorem draw_fill_of_mem {c : Canvas} {seed : Point} (h : seed ∈ c.dimensions) (k : Char) :
    ∃ c', c.draw (.fill seed k) = (.ok (), c') ∧ c'.dimensions = c.dimensions ∧
      ∀ q, c'.get? q = c.get? q ∨ c'.get? q = some k := by
  obtain ⟨count, c', hfill, hdims, hget⟩ := fill_of_mem h k
  exact ⟨c', by rw [draw, hfill], hdims, hget⟩

/-- A flood whose seed is off the canvas is refused for its seed, and the canvas is the former one.
-/
theorem draw_fill_of_not_mem {c : Canvas} {seed : Point} (h : seed ∉ c.dimensions) (k : Char) :
    c.draw (.fill seed k) = (.error (.outOfBounds seed c.dimensions), c) := by
  rw [draw, fill_of_not_mem h]

/-- A command that draws is refused for a reason that the dimensions give, and for no other.
Segments have two such reasons, one for each end, in the order in which the ends are reached. -/
theorem draw_result (c : Canvas) {command : Command} (hdraws : command.Draws) :
    (c.draw command).1 = resultOf (command.refusal? (some c.dimensions)) := by
  cases command with
  -- this verb and the one that prints do not draw
  | create width height => exact absurd rfl hdraws.1
  | clear | print => rfl
  | paint p k =>
    by_cases hp : p ∈ c.dimensions
    · simp only [draw, paint_of_mem hp, Command.refusal?, Option.bind_some, if_pos hp, resultOf]
    · simp only [draw, paint_of_not_mem hp, Command.refusal?, Option.bind_some, if_neg hp, resultOf]
  | fill seed k =>
    by_cases hseed : seed ∈ c.dimensions
    · obtain ⟨c', hdraw, -⟩ := draw_fill_of_mem hseed k
      simp only [hdraw, Command.refusal?, Option.bind_some, if_pos hseed, resultOf]
    · simp only [draw_fill_of_not_mem hseed, Command.refusal?, Option.bind_some, if_neg hseed,
        resultOf]
  | vertical col a b k =>
    rw [draw, drawVertical_result, Command.refusal?, Option.bind_some]
    -- the lower end is off the canvas, or else the upper end decides
    split
    · rfl
    · split <;> rfl
  | horizontal a b row k =>
    rw [draw, drawHorizontal_result, Command.refusal?, Option.bind_some]
    split
    · rfl
    · split <;> rfl

theorem dimensions_draw (c : Canvas) (command : Command) :
    (c.draw command).2.dimensions = c.dimensions := by
  cases command with
  | create width height => rfl
  | clear | print => rfl
  | paint p k =>
    by_cases hp : p ∈ c.dimensions
    · rw [draw, paint_of_mem hp, dimensions_put]
    · rw [draw, paint_of_not_mem hp]
  | fill seed k =>
    by_cases hseed : seed ∈ c.dimensions
    · obtain ⟨c', hdraw, hdims, -⟩ := draw_fill_of_mem hseed k
      rw [hdraw, hdims]
    · rw [draw_fill_of_not_mem hseed]
  | vertical col a b k => exact dimensions_drawVertical c col a b k
  | horizontal a b row k => exact dimensions_drawHorizontal c a b row k

/-- Every pixel afterwards was there before, or it is the background or the command's colour. This
also holds for segments that are refused halfway. -/
theorem get?_draw (c : Canvas) (command : Command) (q : Point) :
    (c.draw command).2.get? q = c.get? q ∨ (c.draw command).2.get? q = some background ∨
      ∃ k, Field.colour k ∈ command.fields ∧ (c.draw command).2.get? q = some k := by
  cases command with
  | create width height => exact .inl rfl
  | print => exact .inl rfl
  | clear =>
    rw [draw, clear_eq_blank]
    -- cleared points show the background
    by_cases hq : q ∈ c.dimensions
    · exact .inr (.inl (get?_blank hq))
    · -- nothing is shown off the canvas, neither before nor after
      left
      rw [get?_eq_none_iff.2 hq]
      exact get?_eq_none_iff.2 hq
  | paint p k =>
    by_cases hp : p ∈ c.dimensions
    · rw [draw, paint_of_mem hp, get?_put hp]
      split
      · exact .inr (.inr ⟨k, by simp [Command.fields], rfl⟩)
      · exact .inl rfl
    · rw [draw, paint_of_not_mem hp]
      exact .inl rfl
  | fill seed k =>
    by_cases hseed : seed ∈ c.dimensions
    · obtain ⟨c', hdraw, -, hget⟩ := draw_fill_of_mem hseed k
      rw [hdraw]
      rcases hget q with hsame | hpainted
      · exact .inl hsame
      · exact .inr (.inr ⟨k, by simp [Command.fields], hpainted⟩)
    · rw [draw_fill_of_not_mem hseed]
      exact .inl rfl
  | vertical col a b k =>
    rw [draw, get?_drawVertical]
    split
    · exact .inr (.inr ⟨k, by simp [Command.fields], rfl⟩)
    · exact .inl rfl
  | horizontal a b row k =>
    rw [draw, get?_drawHorizontal]
    split
    · exact .inr (.inr ⟨k, by simp [Command.fields], rfl⟩)
    · exact .inl rfl

end Canvas

/-! ## Dispatching

What the interpreter makes of a command falls into four cases: there is no canvas, the command
draws, it prints, or it creates a canvas. A lemma for each says what it does to the whole
interpreter. -/

namespace Interpreter

/-- Without a canvas every command is refused but the one that creates one, and nothing changes. -/
theorem dispatch_of_canvas_eq_none {s : Interpreter} (hs : s.canvas = none) {command : Command}
    (h : command.verb ≠ .create) : s.dispatch command = (.error .noCanvas, s) := by
  cases s
  cases hs
  cases command with
  | create width height => exact absurd rfl h
  | _ => rfl

/-- A command that draws is carried out on the canvas, and the interpreter keeps what comes of it.
-/
theorem dispatch_of_draws {s : Interpreter} {c : Canvas} {command : Command}
    (hc : s.canvas = some c) (hdraws : command.Draws) :
    s.dispatch command = s.keep (c.draw command) := by
  cases s
  cases hc
  cases command with
  | create width height => exact absurd rfl hdraws.1
  | print => exact absurd rfl hdraws.2
  | clear | paint p k | vertical col a b k | horizontal a b row k => rfl
  | fill seed k =>
    -- a flood is dispatched with its number, and drawn without it
    simp only [dispatch, Canvas.draw]
    cases c.fill seed k <;> rfl

/-- Printing writes the canvas to the sink and reports an error of the sink as its own. Only the
sink changes. -/
theorem dispatch_print {s : Interpreter} {c : Canvas} (hc : s.canvas = some c) :
    s.dispatch .print =
      ((c.render s.options s.sink).1.mapError Failure.stream,
        { s with sink := (c.render s.options s.sink).2 }) := by
  cases s
  cases hc
  simp only [dispatch]
  rcases c.render _ _ with ⟨_ | _, sink⟩ <;> rfl

/-- Creating a canvas succeeds with a blank one of the given sides, or is refused for its sides and
changes nothing. The canvas that there was before has no say in it. -/
theorem dispatch_create (s : Interpreter) (width height : Nat) :
    (∃ e, Command.refusal? (s.canvas.map Canvas.dimensions) (.create width height) = some e ∧
        s.dispatch (.create width height) = (.error (.canvas e), s)) ∨
      ∃ d : Dimensions, d.width = width ∧ d.height = height ∧
        s.dispatch (.create width height) =
          (.ok (), { s with canvas := some (Canvas.blank d) }) := by
  simp only [dispatch, Canvas.ofSides, Dimensions.ofSides, Command.refusal?]
  split
  · exact .inl ⟨_, rfl, rfl⟩
  · split
    · exact .inl ⟨_, rfl, rfl⟩
    · exact .inr ⟨_, rfl, rfl, rfl⟩

/-- Why a command can fail to be carried out, and which commands can fail for which reason: the lack
of a canvas, a reason that a canvas gives, or an error of the sink. So the reason tells which kind
of command it was. -/
theorem failure_of_dispatch {s t : Interpreter} {command : Command} {failure : Failure}
    (h : s.dispatch command = (.error failure, t)) :
    (failure = .noCanvas ∧ s.canvas = none ∧ command.verb ≠ .create) ∨
      (∃ cause, failure = .canvas cause ∧ command.verb ≠ .clear ∧ command.verb ≠ .print) ∨
      ∃ cause, failure = .stream cause ∧ command.verb = .print := by
  -- the cases are those of the lemmas above: creating, no canvas, printing, drawing
  by_cases hcreate : command.verb = .create
  · cases command with
    | create width height =>
      rcases dispatch_create s width height with ⟨cause, -, hrefused⟩ | ⟨d, -, -, hcreated⟩
      · rw [hrefused] at h
        cases h
        exact .inr (.inl ⟨cause, rfl, nofun, nofun⟩)
      · rw [hcreated] at h
        cases h
    | _ => cases hcreate
  · cases hcanvas : s.canvas with
    | none =>
      rw [dispatch_of_canvas_eq_none hcanvas hcreate] at h
      cases h
      exact .inl ⟨rfl, rfl, hcreate⟩
    | some c =>
      by_cases hprint : command.verb = .print
      · cases command with
        | print =>
          rw [dispatch_print hcanvas] at h
          -- only the result of the print matters here
          generalize (c.render s.options s.sink).1 = result at h
          cases result with
          | ok => cases h
          | error cause =>
            cases h
            exact .inr (.inr ⟨cause, rfl, rfl⟩)
        | _ => cases hprint
      · rw [dispatch_of_draws hcanvas ⟨hcreate, hprint⟩] at h
        by_cases hclear : command.verb = .clear
        · cases command with
          | clear => cases h
          | _ => cases hclear
        · -- and here only the result of the drawing
          generalize c.draw command = outcome at h
          rcases outcome with ⟨cause | _, c'⟩
          · cases h
            exact .inr (.inl ⟨cause, rfl, hclear, hprint⟩)
          · cases h

end Interpreter

end PixelScript
