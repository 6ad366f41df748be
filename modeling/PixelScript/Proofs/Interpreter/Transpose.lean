import PixelScript.Proofs.Canvas.Transpose
import PixelScript.Proofs.Interpreter.Dispatch

/-!
# Scripts with columns and rows exchanged

`Command.transpose` exchanges columns and rows in a command. Commands that are carried out one after
the other, going on after failures, and their transposes come to the same results on transposed
canvases (`Interpreter.transposed_run`): a step lemma relates two interpreters before and after a
command (`Interpreter.Mirrors.dispatch`), and the run follows by induction.
-/

namespace PixelScript

open Script

/-! ## Commands

The transposed command names the transposed points, and a column becomes a row. It is of the same
kind as the command, drawn by the same lemmas and refused for the transposed reason. -/

/-- The command with columns and rows exchanged. -/
def Script.Command.transpose : Command → Command
  | .create width height => .create height width
  | .clear => .clear
  | .paint p k => .paint p.transpose k
  | .vertical col a b k => .horizontal a b col k
  | .horizontal a b row k => .vertical row a b k
  | .fill seed k => .fill seed.transpose k
  | .print => .print

theorem Script.Command.Draws.transpose {command : Command} (h : command.Draws) :
    command.transpose.Draws := by
  cases command with
  | create width height => exact absurd rfl h.1
  | print => exact absurd rfl h.2
  | _ => exact ⟨by nofun, by nofun⟩

/-- The transposed command is refused for the transposed reason. The limits on columns of the one
are those on rows of the other. -/
theorem Script.Command.refusal?_transpose (d : Dimensions) {command : Command}
    (h : command.Draws) :
    command.transpose.refusal? (some d.transpose) =
      (command.refusal? (some d)).map CanvasError.transpose := by
  -- the ends of segments are given by their numbers, not as transposed points
  have hmem (col row : Nat) : (⟨row, col⟩ : Point) ∈ d.transpose ↔ (⟨col, row⟩ : Point) ∈ d :=
    Dimensions.mem_transpose (p := ⟨col, row⟩)
  have hmap := apply_ite (Option.map CanvasError.transpose)
  cases command with
  | create width height => exact absurd rfl h.1
  | clear | print => rfl
  | paint p k | fill p k =>
    simp only [transpose, refusal?, Option.bind_some, Dimensions.mem_transpose, hmap]
    rfl
  | vertical col a b k =>
    simp only [transpose, refusal?, Option.bind_some, hmem, Dimensions.width_transpose, hmap]
    rfl
  | horizontal a b row k =>
    simp only [transpose, refusal?, Option.bind_some, hmem, Dimensions.height_transpose, hmap]
    rfl

/-- Drawing the transposed command on the transposed canvas gives the transposed canvas, and comes
to the transposed result. For a flood this means that the order in which it goes through the points
does not show. -/
theorem Canvas.Transposed.draw {c c' : Canvas} (h : Transposed c c') {command : Command}
    (hdraws : command.Draws) :
    (c'.draw command.transpose).1 = (c.draw command).1.mapError CanvasError.transpose ∧
      Transposed (c.draw command).2 (c'.draw command.transpose).2 := by
  -- the results are compared through the refusals, the canvases verb by verb
  refine ⟨?_, ?_⟩
  · rw [draw_result c hdraws, draw_result c' hdraws.transpose, h.dimensions_eq,
      Command.refusal?_transpose _ hdraws, resultOf_map]
  · cases command with
    | create width height => exact absurd rfl hdraws.1
    | print => exact absurd rfl hdraws.2
    | clear => exact h.clear
    | paint p k => exact h.paint p k
    | vertical col a b k => exact h.drawVertical col a b k
    | horizontal a b row k => exact h.drawHorizontal a b row k
    | fill seed k =>
      by_cases hseed : seed ∈ c.dimensions
      · obtain ⟨count, d, d', hfill, hfill', hd⟩ := h.fill hseed k
        simp only [Command.transpose, Canvas.draw, hfill, hfill']
        exact hd
      · have hseed' : seed.transpose ∉ c'.dimensions := fun hmem => hseed (h.mem_iff.1 hmem)
        rw [Command.transpose, draw_fill_of_not_mem hseed, draw_fill_of_not_mem hseed']
        exact h

/-! ## One command

Two interpreters are compared while one of them is given commands and the other one their
transposes. The relation leaves open what was printed, as the texts of a canvas and of its transpose
have little in common. -/

/-- The failure of the transposed command. -/
def Failure.transpose : Failure → Failure
  | .noCanvas => .noCanvas
  | .canvas cause => .canvas cause.transpose
  | .stream cause => .stream cause

namespace Interpreter

/-- Two interpreters whose canvases are transposes of one another and whose sinks take everything
that is written. -/
structure Mirrors (s t : Interpreter) : Prop where
  canvas : Option.Rel Canvas.Transposed s.canvas t.canvas
  limit_left : s.sink.limit = none
  limit_right : t.sink.limit = none
  flushFails_eq : t.sink.flushFails = s.sink.flushFails

theorem Mirrors.keep {s t : Interpreter} (h : Mirrors s t) {result : Except CanvasError Unit}
    {c c' : Canvas} (hc : c.Transposed c') :
    (t.keep (result.mapError CanvasError.transpose, c')).1 =
        (s.keep (result, c)).1.mapError Failure.transpose ∧
      Mirrors (s.keep (result, c)).2 (t.keep (result.mapError CanvasError.transpose, c')).2 := by
  cases result with
  | ok | error e =>
    exact ⟨rfl, .some hc, h.limit_left, h.limit_right, h.flushFails_eq⟩

/-- A print succeeds on both sides or fails with the same stream error. A sink without a limit can
only fail to be flushed, whatever the text is. -/
theorem Mirrors.dispatch_print {s t : Interpreter} (h : Mirrors s t) {c c' : Canvas}
    (hs : s.canvas = some c) (ht : t.canvas = some c') :
    (t.dispatch .print).1 = (s.dispatch .print).1.mapError Failure.transpose ∧
      Mirrors (s.dispatch .print).2 (t.dispatch .print).2 := by
  rw [Interpreter.dispatch_print hs, Interpreter.dispatch_print ht, Canvas.render, Canvas.render,
    Sink.emit_of_limit_eq_none h.limit_left, Sink.emit_of_limit_eq_none h.limit_right,
    h.flushFails_eq]
  refine ⟨?_, h.canvas, h.limit_left, h.limit_right, rfl⟩
  split <;> rfl

theorem Mirrors.dispatch_create {s t : Interpreter} (h : Mirrors s t) (width height : Nat) :
    (t.dispatch (.create height width)).1 =
        (s.dispatch (.create width height)).1.mapError Failure.transpose ∧
      Mirrors (s.dispatch (.create width height)).2 (t.dispatch (.create height width)).2 := by
  simp only [dispatch, Canvas.ofSides, Dimensions.ofSides_transpose width height]
  -- the sides are refused on both sides or on neither
  cases Dimensions.ofSides width height with
  | ok d =>
    exact ⟨rfl, .some (Canvas.Transposed.blank d), h.limit_left, h.limit_right, h.flushFails_eq⟩
  | error e => exact ⟨rfl, h⟩

/-- One command and its transpose lead from mirrored interpreters to mirrored interpreters, and come
to transposed results. -/
theorem Mirrors.dispatch {s t : Interpreter} (h : Mirrors s t) (command : Command) :
    (t.dispatch command.transpose).1 = (s.dispatch command).1.mapError Failure.transpose ∧
      Mirrors (s.dispatch command).2 (t.dispatch command.transpose).2 := by
  -- creating needs no canvas; for all other commands both interpreters have one or neither has
  by_cases hcreate : command.verb = .create
  · cases command with
    | create width height => exact h.dispatch_create width height
    | _ => cases hcreate
  · -- no other command is transposed to one that creates a canvas
    have hcreate' : command.transpose.verb ≠ .create := by
      cases command with
      | create width height => exact absurd rfl hcreate
      | _ => nofun
    have hcanvas := h.canvas
    generalize hs : s.canvas = left at hcanvas
    generalize ht : t.canvas = right at hcanvas
    cases hcanvas with
    | none =>
      rw [dispatch_of_canvas_eq_none hs hcreate, dispatch_of_canvas_eq_none ht hcreate']
      exact ⟨rfl, h⟩
    | @some c c' hc =>
      by_cases hprint : command.verb = .print
      · cases command with
        | print => exact h.dispatch_print hs ht
        | _ => cases hprint
      · have hdraws : command.Draws := ⟨hcreate, hprint⟩
        obtain ⟨hresult, hdrawn⟩ := hc.draw hdraws
        rw [dispatch_of_draws hs hdraws, dispatch_of_draws ht hdraws.transpose]
        have hpair : c'.draw command.transpose =
            ((c.draw command).1.mapError CanvasError.transpose, (c'.draw command.transpose).2) :=
          Prod.ext hresult rfl
        rw [hpair]
        exact h.keep hdrawn

/-! ## Any number of commands

The step is repeated for a list of commands. Failures do not end the run here, so the relation has
to be kept by commands that are refused as well. -/

/-- The interpreter after commands, each of which is carried out whether or not those before it
succeeded. -/
def afterCommands (s : Interpreter) (commands : List Command) : Interpreter :=
  commands.foldl (fun s command => (s.dispatch command).2) s

/-- Commands and their transposes lead from mirrored interpreters to mirrored interpreters.
Induction on the commands, with one step for each. -/
theorem Mirrors.afterCommands {s t : Interpreter} (h : Mirrors s t) (commands : List Command) :
    Mirrors (s.afterCommands commands) (t.afterCommands (commands.map Command.transpose)) := by
  induction commands generalizing s t with
  | nil => exact h
  | cons command rest ih => exact ih (h.dispatch command).2

/-- After any commands, the next one and its transpose come to the same result on transposed canvases,
and floods paint equally many points. -/
theorem transposed_run {sink : Sink} (hsink : sink.limit = none) (options : Options) (name : String)
    (commands : List Command) (command : Command) :
    let fresh : Interpreter := { sink := sink, options := options, name := name }
    let s := fresh.afterCommands commands
    let t := fresh.afterCommands (commands.map Command.transpose)
    (t.dispatch command.transpose).1 = (s.dispatch command).1.mapError Failure.transpose ∧
      Option.Rel Canvas.Transposed (s.dispatch command).2.canvas
        (t.dispatch command.transpose).2.canvas ∧
      ∀ seed k c c', s.canvas = some c → t.canvas = some c' →
        (c'.fill seed.transpose k).map Prod.fst =
          ((c.fill seed k).map Prod.fst).mapError CanvasError.transpose := by
  intro fresh s t
  have hfresh : Mirrors fresh fresh := ⟨.none, hsink, hsink, rfl⟩
  have hmirrors : Mirrors s t := hfresh.afterCommands commands
  obtain ⟨hresult, hafter⟩ := hmirrors.dispatch command
  refine ⟨hresult, hafter.canvas, ?_⟩
  intro seed k c c' hs ht
  -- both interpreters have a canvas, so the relation gives the transposes
  have hc : c.Transposed c' := by
    have hcanvas := hmirrors.canvas
    rw [hs, ht] at hcanvas
    cases hcanvas with
    | some hc => exact hc
  by_cases hseed : seed ∈ c.dimensions
  · obtain ⟨count, d, d', hfill, hfill', -⟩ := hc.fill hseed k
    rw [hfill, hfill']
    rfl
  · have hseed' : seed.transpose ∉ c'.dimensions := fun hmem => hseed (hc.mem_iff.1 hmem)
    rw [Canvas.fill_of_not_mem hseed, Canvas.fill_of_not_mem hseed', hc.dimensions_eq]
    rfl

/-- A column that is clipped at the lower edge, and the row that is clipped at the right edge. -/
theorem transposed_run_clipped :
    let d : Dimensions := ⟨3, 2, by decide, by decide, by decide, by decide⟩
    let fresh : Interpreter := {}
    let commands : List Command := [.create 3 2, .paint ⟨3, 1⟩ 'x', .create 0 9]
    let s := fresh.afterCommands commands
    let t := fresh.afterCommands (commands.map Command.transpose)
    ({} : Sink).limit = none ∧
      (s.dispatch (.vertical 2 5 1 'k')).1 = .error (.canvas (.outOfBounds ⟨2, 3⟩ d)) ∧
      (t.dispatch (.horizontal 5 1 2 'k')).1 =
        .error (.canvas (.outOfBounds ⟨3, 2⟩ d.transpose)) ∧
      Option.Rel Canvas.Transposed (s.dispatch (.vertical 2 5 1 'k')).2.canvas
        (t.dispatch (.horizontal 5 1 2 'k')).2.canvas := by
  intro d fresh commands s t
  have hsink : ({} : Sink).limit = none := rfl
  obtain ⟨hresult, hcanvas, -⟩ :=
    transposed_run hsink {} "<input>" commands (.vertical 2 5 1 'k')
  have hclipped : (s.dispatch (.vertical 2 5 1 'k')).1 =
      .error (.canvas (.outOfBounds ⟨2, 3⟩ d)) := rfl
  refine ⟨hsink, hclipped, ?_, hcanvas⟩
  exact hresult.trans (congrArg (Except.mapError Failure.transpose) hclipped)

end Interpreter

end PixelScript
