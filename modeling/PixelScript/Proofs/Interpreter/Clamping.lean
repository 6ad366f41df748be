import PixelScript.Proofs.Interpreter.Reachable
import PixelScript.Proofs.Script.Clamping

/-!
# Numbers without a bound

An interpreter that keeps every number of a line as it is (`Interpreter.executeExact`) cannot be told
from one that clamps it, except by the numbers that its failures quote: the two always have the same
canvas and the same output, and a failure of the one is the failure of the other with its numbers
clamped (`Interpreter.clamping_run`).
-/

namespace PixelScript

open Script

/-! ## Commands

The command with clamped numbers does the same to a canvas. It is refused alike, and where it is not
refused its numbers were exact. -/

theorem Script.Command.Draws.clamped {command : Command} (h : command.Draws) :
    command.clamped.Draws := by
  rw [Command.Draws, Command.verb_clamped]
  exact h

/-- The clamped command is refused for the clamped reason. Of a segment that is too long the reason
is a point next to the canvas, which clamping does not move. -/
theorem Script.Command.refusal?_clamped (d : Dimensions) {command : Command}
    (h : command.Draws) :
    command.clamped.refusal? (some d) = (command.refusal? (some d)).map CanvasError.clamped := by
  have hmap := apply_ite (Option.map CanvasError.clamped)
  have hheight := d.height_lt_largest
  have hwidth := d.width_lt_largest
  -- the point past the edge can be named
  have hbelow := Number.clamp_eq_self (Nat.succ_le_of_lt hheight)
  have hbeside := Number.clamp_eq_self (Nat.succ_le_of_lt hwidth)
  cases command with
  | create width height => exact absurd rfl h.1
  | clear | print => rfl
  | paint p k | fill p k =>
    simp only [clamped, Point.clamped, refusal?, Option.bind_some, Dimensions.clamp_mem_iff, hmap]
    rfl
  | vertical col a b k =>
    simp only [clamped, refusal?, Option.bind_some, ← Number.clamp_min, ← Number.clamp_max,
      Dimensions.clamp_mem_iff, Number.clamp_le_iff hheight, hmap, Option.map_some,
      Option.map_none, CanvasError.clamped, Point.clamped, hbelow]
  | horizontal a b row k =>
    simp only [clamped, refusal?, Option.bind_some, ← Number.clamp_min, ← Number.clamp_max,
      Dimensions.clamp_mem_iff, Number.clamp_le_iff hwidth, hmap, Option.map_some,
      Option.map_none, CanvasError.clamped, Point.clamped, hbeside]

/-- What is drawn does not depend on whether numbers are clamped, and the result is the clamped one.
-/
theorem Canvas.draw_clamped (c : Canvas) {command : Command} (hdraws : command.Draws) :
    c.draw command.clamped =
      ((c.draw command).1.mapError CanvasError.clamped, (c.draw command).2) := by
  apply Prod.ext
  · show (c.draw command.clamped).1 = (c.draw command).1.mapError CanvasError.clamped
    rw [draw_result c hdraws, draw_result c hdraws.clamped, Command.refusal?_clamped _ hdraws,
      resultOf_map]
  · show (c.draw command.clamped).2 = (c.draw command).2
    cases command with
    | create width height => exact absurd rfl hdraws.1
    | print => exact absurd rfl hdraws.2
    | clear => rfl
    | vertical col a b k => exact c.drawVertical_clamp col a b k
    | horizontal a b row k => exact c.drawHorizontal_clamp a b row k
    | paint p k =>
      by_cases hp : p ∈ c.dimensions
      · rw [Command.clamped, Point.clamped_of_mem hp]
      · have hp' : p.clamped ∉ c.dimensions := fun h => hp (Dimensions.clamp_mem_iff.1 h)
        rw [Command.clamped, draw, draw, paint_of_not_mem hp, paint_of_not_mem hp']
    | fill seed k =>
      by_cases hseed : seed ∈ c.dimensions
      · rw [Command.clamped, Point.clamped_of_mem hseed]
      · have hseed' : seed.clamped ∉ c.dimensions :=
          fun h => hseed (Dimensions.clamp_mem_iff.1 h)
        rw [Command.clamped, draw_fill_of_not_mem hseed, draw_fill_of_not_mem hseed']

/-- The failure of the clamped command. -/
def Failure.clamped : Failure → Failure
  | .noCanvas => .noCanvas
  | .canvas cause => .canvas cause.clamped
  | .stream cause => .stream cause

namespace Interpreter

theorem keep_clamped (s : Interpreter) (result : Except CanvasError Unit) (c : Canvas) :
    s.keep (result.mapError CanvasError.clamped, c) =
      ((s.keep (result, c)).1.mapError Failure.clamped, (s.keep (result, c)).2) := by
  cases result <;> rfl

theorem dispatch_clamped (s : Interpreter) (command : Command) :
    s.dispatch command.clamped =
      ((s.dispatch command).1.mapError Failure.clamped, (s.dispatch command).2) := by
  by_cases hcreate : command.verb = .create
  · cases command with
    | create width height =>
      simp only [Command.clamped, dispatch, Canvas.ofSides, Dimensions.ofSides_clamp]
      cases Dimensions.ofSides width height <;> rfl
    | _ => cases hcreate
  · have hcreate' : command.clamped.verb ≠ .create := by rwa [Command.verb_clamped]
    cases hs : s.canvas with
    | none =>
      rw [dispatch_of_canvas_eq_none hs hcreate, dispatch_of_canvas_eq_none hs hcreate']
      rfl
    | some c =>
      by_cases hprint : command.verb = .print
      · cases command with
        | print =>
          rw [Command.clamped, dispatch_print hs]
          cases (c.render s.options s.sink).1 <;> rfl
        | _ => cases hprint
      · have hdraws : command.Draws := ⟨hcreate, hprint⟩
        rw [dispatch_of_draws hs hdraws, dispatch_of_draws hs hdraws.clamped,
          c.draw_clamped hdraws]
        exact s.keep_clamped _ _

/-! ## Lines

A line is read with or without a bound, and the two readings differ in their numbers alone. From
there on the exact request is compared with its clamped form at every stage. -/

/-- The clamped failure of the clamped request is explained as the other one is, with its numbers
clamped. Where a diagnostic points to does not depend on numbers. -/
theorem explain_clamped (request : Request) (failure : Failure) :
    explain request.clamped failure.clamped = (explain request failure).clamped := by
  cases failure with
  | noCanvas | stream cause => rfl
  | canvas cause =>
    show ScriptError.outOfBounds _ _ request.clamped.coordinates = _
    rw [Request.coordinates_clamped]
    rfl

/-- A record is carried out like its clamped form, if its values are some that can be read from
words. -/
theorem executeRecord_clamped (s : Interpreter) (text : String) {record : Record}
    (hread : ∀ v ∈ record.values, v.IsRead) :
    s.executeRecord text (some record.clamped) =
      ((s.executeRecord text (some record)).1.mapError ScriptError.clamped,
        (s.executeRecord text (some record)).2) := by
  have hclamped := Request.ofRecord_clamped s.canvas.isSome ⟨s.name, s.line + 1, text⟩ hread
  cases hrequest : Request.ofRecord s.canvas.isSome ⟨s.name, s.line + 1, text⟩ (some record) with
  | error e =>
    -- neither record makes a request
    rw [hrequest] at hclamped
    change _ = Except.error e.clamped at hclamped
    simp only [executeRecord, hrequest, hclamped]
    rfl
  | ok request =>
    rw [hrequest] at hclamped
    change _ = Except.ok request.clamped at hclamped
    have hcommand : request.clamped.command = request.command.clamped := rfl
    simp only [executeRecord, hrequest, hclamped, hcommand, dispatch_clamped]
    cases Interpreter.dispatch { s with line := s.line + 1 } request.command with
    | mk result t =>
      cases result with
      | ok => rfl
      | error failure =>
        exact congrArg (fun e => (Except.error e, t)) (explain_clamped request failure)

/-- Carries out a line with its numbers as they are, however large. Nothing that is drawn clamps them
either: a flood goes on from points of the canvas only (`Flood.neighbours_of_mem`). -/
def executeExact (s : Interpreter) (text : String) : Outcome ScriptError :=
  s.executeRecord text (Record.readExact? text)

/-- A line has the same effect with and without a bound on its numbers. -/
theorem executeLine_eq_clamped (s : Interpreter) (text : String) :
    s.executeLine text =
      ((s.executeExact text).1.mapError ScriptError.clamped, (s.executeExact text).2) := by
  rw [executeLine, executeExact, Record.read?, Record.readExact?, Record.readWith?_eq,
    Record.readWith?_eq, Record.ofTokens_clamp]
  exact s.executeRecord_clamped text fun _ hv => Record.isRead_ofTokens hv

/-! ## Any number of lines

As both leave the same state after a line, they start from the same state with the next one. So the
relation between the two is equality, and there is no need for an invariant. -/

/-- The interpreter after lines that were carried out with their numbers as they are, each of them
whether or not those before it succeeded. -/
def afterExact (s : Interpreter) (lines : List String) : Interpreter :=
  lines.foldl (fun s line => (s.executeExact line).2) s

theorem after_eq_afterExact (s : Interpreter) (lines : List String) :
    s.after lines = s.afterExact lines := by
  have hstep : ∀ (t : Interpreter) (line : String),
      (t.executeLine line).2 = (t.executeExact line).2 := by
    intro t line
    rw [executeLine_eq_clamped]
  simp only [after, afterExact, hstep]

/-- After any lines, the interpreter that clamps numbers and the one that does not are in the same state,
and carry out the next line alike: both succeed, or both fail for the same kind of reason at the same part
of the line, where the one quotes the clamped numbers of the other. -/
theorem clamping_run (s : Interpreter) (lines : List String) (line : String) :
    s.after lines = s.afterExact lines ∧
      ((s.after lines).executeLine line).2 = ((s.afterExact lines).executeExact line).2 ∧
      match ((s.afterExact lines).executeExact line).1 with
      | .ok () => ((s.after lines).executeLine line).1 = .ok ()
      | .error e =>
        ((s.after lines).executeLine line).1 = .error e.clamped ∧ e.clamped.SameButNumbers e := by
  have hstate := s.after_eq_afterExact lines
  rw [hstate, executeLine_eq_clamped]
  refine ⟨rfl, rfl, ?_⟩
  cases ((s.afterExact lines).executeExact line).1 with
  | ok => rfl
  | error e => exact ⟨rfl, e.sameButNumbers_clamped⟩

end Interpreter

end PixelScript
