import PixelScript.Canvas.Flood
import PixelScript.Canvas.Rendering
import PixelScript.Canvas.Segment
import PixelScript.Script.Request
import PixelScript.Text.Lines

/-!
# The interpreter

An interpreter carries out the lines of a script one by one on at most one canvas, which the first
command has to create, and prints to a sink.

* `Interpreter.dispatch` carries out a command.
* `Interpreter.executeLine` carries out a line. A failure leaves the interpreter usable.
* `Interpreter.run` and `Interpreter.runBytes` carry out line after line up to the first failure.
-/

namespace PixelScript

open Script

/-- The state between two lines. -/
structure Interpreter where
  /-- The canvas, once one has been created. -/
  canvas : Option Canvas := none
  sink : Sink := {}
  options : Options := {}
  name : String := "<input>"
  /-- How many lines have been carried out, with or without success. -/
  line : Nat := 0

/-- Why a command is not carried out. -/
inductive Failure where
  | noCanvas
  | canvas (cause : CanvasError)
  | stream (cause : StreamError)
deriving DecidableEq

/-- What a line leads to: success or a failure, and the interpreter afterwards. -/
abbrev Outcome (ε : Type) : Type := Except ε Unit × Interpreter

namespace Interpreter

/-! ### Commands

What a command does to the canvas and to the sink. The line it came from plays no part here, so
failures carry no places yet. -/

/-- Keeps a canvas that was drawn on, also when the drawing came to an early end. -/
def keep (s : Interpreter) : Except CanvasError Unit × Canvas → Outcome Failure
  | (.ok (), canvas) => (.ok (), { s with canvas := some canvas })
  | (.error e, canvas) => (.error (.canvas e), { s with canvas := some canvas })

/-- Carries out a command. Without a canvas, only one that creates it can be carried out. -/
def dispatch (s : Interpreter) (command : Command) : Outcome Failure :=
  match command, s.canvas with
  | .create width height, _ =>
    match Canvas.ofSides width height with
    | .ok canvas => (.ok (), { s with canvas := some canvas })
    | .error e => (.error (.canvas e), s)
  | _, none => (.error .noCanvas, s)
  | .clear, some canvas => (.ok (), { s with canvas := some canvas.clear })
  | .paint point pixel, some canvas => s.keep (canvas.paint point pixel)
  | .vertical col fromRow toRow pixel, some canvas =>
    s.keep (canvas.drawVertical col fromRow toRow pixel)
  | .horizontal fromCol toCol row pixel, some canvas =>
    s.keep (canvas.drawHorizontal fromCol toCol row pixel)
  | .fill seed pixel, some canvas =>
    match canvas.fill seed pixel with
    | .ok (_, canvas) => (.ok (), { s with canvas := some canvas })
    | .error e => (.error (.canvas e), s)
  | .print, some canvas =>
    match canvas.render s.options s.sink with
    | (.ok (), sink) => (.ok (), { s with sink := sink })
    | (.error e, sink) => (.error (.stream e), { s with sink := sink })

/-! ### Lines

A line is counted before anything else is done with it, so that a diagnostic names it by its number.
Only afterwards is it read, understood and carried out, and each of these may fail. -/

/-- The diagnostic for a request that could not be carried out. -/
def explain (request : Request) : Failure → ScriptError
  | .noCanvas => .invalid .noCanvas request.source request.word.span
  | .canvas cause => .outOfBounds cause request.source request.coordinates
  | .stream cause => .stream cause

/-- Carries out the line `text`, which was read as the given record. -/
def executeRecord (s : Interpreter) (text : String) (record : Option Record) :
    Outcome ScriptError :=
  -- the line counts whatever becomes of it
  let s := { s with line := s.line + 1 }
  match Request.ofRecord s.canvas.isSome ⟨s.name, s.line, text⟩ record with
  | .error e => (.error e, s)
  | .ok request =>
    match s.dispatch request.command with
    | (.ok (), s) => (.ok (), s)
    | (.error failure, s) => (.error (explain request failure), s)

/-- Carries out a line: reads it, understands it, and does what it asks for. -/
def executeLine (s : Interpreter) (text : String) : Outcome ScriptError :=
  s.executeRecord text (Record.read? text)

/-! ### Scripts

A script is run by carrying out its lines in their order. Lines that come from bytes are decoded one
at a time, so what precedes a line that is not a text is carried out. -/

/-- Carries out a line that was read from a stream. One that could not be decoded is a failure of the
stream, and does not count as a line. -/
def executeDecoded (s : Interpreter) : Option String → Outcome ScriptError
  | some text => s.executeLine text
  | none => (.error (.stream .invalidText), s)

/-- Carries out lines up to the first failure. -/
def runDecoded (s : Interpreter) : List (Option String) → Outcome ScriptError
  | [] => (.ok (), s)
  | line :: rest =>
    match s.executeDecoded line with
    | (.ok (), s) => s.runDecoded rest
    | (.error e, s) => (.error e, s)

/-- Carries out the lines of a text up to the first failure. -/
def run (s : Interpreter) (lines : List String) : Outcome ScriptError :=
  s.runDecoded (lines.map some)

/-- Carries out the lines of a script given in bytes up to the first failure. Each line is decoded
when it is reached. -/
def runBytes (s : Interpreter) (bytes : ByteArray) : Outcome ScriptError :=
  s.runDecoded ((Text.byteLines bytes).map String.fromUTF8?)

/-! ### Running in steps

The equations of a run, by which proofs about scripts proceed line by line. -/

/-- After a line that succeeds the run goes on from the state that it leaves. -/
theorem runDecoded_cons_of_ok {s t : Interpreter} {line : Option String}
    (h : s.executeDecoded line = (.ok (), t)) (rest : List (Option String)) :
    s.runDecoded (line :: rest) = t.runDecoded rest := by
  simp only [runDecoded, h]

/-- The first line that fails ends the run, with its diagnostic and in the state that it leaves.
What follows it is not looked at. -/
theorem runDecoded_cons_of_error {s t : Interpreter} {line : Option String} {e : ScriptError}
    (h : s.executeDecoded line = (.error e, t)) (rest : List (Option String)) :
    s.runDecoded (line :: rest) = (.error e, t) := by
  simp only [runDecoded, h]

/-- A script in two parts is run part by part, and the second part only if the first succeeds.
Induction on the first part, from any state. -/
theorem runDecoded_append (s : Interpreter) (first second : List (Option String)) :
    s.runDecoded (first ++ second) =
      match s.runDecoded first with
      | (.ok (), t) => t.runDecoded second
      | (.error e, t) => (.error e, t) := by
  induction first generalizing s with
  | nil => rfl
  | cons line rest ih =>
    simp only [List.cons_append, runDecoded]
    split
    · exact ih _
    · rfl

end Interpreter

end PixelScript
