import PixelScript.Proofs.Canvas.Guarded
import PixelScript.Proofs.Interpreter.Labels
import PixelScript.Proofs.Script.Guarded

/-!
# Carrying out lines with guards

A line is carried out with all the guards of reading, binding and drawing, and with faults in place of
the branches that are there for completeness only: a line without a record, a command without a canvas
and a refusal without coordinates. Each of them is kept from happening by a check that was made
earlier, so a line is carried out without a fault in every state, and so is any number of lines
(`Interpreter.executeLine_guarded`).
-/

namespace PixelScript

open Script

namespace Guarded

/-! ## Requests

A request is made with guards around the number of arguments and around every one that is looked up.
The spans are computed with subtractions that have to stay above zero. -/

/-- Makes a request of the record of a line, with the guards of the binder. A line without words is
the only one without a command. -/
def ofRecord (hasCanvas : Bool) (source : SourceLine) (record : Record) :
    Except Fault (Except ScriptError Request) :=
  match record.command with
  | none => return .error (.invalid .blankLine source source.whole)
  | some word =>
    match Verb.ofWord? word.text with
    | none => return .error (.invalid (.unknownVerb word.text) source word.span)
    | some verb =>
      if verb ≠ .create ∧ hasCanvas = false then
        return .error (.invalid .noCanvas source word.span)
      else do
        match ← bind verb record.arguments with
        | .error e => return .error (.invalid (.misfit verb e) source (← misfit record source e))
        | .ok command => return .ok ⟨source, word, record, command⟩

/-- The part of the line that names sides or coordinates. A verb without them, too few arguments,
and an argument that ends before the first one begins are faults. -/
def coordinates (r : Request) : Except Fault Span :=
  match Record.coordinateCount r.command.verb with
  | 0 => .error .noCoordinates
  | last + 1 =>
    match r.record.arguments.head?, r.record.arguments[last]? with
    | some first, some last => do
      let length ← minus last.span.stop first.span.offset
      return ⟨first.span.offset, length⟩
    | _, _ => .error .noCoordinates

/-- The guards are never needed in making a request, and the request is the same. The binder faults
only where there are too few arguments, and their number was checked. -/
theorem ofRecord_eq (hasCanvas : Bool) (source : SourceLine) (record : Record) :
    ofRecord hasCanvas source record = .ok (Request.ofRecord hasCanvas source (some record)) := by
  simp only [ofRecord, Request.ofRecord]
  cases record.command with
  | none => rfl
  | some word =>
    cases hverb : Verb.ofWord? word.text with
    | none =>
      simp only [hverb]
      rfl
    | some verb =>
      simp only [hverb]
      split
      · rfl
      · -- the binder sees the values of the arguments, by definition those of the record
        have hvalues : record.arguments.map Argument.value = record.values := rfl
        rw [bind_eq, ok_bind, hvalues]
        cases hbind : Command.bind verb record.values with
        | ok command => rfl
        | error e =>
          simp only [misfit_of_bind hbind]
          rfl

/-- A request with coordinates has them from the first to the last, in this order, so the length of
the part is no negative number. -/
theorem coordinates_of_ofRecord {hasCanvas : Bool} {source : SourceLine} {request : Request}
    (h : Request.ofRecord hasCanvas source (Record.read? source.text) = .ok request)
    (hclear : request.command.verb ≠ .clear) (hprint : request.command.verb ≠ .print) :
    coordinates request = .ok request.coordinates ∧
      request.record.coordinates? request.command.verb = some request.coordinates := by
  obtain ⟨t, rest, count, first, last, hunderstood, -, hcount, hfirst, hlast, hprecedes⟩ :=
    Request.coordinateTokens_of_ofRecord h hclear hprint
  have hspan : request.record.coordinates? request.command.verb =
      some (first.span.to last.span) := by
    rw [hunderstood.record_eq, Record.coordinates?_ofTokens hcount hfirst hlast]
  have hcoordinates : request.coordinates = first.span.to last.span := by
    rw [Request.coordinates, hspan]
    rfl
  rw [hcoordinates]
  refine ⟨?_, hspan⟩
  -- the last argument ends behind the beginning of the first one
  unfold coordinates
  rw [hunderstood.record_eq]
  simp only [hcount, List.head?_eq_getElem?, Record.getElem?_arguments_ofTokens hfirst,
    Record.getElem?_arguments_ofTokens hlast]
  show (minus last.span.stop first.span.offset >>= _) = _
  rw [minus_of_le hprecedes.offset_le]
  rfl

/-! ## Commands

Commands other than the one that creates a canvas need one. A request is only made when there is
one, so here the lack of it is a fault. -/

/-- Carries out a command on the canvas that there has to be, with the guards of drawing and
printing. -/
def dispatch (s : Interpreter) (command : Command) : Except Fault (Outcome Failure) :=
  match command, s.canvas with
  | .create width height, _ => return s.dispatch (.create width height)
  | _, none => .error .noCanvas
  | .clear, some canvas => return (.ok (), { s with canvas := some canvas.clear })
  | .paint point pixel, some canvas => do return s.keep (← paint canvas point pixel)
  | .vertical col fromRow toRow pixel, some canvas => do
    return s.keep (← paintBetween canvas (fun row => ⟨col, row⟩) fromRow toRow pixel)
  | .horizontal fromCol toCol row pixel, some canvas => do
    return s.keep (← paintBetween canvas (fun col => ⟨col, row⟩) fromCol toCol pixel)
  | .fill seed pixel, some canvas => do
    match ← fill canvas seed pixel with
    | .ok (_, canvas) => return (.ok (), { s with canvas := some canvas })
    | .error e => return (.error (.canvas e), s)
  | .print, some canvas => do
    match ← render canvas s.options s.sink with
    | (.ok (), sink) => return (.ok (), { s with sink := sink })
    | (.error e, sink) => return (.error (.stream e), { s with sink := sink })

/-- A command that is let through has the canvas that it needs, and drawing never comes to a fault,
so the guards change nothing. -/
theorem dispatch_eq {s : Interpreter} {command : Command}
    (h : s.canvas.isSome ∨ command.verb = .create) :
    dispatch s command = .ok (s.dispatch command) := by
  cases hcanvas : s.canvas with
  | none =>
    cases command with
    | create width height => rfl
    | _ =>
      rcases h with hsome | hcreate
      · rw [hcanvas] at hsome
        cases hsome
      · cases hcreate
  | some c =>
    cases s
    cases hcanvas
    cases command with
    | create width height => rfl
    | clear => rfl
    | paint p k =>
      simp only [dispatch, paint_eq]
      rfl
    | vertical col a b k =>
      simp only [dispatch, paintBetween_eq]
      rfl
    | horizontal a b row k =>
      simp only [dispatch, paintBetween_eq]
      rfl
    | fill seed k =>
      -- what the flood gives back is taken apart in the same way on both sides
      simp only [dispatch, fill_eq, ok_bind, Interpreter.dispatch]
      cases c.fill seed k <;> rfl
    | print =>
      simp only [dispatch, render_eq, ok_bind, Interpreter.dispatch]
      rcases c.render _ _ with ⟨_ | _, sink⟩ <;> rfl

/-! ## Lines

A line goes through all of this in turn. What one stage has checked is what the guards of the next
stage ask for, and this is where the two are brought together. -/

/-- The diagnostic for a request that could not be carried out. That there is no canvas is a fault. -/
def explain (request : Request) : Failure → Except Fault ScriptError
  | .noCanvas => .error .noCanvas
  | .canvas cause => do return .outOfBounds cause request.source (← coordinates request)
  | .stream cause => return .stream cause

/-- Carries out a line. A line without a record is a fault, not a diagnostic. -/
def executeLine (s : Interpreter) (text : String) : Except Fault (Outcome ScriptError) := do
  let record ← readRecord text
  let s := { s with line := s.line + 1 }
  match ← ofRecord s.canvas.isSome ⟨s.name, s.line, text⟩ record with
  | .error e => return (.error e, s)
  | .ok request =>
    match ← dispatch s request.command with
    | (.ok (), s) => return (.ok (), s)
    | (.error failure, s) => return (.error (← explain request failure), s)

/-- Carries out lines up to the first failure. -/
def runDecoded (s : Interpreter) : List (Option String) → Except Fault (Outcome ScriptError)
  | [] => return (.ok (), s)
  | none :: _ => return (.error (.stream .invalidText), s)
  | some text :: rest => do
    match ← executeLine s text with
    | (.ok (), s) => runDecoded s rest
    | (.error e, s) => return (.error e, s)

/-- A failure is explained without a fault if it is not about the lack of a canvas, and if there are
coordinates where the canvas refused the command. -/
theorem explain_eq {request : Request} {failure : Failure} (hno : failure ≠ .noCanvas)
    (hcoordinates : ∀ cause, failure = .canvas cause →
      coordinates request = .ok request.coordinates) :
    explain request failure = .ok (Interpreter.explain request failure) := by
  cases failure with
  | noCanvas => exact absurd rfl hno
  | canvas cause =>
    rw [explain, hcoordinates cause rfl]
    rfl
  | stream cause => rfl

/-- A request that fails to be carried out had a canvas, and coordinates if the canvas refused it.
The first was checked when the request was made, and the second holds because commands without
coordinates are never refused. -/
theorem failure_of_request {s t : Interpreter} {text : String} {request : Request}
    {failure : Failure}
    (hrequest : Request.ofRecord s.canvas.isSome (s.source text) (Record.read? text) = .ok request)
    (hdispatch : s.advanced.dispatch request.command = (.error failure, t)) :
    failure ≠ .noCanvas ∧ ∀ cause, failure = .canvas cause →
      coordinates request = .ok request.coordinates ∧
        request.record.coordinates? request.command.verb = some request.coordinates := by
  obtain ⟨_, _, hunderstood⟩ := Request.exists_understood hrequest
  rcases Interpreter.failure_of_dispatch hdispatch with
    ⟨rfl, hnone, hcreate⟩ | ⟨cause, rfl, hclear, hprint⟩ | ⟨cause, rfl, -⟩
  · -- without a canvas no other verb than the one that creates it is let through
    have hnone : s.canvas = none := hnone
    rcases hunderstood.allowed with hsome | hverb
    · rw [hnone] at hsome
      cases hsome
    · exact absurd hverb hcreate
  · -- commands that the canvas refuses have sides or coordinates to point at
    refine ⟨by simp, ?_⟩
    intro _ _
    exact coordinates_of_ofRecord hrequest hclear hprint
  · exact ⟨by simp, fun _ h => by cases h⟩

/-- No line comes to a fault, in whichever state. With guards it does what it does without them. -/
theorem executeLine_eq (s : Interpreter) (text : String) :
    executeLine s text = .ok (s.executeLine text) := by
  have hread : Record.read? text = some (Record.ofTokens Number.clamp (Token.ofLine text)) :=
    Record.readWith?_eq Number.clamp text
  -- what may fail is known from the checks that made the request
  have hfailure := @failure_of_request s
  rw [executeLine, readRecord_eq, ok_bind]
  simp only [ofRecord_eq, ok_bind, Interpreter.executeLine, Interpreter.executeRecord, ← hread]
  cases hrequest : Request.ofRecord s.canvas.isSome ⟨s.name, s.line + 1, text⟩
    (Record.read? text) with
  | error e => rfl
  | ok request =>
    obtain ⟨_, _, hunderstood⟩ := Request.exists_understood hrequest
    show (dispatch s.advanced request.command >>= _) = _
    rw [dispatch_eq (s := s.advanced) hunderstood.allowed, ok_bind]
    show _ = Except.ok (match s.advanced.dispatch request.command with
      | (.ok (), t) => _
      | (.error failure, t) => _)
    cases hdispatch : s.advanced.dispatch request.command with
    | mk result t =>
      cases result with
      | ok => rfl
      | error failure =>
        obtain ⟨hno, hcoordinates⟩ := hfailure hrequest hdispatch
        simp only [explain_eq hno fun cause h => (hcoordinates cause h).1]
        rfl

/-- No run comes to a fault. Induction on the lines, for every state to start from. -/
theorem runDecoded_eq (s : Interpreter) (lines : List (Option String)) :
    runDecoded s lines = .ok (s.runDecoded lines) := by
  induction lines generalizing s with
  | nil => rfl
  | cons line rest ih =>
    cases line with
    | none => rfl
    | some text =>
      rw [runDecoded, executeLine_eq, ok_bind, Interpreter.runDecoded]
      show _ = Except.ok (match s.executeLine text with
        | (.ok (), t) => t.runDecoded rest
        | (.error e, t) => (.error e, t))
      rcases s.executeLine text with ⟨e | _, t⟩
      · rfl
      · exact ih t

end Guarded

namespace Interpreter

/-- No script brings an interpreter to a fault or to a branch that is there for completeness only.
With all guards a line does what it does without them, and so do any number of lines. In particular
every line has a record; a request that fails to be carried out had a canvas, and coordinates if the
canvas refused it; and however far a flood has come, only points of the canvas wait, each stored at
a place that there is. -/
theorem executeLine_guarded (s : Interpreter) (text : String) :
    Guarded.executeLine s text = .ok (s.executeLine text) ∧
    (∀ lines, Guarded.runDecoded s lines = .ok (s.runDecoded lines)) ∧
    (∃ record, Record.read? text = some record) ∧
    (∀ request,
      Request.ofRecord s.canvas.isSome (s.source text) (Record.read? text) = .ok request →
      ∀ failure t, s.advanced.dispatch request.command = (.error failure, t) →
        failure ≠ .noCanvas ∧ ∀ cause, failure = .canvas cause →
          request.record.coordinates? request.command.verb = some request.coordinates) ∧
    ∀ (c : Canvas) (seed : Point) (target k : Char) (f : Flood),
      Relation.ReflTransGen (fun f g : Flood => f.step = some g) (Flood.start c seed target k) f →
      ∀ p ∈ f.queue.toList, p ∈ c.dimensions ∧ c.dimensions.index p < c.pixels.size := by
  refine ⟨Guarded.executeLine_eq s text, Guarded.runDecoded_eq s,
    ⟨_, Record.readWith?_eq Number.clamp text⟩, ?_, ?_⟩
  · intro request hrequest failure t hdispatch
    obtain ⟨hno, hcoordinates⟩ := Guarded.failure_of_request hrequest hdispatch
    exact ⟨hno, fun cause h => (hcoordinates cause h).2⟩
  · intro c seed target k f hsteps p hp
    obtain ⟨honCanvas, hdims⟩ := Flood.onCanvas_of_steps hsteps
    have hmem : p ∈ c.dimensions := hdims ▸ honCanvas.waiting p hp
    exact ⟨hmem, Canvas.index_lt_size hmem⟩

end Interpreter

end PixelScript
