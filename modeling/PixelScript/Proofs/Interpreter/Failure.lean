import PixelScript.Proofs.Interpreter.Line

/-!
# What a failing line leaves behind

A line that fails counts as carried out. Apart from that it changes nothing (`state_after_failure`),
with two exceptions: a segment keeps what it painted before it came to the edge, and a sink keeps what
was written to it before it failed.
-/

namespace PixelScript

open Script

/-! ## Sinks

A sink with a limit fails when it is full, after it has taken what there was room for. So does one
whose flush fails, after it has taken everything. -/

theorem Sink.room_le (s : Sink) (size : Nat) : s.room size ≤ size := by
  unfold room
  split
  · exact Nat.min_le_left _ _
  · exact Nat.le_refl _

/-- What arrives at a sink is the beginning of what was to be written, also if writing fails. What
the sink is capable of stays the same. -/
theorem Sink.emit_gains (s : Sink) (bytes : ByteArray) :
    ∃ gained rest, bytes = gained ++ rest ∧
      (s.emit bytes).2.written = s.written ++ gained ∧
      (s.emit bytes).2.limit = s.limit ∧ (s.emit bytes).2.flushFails = s.flushFails := by
  by_cases hroom : s.room bytes.size = bytes.size
  · -- everything arrives, and only the flush can fail
    have hwrite : s.write bytes = (.ok (), { s with written := s.written ++ bytes }) := by
      rw [write, if_pos hroom]
    refine ⟨bytes, ByteArray.empty, ByteArray.append_empty.symm, ?_⟩
    rw [emit, hwrite]
    exact ⟨rfl, rfl, rfl⟩
  · have hwrite : s.write bytes = (.error .writeZero,
        { s with written := s.written ++ bytes.extract 0 (s.room bytes.size) }) := by
      rw [write, if_neg hroom]
    -- what there is room for arrives, and the rest does not
    refine ⟨bytes.extract 0 (s.room bytes.size), bytes.extract (s.room bytes.size) bytes.size, ?_, ?_⟩
    · rw [← ByteArray.extract_eq_extract_append_extract _ (Nat.zero_le _) (s.room_le _),
        ByteArray.extract_zero_size]
    · rw [emit, hwrite]
      exact ⟨rfl, rfl, rfl⟩

/-! ## Segments

Segments are painted point by point, and those that come to the edge are refused there. What they
have painted by then stays, so all that can be said of both kinds is where a canvas may have
changed, and to what. -/

/-- The dimensions are the same, and whatever is shown differently is shown at one of the given
points, where it is `k` now. -/
def Canvas.PaintedOn (points : Point → Prop) (k : Char) (before after : Canvas) : Prop :=
  after.dimensions = before.dimensions ∧
    ∀ q, after.get? q ≠ before.get? q → points q ∧ after.get? q = some k

/-- A canvas that shows `k` at the points that were covered, and what it showed before anywhere
else, was painted on these points only. -/
theorem Canvas.paintedOn_of_get? {c c' : Canvas} {k : Char} {covered points : Point → Prop}
    [DecidablePred covered] (hdims : c'.dimensions = c.dimensions)
    (hget : ∀ q, c'.get? q = if covered q then some k else c.get? q)
    (hpoints : ∀ q, covered q → points q) : PaintedOn points k c c' := by
  refine ⟨hdims, ?_⟩
  intro q hchanged
  by_cases hcovered : covered q
  · exact ⟨hpoints q hcovered, by rw [hget, if_pos hcovered]⟩
  · rw [hget, if_neg hcovered] at hchanged
    exact absurd rfl hchanged

/-- A column is painted between its ends at most, however far it comes. -/
theorem Canvas.paintedOn_drawVertical (c : Canvas) (col a b : Nat) (k : Char) :
    PaintedOn (fun q => q.col = col ∧ min a b ≤ q.row ∧ q.row ≤ max a b) k c
      (c.drawVertical col a b k).2 := by
  apply paintedOn_of_get? (dimensions_drawVertical c col a b k) (get?_drawVertical c col a b k)
  rintro q ⟨-, hcol, hlow, hhigh⟩
  exact ⟨hcol, hlow, by omega⟩

theorem Canvas.paintedOn_drawHorizontal (c : Canvas) (a b row : Nat) (k : Char) :
    PaintedOn (fun q => q.row = row ∧ min a b ≤ q.col ∧ q.col ≤ max a b) k c
      (c.drawHorizontal a b row k).2 := by
  apply paintedOn_of_get? (dimensions_drawHorizontal c a b row k) (get?_drawHorizontal c a b row k)
  rintro q ⟨-, hrow, hlow, hhigh⟩
  exact ⟨hrow, hlow, by omega⟩

/-- A pixel that is refused, or a flood with a seed that is refused, does not touch the canvas. -/
theorem Canvas.draw_of_error {c : Canvas} {command : Command} {cause : CanvasError}
    (hverb : command.verb = .paint ∨ command.verb = .fill)
    (h : (c.draw command).1 = .error cause) : (c.draw command).2 = c := by
  cases command with
  | paint p k =>
    by_cases hp : p ∈ c.dimensions
    · rw [draw, paint_of_mem hp] at h
      cases h
    · rw [draw, paint_of_not_mem hp]
  | fill seed k =>
    by_cases hseed : seed ∈ c.dimensions
    · obtain ⟨c', hdraw, -⟩ := draw_fill_of_mem hseed k
      rw [hdraw] at h
      cases h
    · rw [draw_fill_of_not_mem hseed]
  | _ => rcases hverb with hverb | hverb <;> cases hverb

/-! ## Lines

A line fails for what it says, for what the canvas says to its command, or for what the sink says.
The three kinds of errors leave different things behind, and the error itself tells which kind it
is. -/

namespace Interpreter

/-- What the canvas may come to when it refuses a command. Segments may have been painted in part,
the other commands change nothing, and those that are never refused are ruled out. -/
def RefusalLeaves (command : Command) (before after : Option Canvas) : Prop :=
  match command with
  | .create .. | .paint .. | .fill .. => after = before
  | .vertical col a b k =>
    ∃ c c', before = some c ∧ after = some c' ∧
      Canvas.PaintedOn (fun q => q.col = col ∧ min a b ≤ q.row ∧ q.row ≤ max a b) k c c'
  | .horizontal a b row k =>
    ∃ c c', before = some c ∧ after = some c' ∧
      Canvas.PaintedOn (fun q => q.row = row ∧ min a b ≤ q.col ∧ q.col ≤ max a b) k c c'
  | .clear | .print => False

/-- A command that draws and is refused leaves the canvas as it was, or a part of a segment. -/
theorem refusalLeaves_draw {c : Canvas} {command : Command} {cause : CanvasError}
    (hdraws : command.Draws) (h : (c.draw command).1 = .error cause) :
    RefusalLeaves command (some c) (some (c.draw command).2) := by
  cases command with
  | create width height => exact absurd rfl hdraws.1
  | print => exact absurd rfl hdraws.2
  | clear => cases h
  | paint p k => exact congrArg some (Canvas.draw_of_error (.inl rfl) h)
  | fill seed k => exact congrArg some (Canvas.draw_of_error (.inr rfl) h)
  | vertical col a b k => exact ⟨c, _, rfl, rfl, c.paintedOn_drawVertical col a b k⟩
  | horizontal a b row k => exact ⟨c, _, rfl, rfl, c.paintedOn_drawHorizontal a b row k⟩

/-- The state after a line that fails, for every kind of failure. The line is counted, and a line
that was never dispatched leaves all else as it was. A refusal leaves what was printed before and at
most a part of a segment. A print that fails leaves the canvas, and the beginning of its text at the
sink. -/
theorem state_after_failure {s t : Interpreter} {text : String} {e : ScriptError}
    (h : s.executeLine text = (.error e, t)) :
    t.line = s.line + 1 ∧ t.options = s.options ∧ t.name = s.name ∧
      match e with
      | .invalid .. => t.canvas = s.canvas ∧ t.sink = s.sink
      | .outOfBounds .. =>
        t.sink = s.sink ∧
          ∃ command, command.SpelledBy (words text) ∧ RefusalLeaves command s.canvas t.canvas
      | .stream .. =>
        words text = [['S']] ∧ t.canvas = s.canvas ∧
          ∃ c gained rest, s.canvas = some c ∧
            (c.rendering s.options).toUTF8 = gained ++ rest ∧
            t.sink.written = s.sink.written ++ gained ∧
            t.sink.limit = s.sink.limit ∧ t.sink.flushFails = s.sink.flushFails := by
  have hexecutes := s.executes_executeLine text
  rw [h] at hexecutes
  -- the ways in which a line succeeds are ruled out by its result
  cases hexecutes with
  | objected hobjection => exact ⟨rfl, rfl, rfl, rfl, rfl⟩
  | notCreated hspelled hrefusal => exact ⟨rfl, rfl, rfl, rfl, _, hspelled, rfl⟩
  | notDrawn hcanvas hdraws hspelled hresult =>
    refine ⟨rfl, rfl, rfl, rfl, _, hspelled, ?_⟩
    rw [hcanvas]
    exact refusalLeaves_draw hdraws hresult
  | @notPrinted c cause hcanvas hspelled hresult =>
    have hwords : words text = [['S']] := Command.spelledBy_print_iff.1 hspelled
    obtain ⟨gained, rest, hbytes, hwritten, hlimit, hflush⟩ :=
      s.sink.emit_gains (c.rendering s.options).toUTF8
    exact ⟨rfl, rfl, rfl, hwords, rfl, c, gained, rest, hcanvas, hbytes, hwritten, hlimit, hflush⟩

/-- A segment that comes to the edge of a canvas after two points. -/
theorem state_after_failure_segment :
    let d : Dimensions := ⟨3, 3, by decide, by decide, by decide, by decide⟩
    let s : Interpreter := { canvas := some (Canvas.blank d) }
    let command : Command := .vertical 2 2 5 'c'
    ∃ span t,
      s.executeLine command.line =
        (.error (.outOfBounds (.outOfBounds ⟨2, 4⟩ d) (s.source command.line) span), t) ∧
      t.line = 1 ∧ t.sink = s.sink ∧
      ∃ command', command'.SpelledBy (words command.line) ∧
        RefusalLeaves command' s.canvas t.canvas := by
  intro d s command
  have hspelled : command.SpelledBy (words command.line) := Command.spelledBy_line (by decide)
  obtain ⟨request, hsource, hline⟩ := executeLine_of_spelledBy (s := s) hspelled (.inl rfl)
  have hdispatch : s.advanced.dispatch command =
      s.advanced.keep ((Canvas.blank d).draw command) :=
    dispatch_of_draws rfl ⟨by decide, by decide⟩
  have hdraw : (Canvas.blank d).draw command =
      (.error (.outOfBounds ⟨2, 4⟩ d), ((Canvas.blank d).draw command).2) := rfl
  rw [hdispatch, hdraw] at hline
  simp only [keep, explain, hsource] at hline
  obtain ⟨hcount, -, -, hsink, hleaves⟩ := state_after_failure hline
  exact ⟨_, _, hline, hcount, hsink, hleaves⟩

end Interpreter

end PixelScript
