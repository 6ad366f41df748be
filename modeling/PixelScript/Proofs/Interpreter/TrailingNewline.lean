import PixelScript.Proofs.Host
import PixelScript.Proofs.Interpreter.Redirection

/-!
# The line feed after a print

What is printed over a sink that takes everything are the canvases that stand when lines print with
success (`Interpreter.printed`), one after the other, each in its printed form
(`Interpreter.written_after`). Whether a line feed follows each of them is the only thing that the
option decides: results, diagnostics and canvases are the same with and without it
(`Interpreter.trailing_newline_run`).
-/

namespace PixelScript

open Script

namespace Interpreter

/-! ## One line

What one line adds to the output is a list of at most one canvas. Keeping the canvas rather than its
text separates what is printed from how the option has it written. -/

/-- The canvas that a line prints with success, if it does. A line that `Prints` always has a canvas,
since without one the print is refused (`prints_iff`). So there is one canvas for every such line and
none for any other, and `toList` never leaves a successful print out (`printedBy_of_prints`). -/
def printedBy (s : Interpreter) (text : String) : List Canvas :=
  if s.Prints text then s.canvas.toList else []

/-- A line that prints with success prints exactly one canvas, the one that stands. -/
theorem printedBy_of_prints {s : Interpreter} {text : String} (h : s.Prints text) :
    ∃ c, s.canvas = some c ∧ s.printedBy text = [c] := by
  obtain ⟨c, hshown, -⟩ := prints_iff.1 h
  rw [shown?, Option.ite_none_right_eq_some] at hshown
  refine ⟨c, hshown.2, ?_⟩
  rw [printedBy, if_pos h, hshown.2]
  rfl

/-- Over a sink that takes everything no print fails, so the canvas that a line is to print is also the
one that it prints with success. -/
theorem printedBy_eq {s : Interpreter} (h : s.sink.HoldsText) (text : String) :
    s.printedBy text = (s.shown? text).toList := by
  cases hshown : s.shown? text with
  | none => exact if_neg (not_prints_of_shown?_eq_none hshown)
  | some c =>
    have hprints : s.Prints text := prints_iff.2 ⟨c, hshown, (h.emit _).1⟩
    obtain ⟨c', hcanvas, hprinted⟩ := printedBy_of_prints hprints
    rw [shown?, Option.ite_none_right_eq_some, hcanvas, Option.some.injEq] at hshown
    rw [hprinted, hshown.2]
    rfl

/-- What a line adds to the output is the printed form of the canvas that it prints, or nothing. The
option is read only for that form. -/
theorem written_executeLine {s : Interpreter} (h : s.sink.HoldsText) (text : String) :
    (s.executeLine text).2.sink.written =
      s.sink.written ++ (String.join ((s.printedBy text).map (·.rendering s.options))).toUTF8 := by
  rw [printedBy_eq h]
  cases hshown : s.shown? text with
  | none =>
    rw [sink_of_shown?_eq_none hshown]
    -- nothing is printed, and the join of no texts is empty
    exact ByteArray.append_empty.symm
  | some c =>
    rw [executeLine_of_shown? hshown, sink_printingTo, Canvas.render,
      Sink.emit_of_limit_eq_none h.limit]
    simp [String.join]

/-- Over such sinks a line comes to the same result wherever and however it prints: a line that does
not print never sees the sink, and one that does succeeds on both. -/
theorem Redirects.result_eq {s t : Interpreter} (h : Redirects s t) (hs : s.sink.HoldsText)
    (ht : t.sink.HoldsText) (text : String) : (t.executeLine text).1 = (s.executeLine text).1 := by
  cases hshown : s.shown? text with
  | none => exact (h.executeLine_of_shown?_eq_none hshown).1
  | some c =>
    rw [executeLine_of_shown? hshown, executeLine_of_shown? ((h.shown?_eq text).trans hshown),
      Canvas.render, Canvas.render, (hs.emit _).1, (ht.emit _).1]

/-! ## Any number of lines

The runs of single lines are put together here. The induction is on the lines, over interpreters
that the lines before have left, so every statement is made for any state and not for a fresh one.
-/

/-- The canvases that lines print with success, in the order in which they are printed. Lines that
fail are passed over, as by a caller that goes on after an error. -/
def printed (s : Interpreter) : List String → List Canvas
  | [] => []
  | line :: rest => s.printedBy line ++ (s.executeLine line).2.printed rest

/-- The output after any lines is what was there before, followed by the printed forms of the
canvases that they print. This is the only place where the option comes in. -/
theorem written_after {s : Interpreter} (h : s.sink.HoldsText) (lines : List String) :
    (s.after lines).sink.written =
      s.sink.written ++ (String.join ((s.printed lines).map (·.rendering s.options))).toUTF8 := by
  induction lines generalizing s with
  | nil => exact ByteArray.append_empty.symm
  | cons line rest ih =>
    have hoptions : (s.executeLine line).2.options = s.options :=
      (s.sameSettings_executeLine line).options
    have hline : (s.executeLine line).2.sink.HoldsText := holdsText_after h [line]
    have hrest := ih hline
    rw [hoptions, written_executeLine h, ByteArray.append_assoc] at hrest
    rw [printed, List.map_append, String.join_append, String.toUTF8, String.toByteArray_append]
    exact hrest

/-- Interpreters that print elsewhere stay so, and print the same canvases. Both are needed at once,
because what the later lines print depends on the states that the first line leaves. -/
theorem Redirects.after {s t : Interpreter} (h : Redirects s t) (hs : s.sink.HoldsText)
    (ht : t.sink.HoldsText) (lines : List String) :
    Redirects (s.after lines) (t.after lines) ∧ t.printed lines = s.printed lines := by
  induction lines generalizing s t with
  | nil => exact ⟨h, rfl⟩
  | cons line rest ih =>
    obtain ⟨hafter, hprinted⟩ := ih (h.executeLine line) (holdsText_after hs [line])
      (holdsText_after ht [line])
    refine ⟨hafter, ?_⟩
    rw [printed, printed, hprinted, printedBy_eq hs, printedBy_eq ht, h.shown?_eq]

/-- A run that stops at the first failure stops at the same line with the same diagnostic, wherever
and however it prints. -/
theorem Redirects.run_result {s t : Interpreter} (h : Redirects s t) (hs : s.sink.HoldsText)
    (ht : t.sink.HoldsText) (lines : List String) : (t.run lines).1 = (s.run lines).1 := by
  induction lines generalizing s t with
  | nil => rfl
  | cons line rest ih =>
    have hresult := h.result_eq hs ht line
    cases hline : (s.executeLine line).1 with
    | ok =>
      rw [run_cons_of_ok (Prod.ext hline rfl), run_cons_of_ok (Prod.ext (hresult.trans hline) rfl)]
      exact ih (h.executeLine line) (holdsText_after hs [line]) (holdsText_after ht [line])
    | error e =>
      rw [run_cons_of_error (Prod.ext hline rfl),
        run_cons_of_error (Prod.ext (hresult.trans hline) rfl)]

/-! ## Whole scripts

A whole script is run over an empty sink that takes everything, and what has arrived there is read
back as a text. Both runs of the theorem below are of this kind. -/

/-- A script that succeeds is given back as the canvases that it prints, one printed form after the
other. Nothing of what arrived at the sink is lost in reading it back as a text. -/
theorem execute_eq (options : Options) (source : String) :
    let s : Interpreter := { options := options }
    let output := String.join ((s.printed (Text.lines source)).map (·.rendering options))
    Host.execute options source = (s.run (Text.lines source)).1.map (fun _ => output) ∧
      ((s.run (Text.lines source)).1 = .ok () →
        (s.run (Text.lines source)).2.sink.written = output.toUTF8) := by
  intro s output
  have hwritten := written_after (s := s) Sink.holdsText_empty (Text.lines source)
  have hempty : s.sink.written = ByteArray.empty := rfl
  rw [hempty, ByteArray.empty_append] at hwritten
  rcases s.run_cases (Text.lines source) with ⟨-, hrun⟩ | ⟨before, line, later, e, -, -, -, hrun⟩
  · -- the run succeeds, and what it has written is read back
    rw [hrun]
    refine ⟨?_, fun _ => hwritten⟩
    have hexecute : Host.execute options source =
        .ok (Text.Utf8.decodeLossy (s.after (Text.lines source)).sink.written) := by
      rw [Host.execute, hrun]
    rw [hexecute, hwritten, Text.Utf8.decodeLossy_toUTF8]
    rfl
  · -- the run fails, so its output is given to nobody
    rw [Host.execute, hrun]
    refine ⟨rfl, ?_⟩
    intro hok
    cases hok

/-- With and without a line feed after every print, the lines come to the same results on the same
canvases. What is printed are the canvases that stand when lines print with success, one text for
each such line (`printedBy_of_prints`), followed by a line feed or not, and a script that succeeds
is given back as just that. -/
theorem trailing_newline_run (name : String) (lines : List String) (line source : String) :
    let fresh (trailing : Bool) (name : String) : Interpreter :=
      { options := { trailingNewline := trailing }, name := name }
    let plain := (fresh false name).after lines
    let ended := (fresh true name).after lines
    let texts := ((fresh false name).printed lines).map Canvas.text
    let script (trailing : Bool) := (fresh trailing "<input>").run (Text.lines source)
    let shown := ((fresh false "<input>").printed (Text.lines source)).map Canvas.text
    (ended.executeLine line).1 = (plain.executeLine line).1 ∧
      ended.canvas = plain.canvas ∧
      plain.sink.written = (String.join texts).toUTF8 ∧
      ended.sink.written = (String.join (texts.map (· ++ "\n"))).toUTF8 ∧
      ((∃ e, Host.execute { trailingNewline := false } source = .error e ∧
          Host.execute { trailingNewline := true } source = .error e) ∨
        ∃ output output', Host.execute { trailingNewline := false } source = .ok output ∧
          Host.execute { trailingNewline := true } source = .ok output' ∧
          output = String.join shown ∧ output' = String.join (shown.map (· ++ "\n")) ∧
          (script false).2.sink.written = output.toUTF8 ∧
          (script true).2.sink.written = output'.toUTF8) := by
  intro fresh plain ended texts script shown
  -- the printed form with a line feed is the text and a line feed, whatever the canvas
  have hended (canvases : List Canvas) :
      canvases.map (·.rendering { trailingNewline := true }) =
        (canvases.map Canvas.text).map (· ++ "\n") := by
    rw [List.map_map]
    rfl
  have hempty : ({} : Sink).HoldsText := Sink.holdsText_empty
  have hredirects (name : String) : Redirects (fresh false name) (fresh true name) := rfl
  obtain ⟨hafter, hprinted⟩ := (hredirects name).after hempty hempty lines
  refine ⟨?_, hafter.canvas_eq, ?_, ?_, ?_⟩
  · exact hafter.result_eq (holdsText_after hempty lines) (holdsText_after hempty lines) line
  · have hwritten := written_after (s := fresh false name) hempty lines
    exact hwritten.trans ByteArray.empty_append
  · have hwritten := written_after (s := fresh true name) hempty lines
    -- the canvases are those of the other run, so both outputs are about the same texts
    rw [hprinted] at hwritten
    rw [← hended]
    exact hwritten.trans ByteArray.empty_append
  · have hresult : (script true).1 = (script false).1 :=
      (hredirects "<input>").run_result hempty hempty (Text.lines source)
    have hsame := ((hredirects "<input>").after hempty hempty (Text.lines source)).2
    obtain ⟨hexecute, hbytes⟩ := execute_eq { trailingNewline := false } source
    obtain ⟨hexecute', hbytes'⟩ := execute_eq { trailingNewline := true } source
    have hplain : Host.execute { trailingNewline := false } source =
        (script false).1.map fun _ => String.join shown := hexecute
    have hfed : Host.execute { trailingNewline := true } source =
        (script false).1.map fun _ => String.join (shown.map (· ++ "\n")) := by
      rw [← hresult, ← hended, ← hsame]
      exact hexecute'
    rw [hplain, hfed]
    cases hrun : (script false).1 with
    | error e => exact .inl ⟨e, rfl, rfl⟩
    | ok =>
      refine .inr ⟨_, _, rfl, rfl, rfl, rfl, hbytes hrun, ?_⟩
      rw [← hended, ← hsame]
      exact hbytes' (hresult.trans hrun)

end Interpreter

end PixelScript
