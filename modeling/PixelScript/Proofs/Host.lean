import PixelScript.Host
import PixelScript.Proofs.Interpreter.Naming
import PixelScript.Proofs.Interpreter.Parts
import PixelScript.Proofs.Interpreter.Printing

/-!
# Hosts agree

A text, its bytes and a file that holds them are the same script. The text is cut into lines before
it is encoded and the bytes after that, which makes no difference (`Interpreter.runBytes_toUTF8`). A
sink that takes everything never holds anything but a text (`Sink.HoldsText`), so giving back what was
printed as a text loses nothing. The file is run under a name of its own, which only diagnostics
repeat (`Host.runFile_of_text`).
-/

namespace PixelScript

open Script

/-! ## Sinks that hold a text

The output is handed over as a text, but a sink holds bytes. Over a sink that takes everything they
are always those of a text, as whole texts are written and nothing is cut off. -/

/-- A sink that takes whatever is written to it, and has been given texts only. -/
structure Sink.HoldsText (s : Sink) : Prop where
  limit : s.limit = none
  flushFails : s.flushFails = false
  text : ∃ text : String, s.written = text.toUTF8

theorem Sink.holdsText_empty : ({} : Sink).HoldsText := ⟨rfl, rfl, "", rfl⟩

/-- A text that is written arrives, and the sink holds a text again: the former one with the new one
behind it. -/
theorem Sink.HoldsText.emit {s : Sink} (h : s.HoldsText) (text : String) :
    (s.emit text.toUTF8).1 = .ok () ∧ (s.emit text.toUTF8).2.HoldsText := by
  obtain ⟨before, hbefore⟩ := h.text
  -- encodings can be put one behind the other
  have hwritten : s.written ++ text.toUTF8 = (before ++ text).toUTF8 := by
    rw [hbefore]
    exact String.toByteArray_append.symm
  rw [Sink.emit_of_limit_eq_none h.limit]
  refine ⟨?_, h.limit, h.flushFails, before ++ text, hwritten⟩
  rw [h.flushFails]
  rfl

namespace Interpreter

/-- With such a sink a line fails only for what it says, and the diagnostic shows it. Only an error
of the sink is shown without a line. -/
theorem source?_of_executeLine_eq_error {s : Interpreter} (h : s.sink.HoldsText) {text : String}
    {e : ScriptError} (herror : (s.executeLine text).1 = .error e) :
    e.source? = some (s.source text) := by
  have hexecutes := s.executes_executeLine text
  generalize s.executeLine text = outcome at hexecutes herror
  cases hexecutes with
  | created | drawn | printed => cases herror
  | objected | notCreated | notDrawn =>
    cases herror
    rfl
  | @notPrinted c cause hcanvas hspelled hresult =>
    rw [Canvas.render, (h.emit _).1] at hresult
    cases hresult

/-- Whatever the lines are, the sink still holds a text. Each line leaves it alone or writes one
more. -/
theorem holdsText_after {s : Interpreter} (h : s.sink.HoldsText) (lines : List String) :
    (s.after lines).sink.HoldsText := by
  refine after_invariant (P := fun s => s.sink.HoldsText) ?_ h lines
  intro s text h
  -- a line writes nothing, or the printed form of a canvas
  rcases s.sink_executeLine text with hsame | ⟨c, -, hprinted⟩
  · rwa [hsame]
  · rw [hprinted]
    exact (h.emit _).2

/-! ## One script

A script is a text, or the bytes of one. Cut into lines before or after decoding, it is the same
lines. -/

/-- Running the bytes of a text is running its lines. Line feeds are single bytes that occur in no
other character, so both are cut at the same places. -/
theorem runBytes_toUTF8 (s : Interpreter) (source : String) :
    s.runBytes source.toUTF8 = s.run (Text.lines source) := by
  rw [runBytes, Text.byteLines_toUTF8, Text.Utf8.map_fromUTF8?_toUTF8, run]

end Interpreter

/-! ## The three hosts

One host gives the output back as a text, one writes it to a sink, and one reads a file first. What
they have in common is the run of the lines over a new interpreter, under one name or another. -/

namespace Host

open Interpreter

/-- A file that holds a text is run like the text, under its path as the name. -/
theorem runFile_of_text {files : String → Option ByteArray} {path source : String}
    (hfile : files path = some source.toUTF8) (options : Options) (sink : Sink) :
    let outcome := ({ sink := sink, options := options } : Interpreter).run (Text.lines source)
    runFile files options (some path) sink =
      (outcome.1.mapError (ScriptError.inScript path), outcome.2.sink) := by
  intro outcome
  let s : Interpreter := { sink := sink, options := options }
  let t : Interpreter := s.named path
  -- the file is the same run under another name
  have hnamed : t.runBytes source.toUTF8 =
      (outcome.1.mapError (ScriptError.inScript path), outcome.2.named path) := by
    rw [runBytes_toUTF8]
    exact s.run_named path (Text.lines source)
  have hrun : runFile files options (some path) sink =
      ((t.runBytes source.toUTF8).1, (t.runBytes source.toUTF8).2.sink) := by
    simp only [runFile, Option.bind_some, hfile]
    rfl
  rw [hrun, hnamed]
  rfl

/-- A text, its bytes and a file that holds them lead to the same output, or to failures that differ
in the name of the script alone. The output of a run that succeeds is a text, so it can be given
back without a loss. -/
theorem execute_agrees (files : String → Option ByteArray) (options : Options)
    (path source : String) (hfile : files path = some source.toUTF8) :
    let reader := ({ options := options } : Interpreter).runBytes source.toUTF8
    let file := runFile files options (some path) {}
    match execute options source with
    | .ok output =>
      reader.1 = .ok () ∧ reader.2.sink.written = output.toUTF8 ∧
        file.1 = .ok () ∧ file.2.written = output.toUTF8
    | .error e =>
      reader.1 = .error e ∧ file.2 = reader.2.sink ∧
        ∃ f line, file.1 = .error f ∧ f.SaysSame e ∧ e.source? = some line ∧ line.name = "<input>" ∧
          f.source? = some (line.inScript path) := by
  intro reader file
  let s : Interpreter := { options := options }
  have hreader : reader = s.run (Text.lines source) := s.runBytes_toUTF8 source
  have hfile : file = ((s.run (Text.lines source)).1.mapError (ScriptError.inScript path),
      (s.run (Text.lines source)).2.sink) := runFile_of_text hfile options {}
  rw [hreader, hfile]
  have hholds (lines : List String) : (s.after lines).sink.HoldsText :=
    holdsText_after Sink.holdsText_empty lines
  -- either all lines succeed and the output is given back, or the first that fails is quoted
  rcases s.run_cases (Text.lines source) with
    ⟨-, hrun⟩ | ⟨before, line, later, e, -, -, herror, hrun⟩
  · obtain ⟨output, houtput⟩ := (hholds (Text.lines source)).text
    have hexecute : execute options source = .ok output := by
      rw [execute, hrun]
      show Except.ok (Text.Utf8.decodeLossy (s.after (Text.lines source)).sink.written) = _
      rw [houtput, Text.Utf8.decodeLossy_toUTF8]
    rw [hexecute, hrun]
    exact ⟨rfl, houtput, rfl, houtput⟩
  · -- the run fails, and all three hosts report the same line
    have hexecute : execute options source = .error e := by rw [execute, hrun]
    have hsource : e.source? = some ((s.after before).source line) :=
      source?_of_executeLine_eq_error (hholds before) herror
    rw [hexecute, hrun]
    refine ⟨rfl, rfl, e.inScript path, (s.after before).source line, rfl, e.saysSame_inScript path,
      hsource, (s.sameSettings_after before).name, ?_⟩
    rw [ScriptError.source?_inScript, hsource, Option.map_some]

/-- A script that prints once, and one that fails in its last line, which is not ended. -/
theorem execute_agrees_on_files :
    let files (path : String) : Option ByteArray :=
      if path = "good" then some "I 2 1\r\nL 1 1 é\nS\n".toUTF8
      else if path = "bad" then some "I 2 1\r\nL 3 1 é\r".toUTF8
      else none
    (execute {} "I 2 1\r\nL 1 1 é\nS\n" = .ok "éO" ∧
      (({} : Interpreter).runBytes "I 2 1\r\nL 1 1 é\nS\n".toUTF8).2.sink.written = "éO".toUTF8 ∧
      (runFile files {} (some "good") {}).2.written = "éO".toUTF8) ∧
    ∃ e f, execute {} "I 2 1\r\nL 3 1 é\r" = .error e ∧
      (runFile files {} (some "bad") {}).1 = .error f ∧ f.SaysSame e ∧
      f.source? = some ⟨"bad", 2, "L 3 1 é\r"⟩ := by
  intro files
  refine ⟨?_, ?_⟩
  · have hagrees := execute_agrees files {} "good" "I 2 1\r\nL 1 1 é\nS\n" rfl
    have hexecute : execute {} "I 2 1\r\nL 1 1 é\nS\n" = .ok "éO" := by decide +kernel
    rw [hexecute] at hagrees
    obtain ⟨-, hreader, -, hfile⟩ := hagrees
    exact ⟨hexecute, hreader, hfile⟩
  · have hagrees := execute_agrees files {} "bad" "I 2 1\r\nL 3 1 é\r" rfl
    let e : ScriptError := .outOfBounds
      (.outOfBounds ⟨3, 1⟩ ⟨2, 1, by decide, by decide, by decide, by decide⟩)
      ⟨"<input>", 2, "L 3 1 é\r"⟩ ⟨2, 3⟩
    have hexecute : execute {} "I 2 1\r\nL 3 1 é\r" = .error e := by decide +kernel
    rw [hexecute] at hagrees
    obtain ⟨-, -, f, line, hfile, hsame, hline, -, hsource⟩ := hagrees
    refine ⟨e, f, hexecute, hfile, hsame, ?_⟩
    rw [hsource]
    cases hline
    rfl

end Host

end PixelScript
