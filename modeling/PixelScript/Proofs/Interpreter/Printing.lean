import PixelScript.Proofs.Canvas.Rows
import PixelScript.Proofs.Interpreter.Failure
import PixelScript.Proofs.Interpreter.Reachable

/-!
# What lines print

Only a line that prints writes to the sink (`Interpreter.sink_executeLine`), and a sink without a
limit takes the whole rendering. A canvas that lines have left shows no line feed, so its printed form
can be cut into its rows again and no other such canvas is printed alike
(`Interpreter.text_determines_canvas`).
-/

namespace PixelScript

open Script

namespace Interpreter

/-! ## One line

Only the two ways to end that belong to a print touch the sink, so a line is seen to leave it alone
or to write one canvas to it. -/

/-- A line leaves the sink as it was, unless it prints. Then the sink is what rendering the canvas
makes of it. -/
theorem sink_executeLine (s : Interpreter) (text : String) :
    (s.executeLine text).2.sink = s.sink ∨
      ∃ c, s.canvas = some c ∧ (s.executeLine text).2.sink = (c.render s.options s.sink).2 := by
  have hexecutes := s.executes_executeLine text
  generalize s.executeLine text = outcome at hexecutes ⊢
  cases hexecutes with
  | printed hcanvas | notPrinted hcanvas => exact .inr ⟨_, hcanvas, rfl⟩
  | _ => exact .inl rfl

/-- What no line changes: how canvases are printed, the name of the script, and what the sink is
capable of. -/
structure SameSettings (s t : Interpreter) : Prop where
  options : s.options = t.options
  name : s.name = t.name
  limit : s.sink.limit = t.sink.limit
  flushFails : s.sink.flushFails = t.sink.flushFails

/-- No line changes the settings. A line that prints changes the sink, but not what the sink is
capable of. -/
theorem sameSettings_executeLine (s : Interpreter) (text : String) :
    SameSettings (s.executeLine text).2 s := by
  have hkept :
      (s.executeLine text).2.options = s.options ∧ (s.executeLine text).2.name = s.name := by
    have hexecutes := s.executes_executeLine text
    generalize s.executeLine text = outcome at hexecutes ⊢
    cases hexecutes <;> exact ⟨rfl, rfl⟩
  -- a print changes what the sink holds, but not what it is
  rcases s.sink_executeLine text with hsame | ⟨c, -, hprinted⟩
  · exact ⟨hkept.1, hkept.2, by rw [hsame], by rw [hsame]⟩
  · obtain ⟨_, _, -, -, hlimit, hflush⟩ := s.sink.emit_gains (c.rendering s.options).toUTF8
    exact ⟨hkept.1, hkept.2, by rw [hprinted]; exact hlimit, by rw [hprinted]; exact hflush⟩

/-- The line that consists of the letter of the verb prints the canvas: the canvas is rendered once,
the line fails if the sink does, and it is counted. -/
theorem executeLine_print {s : Interpreter} {c : Canvas} (hc : s.canvas = some c) {text : String}
    (hwords : words text = [['S']]) :
    s.executeLine text =
      ((c.render s.options s.sink).1.mapError ScriptError.stream,
        { s.advanced with sink := (c.render s.options s.sink).2 }) := by
  have hspelled : Command.print.SpelledBy (words text) := Command.spelledBy_print_iff.2 hwords
  obtain ⟨request, -, hline⟩ := executeLine_of_spelledBy hspelled (.inl (by rw [hc]; rfl))
  have hdispatch : s.advanced.dispatch .print =
      ((c.render s.options s.sink).1.mapError Failure.stream,
        { s.advanced with sink := (c.render s.options s.sink).2 }) :=
    dispatch_print hc
  rw [hline, hdispatch]
  cases (c.render s.options s.sink).1 <;> rfl

/-! ## Any number of lines

These are the same facts for states that are reached by lines. Settings and the lack of line feeds
are invariants, so that the next line can be taken to start under the settings of the first one. -/

theorem sameSettings_after (s : Interpreter) (lines : List String) :
    SameSettings (s.after lines) s := by
  refine after_invariant (P := fun t => SameSettings t s) ?_ ⟨rfl, rfl, rfl, rfl⟩ lines
  intro t text h
  have hline := t.sameSettings_executeLine text
  exact ⟨hline.options.trans h.options, hline.name.trans h.name, hline.limit.trans h.limit,
    hline.flushFails.trans h.flushFails⟩

/-- No line paints a line feed. A pixel comes from a word of a line, and words have no blanks in
them. -/
theorem lineFeed_not_mem_pixels {s : Interpreter} (hs : s.canvas = none) {lines : List String}
    {c : Canvas} (hc : (s.after lines).canvas = some c) : '\n' ∉ c.pixels := by
  intro hmem
  -- a line feed is a blank, and canvases show none
  have hsolid := (canvas_after hs lines hc).2
  have hblank : Text.isBlank '\n' = false := hsolid '\n' hmem
  exact absurd hblank (by decide)

/-- The printed form of a canvas that lines have left tells its size and every pixel. Cut at the
line feeds it gives the rows, and a line that prints writes just this text, so two canvases with the
same text are the same, whichever lines have left them. -/
theorem text_determines_canvas (sink : Sink) (options : Options) (name : String)
    (lines : List String) {c : Canvas}
    (hc : (({ sink := sink, options := options, name := name } : Interpreter).after lines).canvas =
      some c) :
    let s := ({ sink := sink, options := options, name := name } : Interpreter).after lines
    let pieces := c.text.toList.splitOn '\n'
    pieces.length = c.dimensions.height ∧
      (∀ piece ∈ pieces, piece.length = c.dimensions.width) ∧
      (∀ p ∈ c.dimensions, ∃ k, c.get p = .ok k ∧
        (pieces[p.row - 1]?.bind fun piece => piece[p.col - 1]?) = some k) ∧
      (sink.limit = none → ∀ text, words text = [['S']] →
        (s.executeLine text).2.sink.written =
          s.sink.written ++ (c.text ++ if options.trailingNewline then "\n" else "").toUTF8) ∧
      ∀ (sink' : Sink) (options' : Options) (name' : String) (lines' : List String) (c' : Canvas),
        (({ sink := sink', options := options', name := name' } : Interpreter).after lines').canvas =
            some c' →
          c'.text = c.text → c'.dimensions = c.dimensions ∧ c'.pixels = c.pixels := by
  intro s pieces
  have hfeed : '\n' ∉ c.pixels := lineFeed_not_mem_pixels rfl hc
  have hpieces : pieces = c.rows := Canvas.splitOn_text hfeed
  refine ⟨?_, ?_, ?_, ?_, ?_⟩
  · rw [hpieces, Canvas.length_rows]
  · intro piece hpiece
    exact Canvas.length_of_mem_rows (hpieces ▸ hpiece)
  · intro p hp
    obtain ⟨k, hk⟩ := Option.ne_none_iff_exists'.1 fun h => Canvas.get?_eq_none_iff.1 h hp
    refine ⟨k, by rw [Canvas.get, hk], ?_⟩
    rw [hpieces, Canvas.getElem?_rows_bind hp, hk]
  · -- the settings are those of the start, so the sink still takes everything
    intro hsink text hwords
    have hsettings : SameSettings s { sink := sink, options := options, name := name } :=
      sameSettings_after _ lines
    have hunlimited : s.sink.limit = none := hsettings.limit.trans hsink
    have hoptions : s.options = options := hsettings.options
    rw [executeLine_print hc hwords, Canvas.render, Sink.emit_of_limit_eq_none hunlimited, hoptions]
    show s.sink.written ++ (c.rendering options).toUTF8 = _
    rw [Canvas.rendering]
    cases options.trailingNewline <;> simp
  · -- the text can be cut into its rows on either side
    intro sink' options' name' lines' c' hc' htext
    have hfeed' : '\n' ∉ c'.pixels := lineFeed_not_mem_pixels rfl hc'
    rw [Canvas.eq_of_text_eq hfeed' hfeed htext]
    exact ⟨rfl, rfl⟩

/-- Two scripts that paint the same two pixels, one of them of two bytes, in different ways. -/
theorem text_determines_canvas_of_two_bytes :
    ∃ c c' : Canvas,
      (({} : Interpreter).after ["I 2 1", "L 1 1 é"]).canvas = some c ∧
      (({} : Interpreter).after ["L 1 1 X", "I 2 1", "V 1 1 1 é"]).canvas = some c' ∧
      c.text = "éO" ∧ (c.text.toList.splitOn '\n').length = c.dimensions.height ∧
      ((({} : Interpreter).after ["I 2 1", "L 1 1 é"]).executeLine " S").2.sink.written =
        "éO".toUTF8 ∧
      c'.dimensions = c.dimensions ∧ c'.pixels = c.pixels := by
  have hfirst : (({} : Interpreter).after ["I 2 1", "L 1 1 é"]).canvas.map Canvas.text =
      some "éO" := by decide +kernel
  have hsecond :
      (({} : Interpreter).after ["L 1 1 X", "I 2 1", "V 1 1 1 é"]).canvas.map Canvas.text =
        some "éO" := by decide +kernel
  have hwords : words " S" = [['S']] := by decide +kernel
  obtain ⟨c, hc, htext⟩ := Option.map_eq_some_iff.1 hfirst
  obtain ⟨c', hc', htext'⟩ := Option.map_eq_some_iff.1 hsecond
  obtain ⟨hheight, -, -, hprinted, hsame⟩ :=
    text_determines_canvas {} {} "<input>" ["I 2 1", "L 1 1 é"] hc
  obtain ⟨hdimensions, hpixels⟩ := hsame {} {} "<input>" _ c' hc' (htext'.trans htext.symm)
  refine ⟨c, c', hc, hc', htext, hheight, ?_, hdimensions, hpixels⟩
  rw [hprinted rfl " S" hwords, htext]
  decide +kernel

end Interpreter

end PixelScript
