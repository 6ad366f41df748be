import PixelScript.Proofs.Interpreter.Reachable

/-!
# Clearing

Painting the canvas over and creating one of the same sides are done in different ways, but nothing
that a script does can tell them apart (`Interpreter.clear_eq_create`). Neither leaves a trace of what
the canvas showed before.
-/

namespace PixelScript

open Script

/-! ## The two lines

Neither line depends on what the canvas shows. One of them is always the same and the other one
quotes the sides of the canvas, which are read back as they are. -/

theorem Script.Command.line_clear : Command.clear.line = "C" := by decide +kernel

/-- The line that creates a canvas has its sides in decimals, with one blank before each of them. -/
theorem Script.Command.line_create (width height : Nat) :
    (Command.create width height).line = "I " ++ toString width ++ " " ++ toString height := by
  rw [← String.toList_inj]
  have hdecimal (n : Nat) : (toString n).toList = Text.Digits.decimal n := by
    show (String.ofList (Nat.toDigits 10 n)).toList = _
    rw [String.toList_ofList]
    rfl
  rw [Command.line, String.toList_ofList]
  simp only [Command.fields, Command.verb, Verb.toList_letter, Verb.initial, List.map_cons,
    List.map_nil, Field.word, List.intercalate_cons_cons, String.toList_append, hdecimal]
  simp

namespace Interpreter

theorem executeLine_clear {s : Interpreter} {c : Canvas} (hc : s.canvas = some c) :
    s.executeLine Command.clear.line =
      (.ok (), { s.advanced with canvas := some (Canvas.blank c.dimensions) }) := by
  apply executeLine_line
  · intro f hf
    cases hf
  · exact .inl (by rw [hc]; rfl)
  · have hadvanced : s.advanced.canvas = some c := hc
    simp only [dispatch, hadvanced, Canvas.clear_eq_blank]

/-! ## What follows them

An interpreter has no memory besides its fields. If two lines leave the same interpreter, then
nothing that follows can tell which of them it was. -/

/-- On a canvas, whatever it shows, clearing it and creating one of the same sides both succeed and lead
to one and the same interpreter, whose canvas is a new one; so all that follows is the same, whether
the lines that follow are carried out one by one or as a run. -/
theorem clear_eq_create {s : Interpreter} {c : Canvas} (hc : s.canvas = some c) :
    let width := c.dimensions.width
    let height := c.dimensions.height
    let created := "I " ++ toString width ++ " " ++ toString height
    ∃ new t, Canvas.ofSides width height = .ok new ∧
      t = { s with canvas := some new, line := s.line + 1 } ∧
      s.executeLine "C" = (.ok (), t) ∧ s.executeLine created = (.ok (), t) ∧
      (∀ more text, (s.after ("C" :: more)).executeLine text =
        (s.after (created :: more)).executeLine text) ∧
      ∀ more, s.run ("C" :: more) = s.run (created :: more) := by
  intro width height created
  let t : Interpreter := { s.advanced with canvas := some (Canvas.blank c.dimensions) }
  have hclear : s.executeLine "C" = (.ok (), t) := by
    rw [← Command.line_clear]
    exact executeLine_clear hc
  have hcreate : s.executeLine created = (.ok (), t) := by
    show s.executeLine ("I " ++ toString width ++ " " ++ toString height) = _
    rw [← Command.line_create]
    exact s.executeLine_create c.dimensions
  refine ⟨Canvas.blank c.dimensions, t, ?_, rfl, hclear, hcreate, ?_, ?_⟩
  · simp only [width, height, Canvas.ofSides, Dimensions.ofSides_self]
  · intro more text
    -- both lines have led to the same interpreter before the others begin
    show (Interpreter.after (s.executeLine "C").2 more).executeLine text =
      (Interpreter.after (s.executeLine created).2 more).executeLine text
    rw [hclear, hcreate]
  · intro more
    rw [run_cons_of_ok hclear, run_cons_of_ok hcreate]

/-- A segment that ran off the canvas and a point beside it leave a canvas to be cleared. -/
theorem clear_eq_create_refused :
    let s := ({} : Interpreter).after ["I 2 3", "V 1 2 9 x", "L 3 3 y"]
    let new := Canvas.blank ⟨2, 3, by decide, by decide, by decide, by decide⟩
    s.canvas.map Canvas.text = some "OO\nxO\nxO" ∧ s.line = 3 ∧
      s.executeLine "C" = (.ok (), { s with canvas := some new, line := 4 }) ∧
      s.executeLine "I 2 3" = (.ok (), { s with canvas := some new, line := 4 }) := by
  intro s new
  let c : Canvas := ⟨⟨2, 3, by decide, by decide, by decide, by decide⟩,
    #['O', 'O', 'x', 'O', 'x', 'O'], rfl⟩
  have hc : s.canvas = some c := by decide +kernel
  have hline : s.line = 3 := by decide +kernel
  have hcreated : "I " ++ toString c.dimensions.width ++ " " ++ toString c.dimensions.height =
      "I 2 3" := by decide +kernel
  obtain ⟨new', t, hnew, rfl, hclear, hcreate, -⟩ := clear_eq_create hc
  obtain rfl : new = new' := Except.ok.inj hnew
  rw [hcreated] at hcreate
  rw [hline] at hclear hcreate
  exact ⟨by decide +kernel, hline, hclear, hcreate⟩

end Interpreter

end PixelScript
