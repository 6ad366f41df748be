import PixelScript.Proofs.Interpreter.Printing

/-!
# Printing elsewhere

An interpreter reads its sink and its options only where it prints. With another sink and other
options (`Interpreter.printingTo`) it carries out every other line with the same result, diagnostic
included, and on the same canvas (`Interpreter.executeLine_printingTo`). So two runs that differ in
where or how they print can only be told apart by the lines that print, and what these do is said by
`Interpreter.executeLine_of_shown?`.
-/

namespace PixelScript

open Script

namespace Script

/-! ## The command of a request

Which lines print is a question about their words. The request made from a line answers it: its
command is the one that the words spell, and the command that prints is spelled in one way. -/

/-- A line that is understood is understood as the command that its words spell. -/
theorem Request.spelledBy_of_ofRecord {hasCanvas : Bool} {source : SourceLine} {tokens : List Token}
    {request : Request} (hne : ∀ word ∈ tokens.map Token.chars, word ≠ [])
    (h : ofRecord hasCanvas source (some (Record.ofTokens Number.clamp tokens)) = .ok request) :
    request.command.SpelledBy (tokens.map Token.chars) := by
  cases hobjection : objection? hasCanvas (tokens.map Token.chars) with
  | some reason =>
    obtain ⟨span, herror⟩ := @ofRecord_of_objection _ source _ _ hne hobjection
    rw [herror] at h
    cases h
  | none =>
    obtain ⟨command, hspelled, hallowed⟩ := exists_spelledBy hne hobjection
    obtain ⟨request', hok, rfl, -⟩ := @ofRecord_of_spelledBy _ source _ _ hne hspelled hallowed
    rw [hok, Except.ok.injEq] at h
    rwa [← h]

end Script

namespace Interpreter

/-! ## Other sinks and options

Only the command that prints reads the sink or the options. The lemmas follow the parts of a line
from the inside out: keeping what was drawn, carrying a command out, and executing the line. -/

/-- The interpreter with another sink and other options. -/
def printingTo (s : Interpreter) (options : Options) (sink : Sink) : Interpreter :=
  { s with options := options, sink := sink }

section

variable (s : Interpreter) (options : Options) (sink : Sink)

@[simp] theorem canvas_printingTo : (s.printingTo options sink).canvas = s.canvas := rfl

@[simp] theorem sink_printingTo : (s.printingTo options sink).sink = sink := rfl

@[simp] theorem options_printingTo : (s.printingTo options sink).options = options := rfl

end

/-- Keeping what was drawn changes the canvas alone, so it does not matter where the interpreter
prints. -/
theorem keep_printingTo (s : Interpreter) (options : Options) (sink : Sink)
    (drawn : Except CanvasError Unit × Canvas) :
    (s.printingTo options sink).keep drawn =
      ((s.keep drawn).1, (s.keep drawn).2.printingTo options sink) := by
  cases drawn with
  | mk result canvas => cases result <;> rfl

/-- A command is carried out alike wherever the interpreter prints, unless it prints a canvas. A
print without a canvas is refused before the sink is looked at. -/
theorem dispatch_printingTo (s : Interpreter) (options : Options) (sink : Sink) {command : Command}
    (h : command = .print → s.canvas = none) :
    (s.printingTo options sink).dispatch command =
      ((s.dispatch command).1, (s.dispatch command).2.printingTo options sink) := by
  unfold dispatch
  simp only [canvas_printingTo]
  split
  · split <;> rfl
  · rfl
  · rfl
  · exact keep_printingTo s options sink _
  · exact keep_printingTo s options sink _
  · exact keep_printingTo s options sink _
  · split <;> rfl
  · -- there is no canvas to print
    rename_i hcanvas
    rw [h rfl] at hcanvas
    cases hcanvas

/-! ## Lines

Every line is of one of two kinds. Where `shown?` is `none` the sink plays no part, and where it is
a canvas the line does nothing but print that canvas. -/

/-- The canvas that a line is to print, if it is a line that prints and there is a canvas. It
depends on the words of the line and on the canvas, not on whether the print goes well. -/
def shown? (s : Interpreter) (text : String) : Option Canvas :=
  if words text = [['S']] then s.canvas else none

@[simp] theorem shown?_printingTo (s : Interpreter) (options : Options) (sink : Sink)
    (text : String) : (s.printingTo options sink).shown? text = s.shown? text := rfl

/-- A line that is to print writes the canvas and leaves it as it is. It fails just when the sink
does, with the error of the sink. -/
theorem executeLine_of_shown? {s : Interpreter} {text : String} {c : Canvas}
    (h : s.shown? text = some c) :
    s.executeLine text =
      ((c.render s.options s.sink).1.mapError ScriptError.stream,
        s.advanced.printingTo s.options (c.render s.options s.sink).2) := by
  rw [shown?, Option.ite_none_right_eq_some] at h
  exact executeLine_print h.2 h.1

/-- A line that does not print comes to the same wherever the interpreter prints. -/
theorem executeLine_printingTo {s : Interpreter} {text : String} (h : s.shown? text = none)
    (options : Options) (sink : Sink) :
    (s.printingTo options sink).executeLine text =
      ((s.executeLine text).1, (s.executeLine text).2.printingTo options sink) := by
  simp only [executeLine, executeRecord, Record.read?, Record.readWith?_eq]
  have hspelled (request : Request) := @Request.spelledBy_of_ofRecord s.canvas.isSome
    ⟨s.name, s.line + 1, text⟩ (Token.ofLine text) request (fun _ => words_ne_nil)
  simp only [printingTo]
  cases hrequest : Request.ofRecord s.canvas.isSome ⟨s.name, s.line + 1, text⟩
    (some (Record.ofTokens Number.clamp (Token.ofLine text))) with
  | error e => rfl
  | ok request =>
    -- the request was made from this very line, so a print would have the one word and no canvas
    have hprint : request.command = .print → s.canvas = none := by
      intro hcommand
      have hwords : words text = [['S']] :=
        Command.spelledBy_print_iff.1 (hcommand ▸ hspelled request hrequest)
      rwa [shown?, if_pos hwords] at h
    have hdispatch := dispatch_printingTo s.advanced options sink hprint
    simp only [printingTo, advanced] at hdispatch
    simp only [hdispatch]
    cases Interpreter.dispatch { s with line := s.line + 1 } request.command with
    | mk result t => cases result <;> rfl

theorem sink_of_shown?_eq_none {s : Interpreter} {text : String} (h : s.shown? text = none) :
    (s.executeLine text).2.sink = s.sink := by
  -- printing to the same sink is no change, so the line leaves that sink
  have hsame := executeLine_printingTo h s.options s.sink
  exact congrArg (fun outcome => outcome.2.sink) hsame

/-! ## Interpreters that print elsewhere

Two runs of the same lines are compared by relating their states after every line. The relation
fixes all but the sinks and the options, so it can be used for sinks that fail as well as for sinks
that do not. -/

/-- The second interpreter is the first one with another sink and other options: canvas, number of
the line and name of the script are the same. -/
def Redirects (s t : Interpreter) : Prop := t = s.printingTo t.options t.sink

theorem Redirects.canvas_eq {s t : Interpreter} (h : Redirects s t) : t.canvas = s.canvas := by
  rw [h]
  rfl

theorem Redirects.shown?_eq {s t : Interpreter} (h : Redirects s t) (text : String) :
    t.shown? text = s.shown? text := by
  rw [h]
  rfl

/-- Lines that do not print come to the same result and leave the sinks alone. -/
theorem Redirects.executeLine_of_shown?_eq_none {s t : Interpreter} (h : Redirects s t)
    {text : String} (hshown : s.shown? text = none) :
    (t.executeLine text).1 = (s.executeLine text).1 ∧
      (s.executeLine text).2.sink = s.sink ∧ (t.executeLine text).2.sink = t.sink := by
  refine ⟨?_, sink_of_shown?_eq_none hshown, sink_of_shown?_eq_none (h.shown?_eq text ▸ hshown)⟩
  rw [h, executeLine_printingTo hshown]

/-- Whatever a line does, also if it prints and one of the sinks fails, the interpreters still
differ in where and how they print alone. -/
theorem Redirects.executeLine {s t : Interpreter} (h : Redirects s t) (text : String) :
    Redirects (s.executeLine text).2 (t.executeLine text).2 := by
  cases hshown : s.shown? text with
  | none =>
    -- the line does not see the sinks, so both go on with what it leaves
    have hline := executeLine_printingTo hshown t.options t.sink
    rw [← h] at hline
    rw [hline]
    rfl
  | some c =>
    have hshown' : t.shown? text = some c := h.shown?_eq text ▸ hshown
    rw [executeLine_of_shown? hshown, executeLine_of_shown? hshown', h]
    rfl

/-! ## Lines that print

A line prints with success if it names the verb and its result is a success. In terms of `shown?`,
there is a canvas to print and the sink takes it. -/

/-- The line names the verb that prints, and succeeds. This is what a caller can see from outside:
the first word and the result. -/
def Prints (s : Interpreter) (text : String) : Prop :=
  (words text).head? = some ['S'] ∧ (s.executeLine text).1 = .ok ()

instance (s : Interpreter) (text : String) : Decidable (s.Prints text) :=
  inferInstanceAs (Decidable (_ ∧ _))

/-- A line prints with success if and only if there is a canvas for it to print and the sink takes
all of it. A print without a canvas is refused, so the canvas is part of the success and not an
assumption. -/
theorem prints_iff {s : Interpreter} {text : String} :
    s.Prints text ↔ ∃ c, s.shown? text = some c ∧ (c.render s.options s.sink).1 = .ok () := by
  constructor
  · rintro ⟨hhead, hok⟩
    have hverb {command : Command} (hspelled : command.SpelledBy (words text)) :
        command.verb = .print :=
      verb_of_letter hspelled (by rw [hhead, Verb.toList_letter]; rfl)
    have hexecutes := s.executes_executeLine text
    generalize s.executeLine text = outcome at hexecutes hok
    -- of the lines that succeed, only the one that prints has the verb
    cases hexecutes with
    | objected | notCreated | notDrawn | notPrinted => cases hok
    | created hspelled => cases hverb hspelled
    | drawn hcanvas hdraws hspelled => exact absurd (hverb hspelled) hdraws.2
    | @printed c hcanvas hspelled hresult =>
      exact ⟨c, by rw [shown?, if_pos (Command.spelledBy_print_iff.1 hspelled), hcanvas], hresult⟩
  · rintro ⟨c, hshown, hresult⟩
    refine ⟨?_, by rw [executeLine_of_shown? hshown, hresult]; rfl⟩
    rw [shown?, Option.ite_none_right_eq_some] at hshown
    rw [hshown.1]
    rfl

theorem not_prints_of_shown?_eq_none {s : Interpreter} {text : String} (h : s.shown? text = none) :
    ¬s.Prints text := by
  intro hprints
  obtain ⟨c, hsome, -⟩ := prints_iff.1 hprints
  rw [h] at hsome
  cases hsome

end Interpreter

end PixelScript
