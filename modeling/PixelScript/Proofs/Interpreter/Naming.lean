import PixelScript.Proofs.Interpreter.Reachable

/-!
# The name of a script

An interpreter only ever repeats the name of its script: under another name (`Interpreter.named`) it
carries out the same lines with the same effect, and what it says differs in the name alone
(`Interpreter.run_named`, `ScriptError.saysSame_inScript`).
-/

namespace PixelScript

namespace Script

/-! ## Diagnostics under another name

The name of the script is a part of the line that a diagnostic shows, and of nothing else in it. -/

/-- The same line of a script with another name. -/
def SourceLine.inScript (name : String) (l : SourceLine) : SourceLine := { l with name := name }

namespace ScriptError

/-- The same diagnostic about a script with another name. An error of the sink names no script. -/
def inScript (name : String) : ScriptError → ScriptError
  | invalid reason source span => .invalid reason (source.inScript name) span
  | outOfBounds cause source span => .outOfBounds cause (source.inScript name) span
  | stream cause => .stream cause

/-- Two diagnostics say the same about lines of the same number and text. -/
structure SaysSame (e f : ScriptError) : Prop where
  kind : e.kind = f.kind
  message : e.message = f.message
  code : e.code = f.code
  help : e.help = f.help
  labels : e.labels = f.labels
  cause : e.cause? = f.cause?
  text : e.source?.map SourceLine.text = f.source?.map SourceLine.text
  number : e.source?.map SourceLine.number = f.source?.map SourceLine.number

/-- A diagnostic says the same under any name: kind, texts, labels, cause, and the line with its
number. -/
theorem saysSame_inScript (e : ScriptError) (name : String) : (e.inScript name).SaysSame e := by
  cases e <;> exact ⟨rfl, rfl, rfl, rfl, rfl, rfl, rfl, rfl⟩

theorem source?_inScript (e : ScriptError) (name : String) :
    (e.inScript name).source? = e.source?.map (SourceLine.inScript name) := by
  cases e <;> rfl

end ScriptError

/-! ## Requests under another name

A request keeps the line that it was made from in order to quote it. Making it reads the tokens and
the text of the line but not the name, so both the request and the refusal to make one can be
renamed afterwards. -/

namespace Request

/-- The same request from a script with another name. -/
def inScript (name : String) (r : Request) : Request := { r with source := r.source.inScript name }

/-- What is made of a record under another name is what is made of it under this one, renamed: the
request or the diagnostic. -/
theorem ofRecord_inScript (hasCanvas : Bool) (source : SourceLine) (name : String)
    (record : Option Record) :
    ofRecord hasCanvas (source.inScript name) record =
      ((ofRecord hasCanvas source record).map (inScript name)).mapError
        (ScriptError.inScript name) := by
  cases record with
  | none => rfl
  | some record =>
    simp only [ofRecord]
    cases record.command with
    | none => rfl
    | some word =>
      simp only
      cases Verb.ofWord? word.text with
      | none => rfl
      | some verb =>
        simp only
        split
        · rfl
        · -- the span of a misfit is taken from the text of the line
          cases Command.bind verb record.values with
          | error e => cases e <;> rfl
          | ok command => rfl

end Request

end Script

namespace Interpreter

open Script

/-! ## Interpreters under another name

The name goes through an interpreter without being looked at. This is shown for the parts of a line
from the inside out, and then for lines and for whole runs. -/

/-- The interpreter with another name for its script. -/
def named (s : Interpreter) (name : String) : Interpreter := { s with name := name }

section

variable (s : Interpreter) (name : String)

@[simp] theorem canvas_named : (s.named name).canvas = s.canvas := rfl

@[simp] theorem sink_named : (s.named name).sink = s.sink := rfl

@[simp] theorem options_named : (s.named name).options = s.options := rfl

end

theorem keep_named (s : Interpreter) (name : String) (drawn : Except CanvasError Unit × Canvas) :
    (s.named name).keep drawn = ((s.keep drawn).1, (s.keep drawn).2.named name) := by
  cases drawn with
  | mk result canvas => cases result <;> rfl

/-- Carrying out a command does not read the name, since a failure is put into words only
afterwards. -/
theorem dispatch_named (s : Interpreter) (name : String) (command : Command) :
    (s.named name).dispatch command =
      ((s.dispatch command).1, (s.dispatch command).2.named name) := by
  unfold dispatch
  simp only [canvas_named, options_named, sink_named]
  -- keeping a drawn canvas and printing one do not read the name either
  split
  · split <;> rfl
  · rfl
  · rfl
  · exact keep_named s name _
  · exact keep_named s name _
  · exact keep_named s name _
  · split <;> rfl
  · split <;> rfl

theorem explain_inScript (request : Request) (name : String) (failure : Failure) :
    explain (request.inScript name) failure = (explain request failure).inScript name := by
  cases failure <;> rfl

/-- A line has the same effect under any name, and is objected to in the same words. -/
theorem executeLine_named (s : Interpreter) (name text : String) :
    (s.named name).executeLine text =
      ((s.executeLine text).1.mapError (ScriptError.inScript name),
        (s.executeLine text).2.named name) := by
  have hrequest := Request.ofRecord_inScript s.canvas.isSome ⟨s.name, s.line + 1, text⟩ name
    (Record.read? text)
  have hdispatch := dispatch_named { s with line := s.line + 1 } name
  simp only [SourceLine.inScript] at hrequest
  simp only [named] at hdispatch
  simp only [executeLine, executeRecord, named, hrequest]
  -- both lines read the same record, so they fail alike or dispatch the same command
  cases Request.ofRecord s.canvas.isSome ⟨s.name, s.line + 1, text⟩ (Record.read? text) with
  | error e => rfl
  | ok request =>
    simp only [Except.map, Except.mapError, Request.inScript, hdispatch]
    cases Interpreter.dispatch { s with line := s.line + 1 } request.command with
    | mk result t =>
      cases result with
      | ok => rfl
      | error failure =>
        exact Prod.ext (congrArg Except.error (explain_inScript request name failure)) rfl

/-- A run has the same effect under any name. Where it stops, it stops at the same line, with a
diagnostic that differs in the name alone. Induction on the lines, for every interpreter to start
from. -/
theorem run_named (s : Interpreter) (name : String) (lines : List String) :
    (s.named name).run lines =
      ((s.run lines).1.mapError (ScriptError.inScript name), (s.run lines).2.named name) := by
  induction lines generalizing s with
  | nil => rfl
  | cons line rest ih =>
    have hline := s.executeLine_named name line
    cases hresult : s.executeLine line with
    | mk result t =>
      rw [hresult] at hline
      cases result with
      | ok =>
        rw [run_cons_of_ok hline, run_cons_of_ok hresult]
        exact ih t
      | error e =>
        rw [run_cons_of_error hline, run_cons_of_error hresult]
        rfl

end Interpreter

end PixelScript
