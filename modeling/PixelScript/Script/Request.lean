import PixelScript.Script.Diagnostic

/-!
# Requests

A request is a line that has been understood: its record, and the command that it amounts to.
`Request.ofRecord` makes the checks in a fixed order: the line has a word, the word is a verb, there
is a canvas unless the verb creates one, and the arguments fit.
-/

namespace PixelScript.Script

namespace Record

/-- What a record asks to be put in place. -/
def values (r : Record) : List Value := r.arguments.map Argument.value

/-- How many arguments of a verb name sides or coordinates. These are the first ones. -/
def coordinateCount : Verb → Nat
  | .clear | .print => 0
  | .create | .paint | .fill => 2
  | .vertical | .horizontal => 3

/-- The part of the line that names sides or coordinates. -/
def coordinates? (r : Record) (verb : Verb) : Option Span :=
  match coordinateCount verb with
  | 0 => none
  | last + 1 =>
    match r.arguments.head?, r.arguments[last]? with
    | some first, some last => some (first.span.to last.span)
    | _, _ => none

/-- The part of the line where the arguments do not fit: one argument, or the whole line if their
number is wrong. -/
def misfit (r : Record) (source : SourceLine) : BindError → Span
  | .wrongArity _ _ => source.whole
  | .expectedInteger position | .expectedPixel position _ =>
    match r.arguments[position]? with
    | some argument => argument.span
    | none => source.whole

end Record

/-- A line that has been understood. -/
structure Request where
  source : SourceLine
  word : Word
  record : Record
  command : Command

namespace Request

/-- What the record of a line asks for, where `hasCanvas` says whether there is a canvas. The record
is missing if the line does not follow the grammar. -/
def ofRecord (hasCanvas : Bool) (source : SourceLine) :
    Option Record → Except ScriptError Request
  | none => .error (.invalid .unsplittable source source.whole)
  | some record =>
    match record.command with
    | none => .error (.invalid .blankLine source source.whole)
    | some word =>
      match Verb.ofWord? word.text with
      | none => .error (.invalid (.unknownVerb word.text) source word.span)
      | some verb =>
        if verb ≠ .create ∧ hasCanvas = false then
          .error (.invalid .noCanvas source word.span)
        else
          match Command.bind verb record.values with
          | .error e => .error (.invalid (.misfit verb e) source (record.misfit source e))
          | .ok command => .ok ⟨source, word, record, command⟩

/-- The part of the line to point out when the canvas refuses the command. -/
def coordinates (r : Request) : Span :=
  (r.record.coordinates? r.command.verb).getD r.source.whole

end Request

end PixelScript.Script
