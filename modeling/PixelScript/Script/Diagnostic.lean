import PixelScript.Geometry.Bounds
import PixelScript.Script.Command
import PixelScript.Stream.Error

/-!
# Diagnostics

A script fails at one of its lines, for a reason that is a value of its own: the line is not a
command that can be carried out, the canvas refuses what the command asks for, or a stream fails.
The texts of a diagnostic (message, code, help, and the labels of parts of the line) are functions of
that value.
-/

namespace PixelScript.Script

/-- One line of a script and where it comes from. -/
structure SourceLine where
  name : String
  /-- The number of the line, counted from one. -/
  number : Nat
  text : String
deriving DecidableEq

namespace SourceLine

/-- The script and the line, as they stand above a diagnostic. -/
def title (l : SourceLine) : String := l.name ++ ":" ++ toString l.number

/-- The part of the line that is the line itself. -/
def whole (l : SourceLine) : Span := ⟨0, l.text.utf8ByteSize⟩

end SourceLine

/-- Why a line is not a command that can be carried out. -/
inductive Reason where
  /-- The line does not follow the grammar. -/
  | unsplittable
  | blankLine
  | unknownVerb (word : String)
  /-- There is no canvas yet, and the command does not create one. -/
  | noCanvas
  | misfit (verb : Verb) (error : BindError)
deriving DecidableEq

namespace Reason

/-- The sentence that says what is wrong with the line. -/
def message : Reason → String
  | unsplittable => "Parse error"
  | blankLine => "The command is invalid"
  | unknownVerb word => "The command is invalid: " ++ Text.Quoted.quote word
  | noCanvas => "First command should be bitmap initialization"
  | misfit _ error => error.message

/-- What is written at the part of the line that is pointed out. -/
def label : Reason → String
  | unsplittable => "could not split this line"
  | blankLine => "empty line"
  | unknownVerb _ => "unknown command"
  | noCanvas => "no bitmap yet"
  | misfit _ _ => "does not fit this command"

/-- The hint that lists all verbs. -/
def knownVerbs : String := "commands are " ++ ", ".intercalate (Verb.all.map Verb.letter)

/-- What the line might have been meant to be, where there is a hint. -/
def help : Reason → Option String
  | unsplittable => none
  | blankLine => some knownVerbs
  | unknownVerb _ => some knownVerbs
  | noCanvas => some ("start the script with `" ++ Verb.create.usage ++ "`")
  | misfit verb _ => some ("usage: " ++ verb.usage)

end Reason

/-- Why a script fails. -/
inductive ScriptError where
  /-- A line is not a command that can be carried out. -/
  | invalid (reason : Reason) (source : SourceLine) (span : Span)
  /-- The canvas refuses what a command asks for. -/
  | outOfBounds (cause : CanvasError) (source : SourceLine) (span : Span)
  | stream (cause : StreamError)
deriving DecidableEq

/-- What kind of failure a script ends with. -/
inductive ErrorKind where
  | invalidCommand
  | outOfBounds
  | stream
deriving DecidableEq

namespace ScriptError

/-- The kind of failure, for those who tell failures apart without reading their texts. -/
def kind : ScriptError → ErrorKind
  | invalid .. => .invalidCommand
  | outOfBounds .. => .outOfBounds
  | stream _ => .stream

/-- The sentence at the head of the diagnostic. The cause of a failed stream is not part of it. -/
def message : ScriptError → String
  | invalid reason _ _ => "invalid command: " ++ reason.message
  | outOfBounds cause _ _ => "out of bound coordinates: " ++ cause.message
  | stream _ => "i/o error while running script"

/-- The name under which a kind of failure can be looked up. -/
def code : ScriptError → String
  | invalid .. => "bitmap_editor::invalid_command"
  | outOfBounds .. => "bitmap_editor::out_of_bound_coordinates"
  | stream .. => "bitmap_editor::io"

/-- Only lines that cannot be carried out come with a hint. -/
def help : ScriptError → Option String
  | invalid reason _ _ => reason.help
  | outOfBounds .. | stream .. => none

/-- The parts of the line that are pointed out, each with what is written there. -/
def labels : ScriptError → List (Span × String)
  | invalid reason _ span => [(span, reason.label)]
  | outOfBounds _ _ span => [(span, "outside the bitmap")]
  | stream _ => []

/-- The line that failed. A stream fails at no line in particular. -/
def source? : ScriptError → Option SourceLine
  | invalid _ source _ | outOfBounds _ source _ => some source
  | stream _ => none

/-- What the canvas or the stream objected to, if it was one of them that did. -/
def cause? : ScriptError → Option (CanvasError ⊕ StreamError)
  | invalid .. => none
  | outOfBounds cause _ _ => some (.inl cause)
  | stream cause => some (.inr cause)

end ScriptError

end PixelScript.Script
