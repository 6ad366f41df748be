import PixelScript.Host

/-!
# The command line

What the program does for its arguments: at most one of them names a script, and all others have to
be the flag that asks for a line feed after every print.
-/

namespace PixelScript.CommandLine

open Script

/-- The flag that asks for a line feed after every print. -/
def trailingNewline : String := "--trailing-newline"

/-- How the program is called. -/
def usage : String := "Usage: bitmap-editor [--trailing-newline] <script>\n"

/-- What the arguments ask for: whether a line feed follows every print, and which script is to be
run, if any is named. -/
structure Invocation where
  options : Options := {}
  path : Option String := none
deriving DecidableEq

/-- Takes one more argument into account. The flag sets its option, however often it comes; whatever
else stands there is a path, and a second path is refused. -/
def Invocation.add (i : Invocation) (argument : String) : Option Invocation :=
  if argument = trailingNewline then some { i with options := { trailingNewline := true } }
  else if i.path.isNone then some { i with path := some argument }
  else none

/-- What a list of arguments asks for, taken from the left, unless it names more than one path. -/
def Invocation.ofArguments (arguments : List String) : Option Invocation :=
  arguments.foldlM Invocation.add {}

/-- What the program leaves behind: its exit code and what it has written to both of its streams. -/
structure Result where
  exitCode : Nat
  standardOutput : ByteArray
  standardError : String

/-- Runs the program. `files` gives the contents of the regular files that can be read, so every other
path is a missing script, whatever stands there. `report` is what the diagnostic of a script that fails
looks like on standard error; how it is drawn is not decided here. -/
def run (files : String → Option ByteArray) (arguments : List String)
    (report : ScriptError → String := ScriptError.message) : Result :=
  match Invocation.ofArguments arguments with
  | none => ⟨2, ByteArray.empty, usage⟩
  | some invocation =>
    match Host.runFile files invocation.options invocation.path {} with
    | (.ok (), sink) => ⟨0, sink.written, ""⟩
    | (.error e, sink) => ⟨1, sink.written, report e⟩

end PixelScript.CommandLine
