import PixelScript.Interpreter
import PixelScript.Text.Utf8

/-!
# Hosts

Two ways to run a whole script: a text, which gives back all that it prints, and a file, which prints
to a sink.
-/

namespace PixelScript.Host

open Script

/-- Printed in place of a script that cannot be read. -/
def missingFile : String := "please provide correct file\n"

/-- Runs the script `source` and gives back what it printed. -/
def execute (options : Options) (source : String) : Except ScriptError String :=
  match ({ options := options } : Interpreter).run (Text.lines source) with
  | (.ok (), s) => .ok (Text.Utf8.decodeLossy s.sink.written)
  | (.error e, _) => .error e

/-- Runs the script in the file at `path`, where `files` gives the contents of the regular files that
can be read. Whatever else stands at a path is a missing script. What was printed before a failure
stays printed. -/
def runFile (files : String → Option ByteArray) (options : Options) (path : Option String)
    (sink : Sink) : Except ScriptError Unit × Sink :=
  match path, path.bind files with
  | some path, some bytes =>
    match ({ sink := sink, options := options, name := path } : Interpreter).runBytes bytes with
    | (result, s) => (result, s.sink)
  | _, _ =>
    match sink.emit missingFile.toUTF8 with
    | (.ok (), sink) => (.ok (), sink)
    | (.error e, sink) => (.error (.stream e), sink)

end PixelScript.Host
