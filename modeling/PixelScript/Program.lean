import PixelScript.CommandLine

/-!
# The program

The outer layer of the command line. It looks the script up, runs the command line on it and writes
what that leaves to the standard streams; everything else is decided by `CommandLine.run`.

Two things belong to the system that the program runs on and not to the program, and are given to it
(`Environment`): which paths lead to a regular file, and how a diagnostic is drawn on a terminal.
-/

namespace PixelScript

/-- What the program is given by the system that it runs on. -/
structure Environment where
  /-- The contents of the regular file at a path, if there is one that can be read. A directory, a pipe
  or a device is no script, even where it can be read. -/
  readFile : String → IO (Option ByteArray)
  /-- The report on a script that fails, for standard error. -/
  report : Script.ScriptError → String

namespace Environment

/-- What stands at the path that the arguments name, if they name one. -/
def readScript (env : Environment) (arguments : List String) : IO (Option ByteArray) := do
  match (CommandLine.Invocation.ofArguments arguments).bind (·.path) with
  | some path => env.readFile path
  | none => return none

/-- Runs the program and gives back its exit code. -/
def runProgram (env : Environment) (arguments : List String) : IO UInt32 := do
  let content ← env.readScript arguments
  -- of all files only the script is read, so what is said of the others makes no difference
  let result := CommandLine.run (fun _ => content) arguments env.report
  let out ← IO.getStdout
  out.write result.standardOutput
  out.flush
  (← IO.getStderr).putStr result.standardError
  return UInt32.ofNat result.exitCode

end Environment

end PixelScript
