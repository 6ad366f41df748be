/-!
# Errors of a stream

What can go wrong when bytes are read or written.
-/

namespace PixelScript

/-- Why bytes could not be read or written. -/
inductive StreamError where
  /-- The stream took only a part of what was written to it. -/
  | writeZero
  /-- The stream could not be flushed. -/
  | flushFailed
  /-- A line that was read is not UTF-8. -/
  | invalidText
deriving DecidableEq

/-- The sentence that says what went wrong. -/
def StreamError.message : StreamError → String
  | .writeZero => "failed to write whole buffer"
  | .flushFailed => "flush failed"
  | .invalidText => "stream did not contain valid UTF-8"

end PixelScript
