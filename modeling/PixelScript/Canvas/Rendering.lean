import PixelScript.Canvas.Basic
import PixelScript.Stream.Sink

/-!
# Rendering

A canvas is printed by a single write of all its rows and a single flush.
-/

namespace PixelScript

/-- How canvases are printed. -/
structure Options where
  /-- Whether a line feed follows the last row as well. -/
  trailingNewline : Bool := false
deriving DecidableEq

namespace Canvas

/-- What is printed for a canvas. -/
def rendering (c : Canvas) (options : Options) : String :=
  if options.trailingNewline then c.text ++ "\n" else c.text

/-- Prints a canvas. -/
def render (c : Canvas) (options : Options) (sink : Sink) : Except StreamError Unit × Sink :=
  sink.emit (c.rendering options).toUTF8

end Canvas

end PixelScript
