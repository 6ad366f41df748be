import PixelScript.Program
import PixelScript.Proofs.Canvas.FloodPaths
import PixelScript.Proofs.Canvas.LastWriter
import PixelScript.Proofs.Canvas.SuccessiveFloods
import PixelScript.Proofs.Canvas.Views
import PixelScript.Proofs.Canvas.WorkList
import PixelScript.Proofs.CommandLine
import PixelScript.Proofs.Host
import PixelScript.Proofs.Interpreter.Clamping
import PixelScript.Proofs.Interpreter.Clearing
import PixelScript.Proofs.Interpreter.Guarded
import PixelScript.Proofs.Interpreter.Layout
import PixelScript.Proofs.Interpreter.Sessions
import PixelScript.Proofs.Interpreter.TrailingNewline
import PixelScript.Proofs.Interpreter.Transpose
import PixelScript.Proofs.Interpreter.Truncation
import PixelScript.Proofs.Interpreter.Verdict
import PixelScript.Proofs.Script.Misfits
import PixelScript.Proofs.Script.RoundTrip
import PixelScript.Proofs.Script.Rules
import PixelScript.Proofs.Script.Runs
