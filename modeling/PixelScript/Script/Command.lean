import PixelScript.Geometry.Point
import PixelScript.Script.Record
import PixelScript.Script.Verb
import PixelScript.Text.Quoted

/-!
# Commands

A command is a verb with all its arguments in place. `Command.bind` puts the arguments of a record
in place: their number must be the verb's, a coordinate must be a number, and a colour must be a
single character. Of several arguments that do not fit, the leftmost is reported.
-/

namespace PixelScript.Script

/-- What is to be done to the canvas. -/
inductive Command where
  | create (width height : Nat)
  | clear
  | paint (point : Point) (pixel : Char)
  | vertical (col fromRow toRow : Nat) (pixel : Char)
  | horizontal (fromCol toCol row : Nat) (pixel : Char)
  | fill (seed : Point) (pixel : Char)
  | print
deriving DecidableEq

/-- Why arguments do not fit a verb. Positions count from zero. -/
inductive BindError where
  /-- Too few or too many arguments. -/
  | wrongArity (verb : Verb) (found : Nat)
  /-- A coordinate that is not a number. -/
  | expectedInteger (position : Nat)
  /-- A colour that is not a single character. -/
  | expectedPixel (position : Nat) (found : String)
deriving DecidableEq

/-- The sentence that says what was expected. Positions are written counting from one. -/
def BindError.message : BindError → String
  | .wrongArity verb found =>
    verb.letter ++ " takes " ++ toString verb.arity ++ " argument(s), found " ++ toString found
  | .expectedInteger position =>
    "argument " ++ toString (position + 1) ++ " must be a non-negative integer"
  | .expectedPixel position found =>
    "argument " ++ toString (position + 1) ++ " must be a single character, found " ++
      Text.Quoted.quote found

/-- The characters of a value. A number is written without leading zeros, however it was given. -/
def Value.chars : Value → List Char
  | .number n => Text.Digits.decimal n
  | .text s => s.toList

/-- The number that a value is, if it was written as one. -/
def Value.number? : Value → Option Nat
  | .number n => some n
  | .text _ => none

/-- The colour that a value names, if it is a single character. A number of one digit names that
digit. -/
def Value.pixel? (v : Value) : Option Char :=
  match v.chars with
  | [c] => some c
  | _ => none

namespace Command

/-- The verb that the command was bound from. -/
def verb : Command → Verb
  | create .. => .create
  | clear => .clear
  | paint .. => .paint
  | vertical .. => .vertical
  | horizontal .. => .horizontal
  | fill .. => .fill
  | print => .print

/-- The number in a place for a coordinate, or the refusal of what stands there. -/
def bindNumber (position : Nat) (v : Value) : Except BindError Nat :=
  match v.number? with
  | some n => .ok n
  | none => .error (.expectedInteger position)

/-- The character in a place for a colour, or the refusal of what stands there. A number is quoted
as it is written without leading zeros. -/
def bindPixel (position : Nat) (v : Value) : Except BindError Char :=
  match v.pixel? with
  | some c => .ok c
  | none => .error (.expectedPixel position (String.ofList v.chars))

/-- Puts values in the places that a verb has for them, from left to right. -/
def bind (verb : Verb) (values : List Value) : Except BindError Command :=
  match verb, values with
  | .create, [width, height] => do
    return .create (← bindNumber 0 width) (← bindNumber 1 height)
  | .clear, [] => return .clear
  | .paint, [col, row, pixel] => do
    return .paint ⟨← bindNumber 0 col, ← bindNumber 1 row⟩ (← bindPixel 2 pixel)
  | .vertical, [col, fromRow, toRow, pixel] => do
    return .vertical (← bindNumber 0 col) (← bindNumber 1 fromRow) (← bindNumber 2 toRow)
      (← bindPixel 3 pixel)
  | .horizontal, [fromCol, toCol, row, pixel] => do
    return .horizontal (← bindNumber 0 fromCol) (← bindNumber 1 toCol) (← bindNumber 2 row)
      (← bindPixel 3 pixel)
  | .fill, [col, row, pixel] => do
    return .fill ⟨← bindNumber 0 col, ← bindNumber 1 row⟩ (← bindPixel 2 pixel)
  | .print, [] => return .print
  | verb, values => .error (.wrongArity verb values.length)

/-- A wrong number of arguments is reported as such, whatever the arguments are. The equations of
`bind` ask for the number first, so none of them applies. -/
theorem bind_of_length_ne {verb : Verb} {values : List Value} (h : values.length ≠ verb.arity) :
    bind verb values = .error (.wrongArity verb values.length) := by
  unfold bind
  split <;> simp_all [Verb.arity]

end Command

end PixelScript.Script
