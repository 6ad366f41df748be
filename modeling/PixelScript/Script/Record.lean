import PixelScript.Number
import PixelScript.Script.Grammar
import PixelScript.Text.Digits

/-!
# Records

A record is what a line says: the word that names a command, and its arguments, each with the place
where it stands in the line. `Record.read?` reads a line by the grammar. Its numbers are clamped to
the largest number; `Record.readExact?` is the same reading without a largest number.
-/

namespace PixelScript.Script

/-- A part of a line, in bytes. -/
structure Span where
  offset : Nat
  length : Nat
deriving DecidableEq

/-- The first byte after the part. -/
def Span.stop (s : Span) : Nat := s.offset + s.length

/-- From the beginning of one part to the end of another. -/
def Span.to (first last : Span) : Span := ⟨first.offset, last.stop - first.offset⟩

/-- A word that stands in the place of a command. -/
structure Word where
  text : String
  span : Span
deriving DecidableEq

/-- What an argument says: a number if it is written in digits only, and a text otherwise. -/
inductive Value where
  | number (n : Nat)
  | text (s : String)
deriving DecidableEq

/-- An argument and where it stands. -/
structure Argument where
  value : Value
  span : Span
deriving DecidableEq

/-- What a line says. A blank line has no command. -/
structure Record where
  command : Option Word
  arguments : List Argument
deriving DecidableEq

/-! ### From parse trees

The grammar leaves trees of a known shape, and anything else is refused here. So a record exists
exactly where the grammar matches and leaves trees of that shape, and reading a line is a function
of its text alone. -/

/-- The word that a tree was left for. -/
def Word.ofTree : Tree → Word
  | .node _ start stop taken _ => ⟨String.ofList taken, ⟨start, stop - start⟩⟩

/-- The value that the tree inside an argument stands for; `clamp` is applied to a number. -/
def Value.ofTree? (clamp : Nat → Nat) : Tree → Option Value
  | .node .integer _ _ taken _ => some (.number (clamp (Text.Digits.value taken)))
  | .node .word _ _ taken _ => some (.text (String.ofList taken))
  | _ => none

/-- The argument that a tree stands for, by the tree inside it. -/
def Argument.ofTree? (clamp : Nat → Nat) : Tree → Option Argument
  | .node .argument start stop _ (inner :: _) =>
    (Value.ofTree? clamp inner).map fun value => ⟨value, ⟨start, stop - start⟩⟩
  | _ => none

namespace Record

/-- The arguments that stand before the end of the line. -/
def argumentsOfTrees? (clamp : Nat → Nat) : List Tree → Option (List Argument)
  | [.node .endOfInput _ _ _ _] => some []
  | tree :: rest =>
    match Argument.ofTree? clamp tree, argumentsOfTrees? clamp rest with
    | some argument, some arguments => some (argument :: arguments)
    | _, _ => none
  | [] => none

/-- The record that the trees of a line stand for. -/
def ofTrees? (clamp : Nat → Nat) : List Tree → Option Record
  | [.node .record _ _ _ (.node .command start stop taken inner :: rest)] =>
    (argumentsOfTrees? clamp rest).map fun arguments =>
      ⟨some (Word.ofTree (.node .command start stop taken inner)), arguments⟩
  | [.node .record _ _ _ [.node .endOfInput _ _ _ _]] => some ⟨none, []⟩
  | _ => none

/-- Reads a line, applying `clamp` to every number. -/
def readWith? (clamp : Nat → Nat) (line : String) : Option Record :=
  (Rule.record.parse? line).bind (ofTrees? clamp)

/-- Reads a line as the program does. A number that is too large becomes the largest one. -/
def read? (line : String) : Option Record := readWith? Number.clamp line

/-- Reads a line without a bound on its numbers. -/
def readExact? (line : String) : Option Record := readWith? id line

end Record

end PixelScript.Script
