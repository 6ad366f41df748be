/-!
# Verbs

The first word of a line is its verb, a single letter. A verb fixes how many arguments follow.
-/

namespace PixelScript.Script

/-- What a command does. -/
inductive Verb where
  | create
  | clear
  | paint
  | vertical
  | horizontal
  | fill
  | print
deriving DecidableEq

namespace Verb

/-- The verbs in the order in which they are listed. -/
def all : List Verb := [create, clear, paint, vertical, horizontal, fill, print]

/-- The word that names the verb. -/
def letter : Verb → String
  | create => "I"
  | clear => "C"
  | paint => "L"
  | vertical => "V"
  | horizontal => "H"
  | fill => "F"
  | print => "S"

/-- How many arguments the verb takes. -/
def arity : Verb → Nat
  | clear | print => 0
  | create => 2
  | paint | fill => 3
  | vertical | horizontal => 4

/-- The verb and its arguments as they are named in a hint. -/
def usage : Verb → String
  | create => "I <columns> <rows>"
  | clear => "C"
  | paint => "L <x> <y> <colour>"
  | vertical => "V <x> <y1> <y2> <colour>"
  | horizontal => "H <x1> <x2> <y> <colour>"
  | fill => "F <x> <y> <colour>"
  | print => "S"

/-- The verb that a word names, exactly and in upper case. -/
def ofWord? (word : String) : Option Verb := all.find? fun v => v.letter == word

/-- No letter names two verbs. There are few enough of them to compare all pairs. -/
theorem letter_inj {v w : Verb} : v.letter = w.letter ↔ v = w := by
  cases v <;> cases w <;> decide

/-- A word names a verb exactly if it is the verb's letter. The search in the list of all verbs
finds the right one because letters are different and the list is complete. -/
theorem ofWord?_eq_some_iff {word : String} {v : Verb} : ofWord? word = some v ↔ word = v.letter := by
  constructor
  · intro h
    have := List.find?_some h
    exact (beq_iff_eq.1 this).symm
  · rintro rfl
    cases v <;> decide

end Verb

end PixelScript.Script
