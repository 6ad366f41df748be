import PixelScript.Peg
import PixelScript.Text.Blank

/-!
# The grammar of a line

A line is a record: a command and its arguments, separated by blanks. An argument made of digits
only is an integer, any other one is a word.
-/

namespace PixelScript.Script

/-- The rules of the grammar. The end of the input is one of them, as it leaves a tree. -/
inductive Rule where
  | blank
  | word
  | integer
  | command
  | argument
  | record
  | endOfInput
deriving DecidableEq

/-- The trees that the rules of a line leave. -/
abbrev Tree : Type := Peg.Tree Rule

namespace Grammar

open Peg Peg.Expr

/-- A blank leaves no tree. -/
def blank : Expr Rule := .one Text.isBlank

/-- The end of the line leaves a tree of no length. -/
def endOfInput : Expr Rule := .node .endOfInput .stop

/-- A word goes on until the next blank. -/
def word : Expr Rule := .node .word (plus (.seq (.notAhead blank) any))

/-- Digits are an integer only if no other character is attached to them. -/
def integer : Expr Rule :=
  .node .integer (.seq (plus (.one Char.isDigit)) (.ahead (.orElse blank endOfInput)))

/-- A word in the place of a command. Which words name a command is not a matter of the grammar. -/
def command : Expr Rule := .node .command word

/-- Digits alone are an integer and everything else is a word. The order matters, as digits are a
word too. -/
def argument : Expr Rule := .node .argument (.orElse integer word)

/-- A whole line, with any blanks before, between and after its words. -/
def record : Expr Rule :=
  .node .record <|
    spaced blank .start <|
      spaced blank (.opt (spaced blank command (spacedStar blank argument))) endOfInput

end Grammar

/-- The expression that a rule stands for. -/
def Rule.expr : Rule → Peg.Expr Rule
  | .blank => Grammar.blank
  | .word => Grammar.word
  | .integer => Grammar.integer
  | .command => Grammar.command
  | .argument => Grammar.argument
  | .record => Grammar.record
  | .endOfInput => Grammar.endOfInput

/-- Matches a rule at the beginning of a text. -/
def Rule.parse? (rule : Rule) (text : String) : Option (List Tree) :=
  (rule.expr.run 0 text.toList).map Peg.Match.trees

end PixelScript.Script
