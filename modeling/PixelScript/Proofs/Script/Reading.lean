import PixelScript.Proofs.Script.Grammar
import PixelScript.Script.Record

/-!
# What is read from a line

Reading a line by the grammar comes down to its tokens: every line can be read, its first token is
the word that names the command, the others are the arguments (`Record.readWith?_eq`), and the
places of the tokens are the spans. `words` are the tokens without their places.
-/

namespace PixelScript.Script

/-! ## Records of tokens

The record of a line is a function of its tokens. Each tree of the grammar is turned back into the
token that it was left for. -/

/-- What a word says as an argument: a number if it is written in digits only. -/
def Value.ofWord (clamp : Nat → Nat) (word : List Char) : Value :=
  if Text.Digits.isNumeral word then .number (clamp (Text.Digits.value word))
  else .text (String.ofList word)

namespace Token

/-- The part of the line that the token takes. -/
def span (t : Token) : Span := ⟨t.offset, t.size⟩

/-- The token where a command stands. -/
def word (t : Token) : Word := ⟨String.ofList t.chars, t.span⟩

/-- The token where an argument stands. -/
def argument (clamp : Nat → Nat) (t : Token) : Argument :=
  ⟨Value.ofWord clamp t.chars, t.span⟩

end Token

/-- The record of a line with the given tokens. -/
def Record.ofTokens (clamp : Nat → Nat) : List Token → Record
  | [] => ⟨none, []⟩
  | t :: rest => ⟨some t.word, rest.map (Token.argument clamp)⟩

theorem Word.ofTree_commandTree (t : Token) : Word.ofTree t.commandTree = t.word := by
  rw [Token.commandTree, Word.ofTree, Nat.add_sub_cancel_left]
  rfl

/-- The argument that is read from a token's tree says what the token's characters say: a number for
digits, a text otherwise. Which of the two trees is inside is decided by the same question. -/
theorem Argument.ofTree?_argumentTree (clamp : Nat → Nat) (t : Token) :
    Argument.ofTree? clamp t.argumentTree = some (t.argument clamp) := by
  rw [Token.argumentTree, Argument.ofTree?, Nat.add_sub_cancel_left]
  cases h : Text.Digits.isNumeral t.chars with
  | true => simp [Token.integerTree, Value.ofTree?, Token.argument, Value.ofWord, Token.span, h]
  | false => simp [Token.wordTree, Value.ofTree?, Token.argument, Value.ofWord, Token.span, h]

/-- All arguments are read, in their order, and reading stops at the end of the line. Induction on
the tokens. -/
theorem Record.argumentsOfTrees?_map (clamp : Nat → Nat) (tokens : List Token)
    (start stop : Nat) (taken : List Char) (inner : List Tree) :
    argumentsOfTrees? clamp
        (tokens.map Token.argumentTree ++ [.node .endOfInput start stop taken inner]) =
      some (tokens.map (Token.argument clamp)) := by
  induction tokens with
  | nil => rfl
  | cons t rest ih =>
    rw [List.map_cons, List.cons_append, argumentsOfTrees?]
    · rw [Argument.ofTree?_argumentTree, ih]
      rfl
    · -- the tree of an argument is not the end of the line
      intro _ _ _ _ h
      rw [Token.argumentTree] at h
      cases h

/-- Every line can be read, and says what its tokens say. What is done to numbers is left open, so
that this holds for the clamped reading and for the exact one. -/
theorem Record.readWith?_eq (clamp : Nat → Nat) (line : String) :
    Record.readWith? clamp line = some (Record.ofTokens clamp (Token.ofLine line)) := by
  rw [Record.readWith?, Grammar.parse?_record, Option.bind_some]
  cases Token.ofLine line with
  | nil => rfl
  | cons t rest =>
    show (argumentsOfTrees? clamp (rest.map Token.argumentTree ++ _)).map _ = _
    rw [argumentsOfTrees?_map]
    show some (Record.mk (some (Word.ofTree t.commandTree)) _) = _
    rw [Word.ofTree_commandTree]
    rfl

/-! ## Words

What a line says apart from the places in it. Two lines with equal words are carried out alike,
whatever blanks stand between them. -/

/-- The tokens of a line without their places. -/
def words (line : String) : List (List Char) := (Token.ofLine line).map Token.chars

/-- A word has at least one character, and no blank. -/
def IsWord (word : List Char) : Prop := word ≠ [] ∧ ∀ c ∈ word, Text.isBlank c = false

namespace Token

/-- Where the tokens of a text begin makes no difference to what they are. Induction in the way in
which the text is split. -/
theorem map_chars_split (offset other : Nat) (input : List Char) :
    (split offset input).map chars = (split other input).map chars := by
  induction offset, input using split.induct generalizing other with
  | case1 offset => rw [split_nil, split_nil]
  | case2 offset c rest hc ih =>
    rw [split_blank hc, split_blank hc]
    exact ih _
  | case3 offset c rest hc word ih =>
    rw [Bool.not_eq_true] at hc
    rw [split_solid hc, split_solid hc, List.map_cons, List.map_cons]
    exact congrArg _ (ih _)

/-- A token is a word: it has a first character, and it ends before the next blank. Induction in the
way in which the text is split. -/
theorem isWord_of_mem_split {offset : Nat} {input : List Char} {t : Token}
    (ht : t ∈ split offset input) : IsWord t.chars := by
  induction offset, input using split.induct with
  | case1 offset =>
    rw [split_nil] at ht
    cases ht
  | case2 offset c rest hc ih =>
    rw [split_blank hc] at ht
    exact ih ht
  | case3 offset c rest hc word ih =>
    rw [Bool.not_eq_true] at hc
    -- the first token ends before the next blank, and the others come from behind it
    rw [split_solid hc, List.mem_cons] at ht
    rcases ht with rfl | ht
    · refine ⟨List.cons_ne_nil _ _, ?_⟩
      intro d hd
      rcases List.mem_cons.1 hd with rfl | hd
      · exact hc
      · have h := List.all_eq_true.1 List.all_takeWhile d hd
        simpa using h
    · exact ih ht

end Token

theorem isWord_of_mem_words {line : String} {word : List Char} (hword : word ∈ words line) :
    IsWord word := by
  obtain ⟨t, ht, rfl⟩ := List.mem_map.1 hword
  exact Token.isWord_of_mem_split ht

end PixelScript.Script
