import PixelScript.Proofs.Script.Runs

/-!
# What the rules match

Every rule but that of a whole line looks at the characters before the first blank and at nothing else
(`IsLead`). There is a word, a command and an argument if there are any, and an integer if they are all
digits. A whole line always matches (`Rule.parse?_lead`).
-/

namespace PixelScript.Script

/-! ## The characters before the first blank

All that the rules for single tokens look at. It is described as the longest part of its kind, so
that nothing is said of how it is found. -/

/-- The longest part without a blank at the beginning of a text. -/
structure IsLead (lead input : List Char) : Prop where
  begins : lead <+: input
  solid : ∀ c ∈ lead, Text.isBlank c = false
  longest : ∀ other, other <+: input → (∀ c ∈ other, Text.isBlank c = false) →
    other.length ≤ lead.length

/-- The characters up to the first blank are such a part. No part without a blank is longer, because
any other beginning of the text that has no blank is taken character by character as well. -/
theorem isLead_takeWhile (input : List Char) :
    IsLead (input.takeWhile (!Text.isBlank ·)) input where
  begins := List.takeWhile_prefix _
  solid := by
    intro c hc
    have h := List.all_eq_true.1 List.all_takeWhile c hc
    simpa using h
  longest := by
    rintro other ⟨rest, rfl⟩ hsolid
    -- the other part is taken as a whole, and more characters may follow it
    have hother : ∀ c ∈ other, (!Text.isBlank c) = true := by
      intro c hc
      rw [hsolid c hc]
      rfl
    rw [List.takeWhile_append_of_pos hother, List.length_append]
    exact Nat.le_add_right _ _

/-! ## Single rules

The rules that leave a tree for the first token. A line as a whole is matched by the rule that puts
these together, and always matches. -/

namespace Rule

variable {text : String} {trees : List Tree} {lead : List Char}

/-- The tree of a rule that takes the first characters of a text, and nothing before them. -/
def leadTree (rule : Rule) (lead : List Char) (children : List Tree) : Tree :=
  .node rule 0 (String.ofList lead).utf8ByteSize lead children

/-- The tree of a rule for the first token of a text ends behind the token's bytes, counted from the
beginning of the text. -/
theorem leadTree_eq (rule : Rule) (lead : List Char) (children : List Tree) :
    rule.leadTree lead children = .node rule 0 (0 + Token.size ⟨0, lead⟩) lead children := by
  rw [leadTree, Nat.zero_add, Token.size, Text.Utf8.length_eq_utf8ByteSize]

/-- A rule for tokens matches the characters before the first blank, if there are any, and leaves a
single tree for them. -/
theorem parse?_eq_some_iff (rule : Rule) {tree : Token → Tree}
    (hrule : Grammar.TakesToken rule.expr tree)
    (hlead : text.toList.takeWhile (!Text.isBlank ·) = lead) :
    rule.parse? text = some trees ↔ lead ≠ [] ∧ trees = [tree ⟨0, lead⟩] := by
  rw [parse?, hrule, hlead]
  split
  · next hnil => simp [hnil]
  · next hne => simp [hne, eq_comm]

/-- An integer is those characters if they are digits only. Otherwise nothing is matched, not even
the digits in front. -/
theorem parse?_integer (hlead : text.toList.takeWhile (!Text.isBlank ·) = lead) :
    integer.parse? text =
      if Text.Digits.isNumeral lead then some [Token.integerTree ⟨0, lead⟩] else none := by
  rw [parse?, expr, Grammar.run_integer, hlead]
  split <;> rfl

/-- What a rule matches is decided by the characters before the first blank. They are a word and a command
if there are any, with a word in the command; an integer if they are digits only; and an argument if there
are any, with an integer in it if they are one and a word otherwise. A line always matches as a whole:
its tokens are its maximal runs of characters without a blank, the first of them is the command, the others
are arguments, each at the bytes where it stands, and the end of the line comes last. -/
theorem parse?_lead (text : String) :
    ∃ (lead : List Char) (tokens : List Token), IsLead lead text.toList ∧
      (∀ t : Token, t ∈ tokens ↔ t.IsRun 0 text.toList) ∧
      tokens.Pairwise (fun t u => t.span.stop < u.span.offset) ∧
      (∀ trees, word.parse? text = some trees ↔ lead ≠ [] ∧ trees = [word.leadTree lead []]) ∧
      (∀ trees, command.parse? text = some trees ↔
        lead ≠ [] ∧ trees = [command.leadTree lead [word.leadTree lead []]]) ∧
      (∀ trees, integer.parse? text = some trees ↔
        (lead ≠ [] ∧ ∀ c ∈ lead, c.isDigit) ∧ trees = [integer.leadTree lead []]) ∧
      (∀ trees, argument.parse? text = some trees ↔
        lead ≠ [] ∧ trees = [argument.leadTree lead
          [if (integer.parse? text).isSome then integer.leadTree lead []
            else word.leadTree lead []]]) ∧
      record.parse? text = some [.node .record 0 text.utf8ByteSize text.toList
        ((match tokens with
          | [] => []
          | first :: rest => first.commandTree :: rest.map Token.argumentTree) ++
            [.node .endOfInput text.utf8ByteSize text.utf8ByteSize [] []])] := by
  obtain ⟨lead, hlead⟩ : ∃ lead, text.toList.takeWhile (!Text.isBlank ·) = lead := ⟨_, rfl⟩
  -- which tree is inside an argument depends on whether the first token is an integer
  have hinteger : (integer.parse? text).isSome = Text.Digits.isNumeral lead := by
    rw [parse?_integer hlead]
    split <;> simp_all
  refine ⟨lead, Token.ofLine text, hlead ▸ isLead_takeWhile _, fun t => Token.mem_split_iff,
    (Token.pairwise_split 0 text.toList).imp fun h => h.stop_lt, ?_, ?_, ?_, ?_, ?_⟩
  · intro trees
    rw [parse?_eq_some_iff word Grammar.run_word hlead, leadTree_eq]
    rfl
  · intro trees
    rw [parse?_eq_some_iff command Grammar.run_command hlead, leadTree_eq, leadTree_eq]
    rfl
  · intro trees
    -- a numeral has at least one digit, and nothing else
    have hnumeral : Text.Digits.isNumeral lead = true ↔ lead ≠ [] ∧ ∀ c ∈ lead, c.isDigit := by
      simp [Text.Digits.isNumeral]
    rw [parse?_integer hlead, ← hnumeral, leadTree_eq]
    split
    · next htrue => simp [htrue, Token.integerTree, eq_comm]
    · next hfalse => simp [hfalse]
  · intro trees
    rw [parse?_eq_some_iff argument Grammar.run_argument hlead, hinteger, leadTree_eq,
      leadTree_eq, leadTree_eq]
    rfl
  · rw [Grammar.parse?_record, Text.Utf8.length_eq_utf8ByteSize, String.ofList_toList]
    rfl

/-- What is attached to digits is looked at as well, whether or not it is a digit. -/
example : (integer.parse? "12 a").isSome ∧ integer.parse? "12a" = none := by decide +kernel

end Rule

end PixelScript.Script
