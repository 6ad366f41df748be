import PixelScript.Script.Grammar
import PixelScript.Script.Token
import PixelScript.Text.Digits

/-!
# What the grammar matches

The rules of the grammar against the tokens of a line.

* `run_word`, `run_integer`, `run_argument` and `run_command`: each rule takes the characters up to
  the next blank, and fails where there are none or, for an integer, where one is no digit.
* `run_record`: the grammar matches every line. Its trees are those of the tokens, the first one as
  the command and the others as its arguments, and the end of the line.
-/

namespace PixelScript.Script

open Peg Peg.Expr

namespace Grammar

/-! ## Runs step by step

One equation for each way of putting expressions together, so that a run of a rule can be followed
without opening the interpreter of expressions again. -/

section Runs

variable {ρ : Type} {first second body : Expr ρ} {offset : Nat} {input : List Char} {m n : Match ρ}

theorem run_one_cons (accepts : Char → Bool) (offset : Nat) (c : Char) (rest : List Char) :
    (one accepts : Expr ρ).run offset (c :: rest) =
      if accepts c then some ⟨[], [c], rest⟩ else none := rfl

theorem run_seq_of_none (h : first.run offset input = none) :
    (seq first second).run offset input = none := by
  rw [Expr.run, h]

/-- The second expression of a sequence goes on where the first one stopped, and their matches are
joined. -/
theorem run_seq_of_some (h : first.run offset input = some m) :
    (seq first second).run offset input =
      (second.run (offset + m.size) m.ahead).map m.append := by
  rw [Expr.run, h]

/-- The second expression of a choice counts only where the first one fails. -/
theorem run_orElse_of_none (h : first.run offset input = none) :
    (orElse first second).run offset input = second.run offset input := by
  rw [Expr.run, h]

/-- A choice that has matched with its first expression does not come back to the second one. -/
theorem run_orElse_of_some (h : first.run offset input = some m) :
    (orElse first second).run offset input = some m := by
  rw [Expr.run, h]

/-- A repetition never fails. It is as long as it can be. -/
theorem run_star (body : Expr ρ) (offset : Nat) (input : List Char) :
    (star body).run offset input = some (repeated body.run offset input) := rfl

/-- A rule takes what its body takes, and puts the trees of the body into one of its own. -/
theorem run_node (rule : ρ) (body : Expr ρ) (offset : Nat) (input : List Char) :
    (node rule body).run offset input = (body.run offset input).map fun m =>
      { m with trees := [.node rule offset (offset + m.size) m.taken m.trees] } := rfl

/-- The bytes of a match behind another are those of both, so the second one begins where the first
one ends. -/
theorem size_append (m n : Match ρ) : (m.append n).size = m.size + n.size := by
  rw [Match.size, Match.append, Text.Utf8.length_append, Match.size, Match.size]

/-- A sequence of three may be grouped either way. Whichever expression fails first makes both sides
fail, and otherwise the third one goes on at the same place on both sides. -/
theorem run_seq_assoc (first second third : Expr ρ) (offset : Nat) (input : List Char) :
    (seq first (seq second third)).run offset input =
      (seq (seq first second) third).run offset input := by
  cases hm : first.run offset input with
  | none => rw [run_seq_of_none hm, run_seq_of_none (run_seq_of_none hm)]
  | some m =>
    cases hn : second.run (offset + m.size) m.ahead with
    | none =>
      have hinner : (seq first second).run offset input = none := by
        rw [run_seq_of_some hm, hn]
        rfl
      rw [run_seq_of_some hm, run_seq_of_none hn, run_seq_of_none hinner]
      rfl
    | some n =>
      have hinner : (seq first second).run offset input = some (m.append n) := by
        rw [run_seq_of_some hm, hn]
        rfl
      have happend : m.append ∘ n.append = (m.append n).append := by
        funext k
        simp [Match.append]
      -- either way the third expression goes on where the second one stopped
      rw [run_seq_of_some hm, run_seq_of_some hn, run_seq_of_some hinner, size_append,
        Nat.add_assoc, Option.map_map, happend]
      rfl

theorem repeated_of_none {run : Nat → List Char → Option (Match ρ)}
    (h : run offset input = none) : repeated run offset input = .nothing input := by
  rw [repeated, h]

/-- Where the body takes something, the repetition goes on behind it. The guard against a body that
takes nothing is not met, because something was taken and so something lay ahead. -/
theorem repeated_of_some {run : Nat → List Char → Option (Match ρ)}
    (h : run offset input = some m) (htaken : m.taken ≠ []) (hsplit : m.taken ++ m.ahead = input) :
    repeated run offset input = m.append (repeated run (offset + m.size) m.ahead) := by
  -- the guard that ends a repetition of nothing does not apply
  have hempty : ¬(m.taken.isEmpty || input.isEmpty) = true := by
    rw [← hsplit]
    simp [htaken]
  have hdrop : input.drop m.taken.length = m.ahead := by
    rw [← hsplit, List.drop_left]
  rw [repeated, h]
  simp only [if_neg hempty, hdrop]

end Runs

/-! ## Runs of one class of characters

A repeated character class takes the longest part of the text that belongs to the class. This is the
one place where it is seen that a repetition gives nothing back. -/

/-- A repeated class takes exactly the characters up to the first one outside of it. Induction on
the text: the repetition ends where the class fails, and otherwise goes on behind one character. -/
theorem repeated_one {ρ : Type} (accepts : Char → Bool) (offset : Nat) (input : List Char) :
    repeated (one accepts : Expr ρ).run offset input =
      ⟨[], input.takeWhile accepts, input.dropWhile accepts⟩ := by
  induction input generalizing offset with
  | nil => exact repeated_of_none rfl
  | cons c rest ih =>
    cases hc : accepts c with
    | false =>
      rw [repeated_of_none (by rw [run_one_cons, hc]; rfl)]
      simp [Match.nothing, hc]
    | true =>
      have hrun : (one accepts : Expr ρ).run offset (c :: rest) = some ⟨[], [c], rest⟩ := by
        rw [run_one_cons, hc]
        rfl
      rw [repeated_of_some hrun (by simp) rfl, ih]
      simp [Match.append, hc]

/-- At least one character of a class is the same as a part of the text that is not empty. With no
such character the run fails, where the mere repetition would succeed. -/
theorem run_plus_one {ρ : Type} (accepts : Char → Bool) (offset : Nat) (input : List Char) :
    (plus (one accepts) : Expr ρ).run offset input =
      if input.takeWhile accepts = [] then none
      else some ⟨[], input.takeWhile accepts, input.dropWhile accepts⟩ := by
  cases input with
  | nil => rfl
  | cons c rest =>
    cases hc : accepts c with
    | false =>
      rw [plus, run_seq_of_none (by rw [run_one_cons, hc]; rfl)]
      simp [hc]
    | true =>
      have hrun : (one accepts : Expr ρ).run offset (c :: rest) = some ⟨[], [c], rest⟩ := by
        rw [run_one_cons, hc]
        rfl
      rw [plus, run_seq_of_some hrun, run_star, repeated_one]
      simp [Match.append, hc]

/-- To take a character that does not begin a blank is to take one that is no blank. -/
theorem run_solid :
    (seq (notAhead blank) any).run = (one (!Text.isBlank ·) : Expr Rule).run := by
  funext offset input
  cases input with
  | nil => rfl
  | cons c rest =>
    cases hc : Text.isBlank c <;>
      simp [Expr.run, blank, any, hc, Match.append, Match.nothing]

/-- At least one character before the next blank, in the form of `run_plus_one`. The two bodies run
alike everywhere (`run_solid`), so their repetitions do. -/
theorem run_plus_solid (offset : Nat) (input : List Char) :
    (plus (seq (notAhead blank) any)).run offset input =
      (plus (one (!Text.isBlank ·)) : Expr Rule).run offset input := by
  cases h : (seq (notAhead blank) any).run offset input with
  | none => rw [plus, plus, run_seq_of_none h, run_seq_of_none (run_solid ▸ h)]
  | some m =>
    rw [plus, plus, run_seq_of_some h, run_seq_of_some (run_solid ▸ h), run_star, run_star,
      run_solid]

end Grammar

/-! ## The trees of tokens

The tree that each rule leaves for a token, and how tokens follow one another in a text that begins
with blanks or with a word. -/

namespace Token

/-- The token as a word. -/
def wordTree (t : Token) : Tree := .node .word t.offset (t.offset + t.size) t.chars []

/-- The token as an integer. -/
def integerTree (t : Token) : Tree := .node .integer t.offset (t.offset + t.size) t.chars []

/-- The token where a command stands. -/
def commandTree (t : Token) : Tree :=
  .node .command t.offset (t.offset + t.size) t.chars [t.wordTree]

/-- The token where an argument stands: an integer if it is made of digits only. -/
def argumentTree (t : Token) : Tree :=
  .node .argument t.offset (t.offset + t.size) t.chars
    [if Text.Digits.isNumeral t.chars then t.integerTree else t.wordTree]

/-- Blanks at the beginning of a text belong to no token. They only move the places of the tokens by
their own length. Induction on the blanks. -/
theorem split_append_blanks {gap : List Char} (hgap : ∀ c ∈ gap, Text.isBlank c)
    (offset : Nat) (rest : List Char) :
    split offset (gap ++ rest) = split (offset + Text.Utf8.length gap) rest := by
  induction gap generalizing offset with
  | nil => rfl
  | cons c gap ih =>
    rw [List.cons_append, split_blank (hgap c (by simp)),
      ih (fun d hd => hgap d (List.mem_cons_of_mem _ hd)), Text.Utf8.length_cons, Nat.add_assoc]

theorem split_blanks {gap : List Char} (hgap : ∀ c ∈ gap, Text.isBlank c) (offset : Nat) :
    split offset gap = [] := by
  have h := split_append_blanks hgap offset []
  rwa [List.append_nil, split_nil] at h

/-- The characters up to the first blank, if there are any, are the first token. The form of
`Token.split_solid` that asks about a run of characters and not about the first of them. -/
theorem split_of_takeWhile {input : List Char} (h : input.takeWhile (!Text.isBlank ·) ≠ [])
    (offset : Nat) :
    split offset input =
      ⟨offset, input.takeWhile (!Text.isBlank ·)⟩ ::
        split (offset + Text.Utf8.length (input.takeWhile (!Text.isBlank ·)))
          (input.dropWhile (!Text.isBlank ·)) := by
  cases input with
  | nil => exact absurd rfl h
  | cons c rest =>
    cases hc : Text.isBlank c with
    | true => simp [hc] at h
    | false => rw [split_solid hc]; simp [hc]

end Token

namespace Grammar

open Text.Digits (isNumeral)

/-! ## Words and integers

The two rules that leave the innermost trees. A word takes everything up to the next blank. An
integer takes the same if that is digits only, and otherwise fails, although there may be digits in
front. -/

/-- A word takes the characters up to the next blank, and fails where there are none. -/
theorem run_word (offset : Nat) (input : List Char) :
    word.run offset input =
      if input.takeWhile (!Text.isBlank ·) = [] then none
      else some ⟨[Token.wordTree ⟨offset, input.takeWhile (!Text.isBlank ·)⟩],
        input.takeWhile (!Text.isBlank ·), input.dropWhile (!Text.isBlank ·)⟩ := by
  rw [word, run_node, run_plus_solid, run_plus_one]
  split <;> rfl

/-- What an integer looks ahead for: a blank or the end. Either way there is no character of a word
next. -/
theorem run_integer_end (offset : Nat) (input : List Char) :
    (ahead (orElse blank endOfInput)).run offset input =
      if input.takeWhile (!Text.isBlank ·) = [] then some (.nothing input) else none := by
  cases input with
  | nil => rfl
  | cons c rest =>
    cases hc : Text.isBlank c <;> simp [Expr.run, blank, endOfInput, hc]

/-- Digits are no blanks, so a run of digits never reaches beyond its word. -/
theorem digits_solid {digits : List Char} (hdigits : ∀ c ∈ digits, c.isDigit) :
    ∀ c ∈ digits, (!Text.isBlank c) = true := by
  intro c hc
  rw [Text.not_isBlank_of_isDigit (hdigits c hc)]
  rfl

/-- Digits with a solid character attached that is no digit are no numeral, since not all of the
word is digits. -/
theorem isNumeral_append_of_not_digit {digits attached : List Char} {c : Char}
    (hc : c.isDigit = false) : isNumeral (digits ++ c :: attached) = false := by
  have hall : (digits ++ c :: attached).all Char.isDigit = false := by
    rw [List.all_append, List.all_cons, hc, Bool.false_and, Bool.and_false]
  rw [isNumeral, hall, Bool.and_false]

/-- A text begins with a run of digits that no further digit follows. The run may be empty. -/
theorem exists_digits (input : List Char) :
    ∃ digits rest, input = digits ++ rest ∧ (∀ c ∈ digits, c.isDigit) ∧
      input.takeWhile Char.isDigit = digits ∧ input.dropWhile Char.isDigit = rest ∧
      ∀ c after, rest = c :: after → c.isDigit = false := by
  refine ⟨_, _, List.takeWhile_append_dropWhile.symm, ?_, rfl, rfl, ?_⟩
  · exact List.all_eq_true.1 List.all_takeWhile
  · intro c after hrest
    have h := List.head?_dropWhile_not Char.isDigit input
    rw [hrest] at h
    simpa using h

/-- An integer takes the characters up to the next blank if they are digits and there is at least
one, and fails otherwise. The digits in front are taken first, and then the look ahead decides: they
are the whole word, or a character that is no digit is attached to them. -/
theorem run_integer (offset : Nat) (input : List Char) :
    integer.run offset input =
      if isNumeral (input.takeWhile (!Text.isBlank ·)) then
        some ⟨[Token.integerTree ⟨offset, input.takeWhile (!Text.isBlank ·)⟩],
          input.takeWhile (!Text.isBlank ·), input.dropWhile (!Text.isBlank ·)⟩
      else none := by
  obtain ⟨digits, rest, rfl, hall, htake, hdrop, hstop⟩ := exists_digits input
  rw [integer, run_node, List.takeWhile_append_of_pos (digits_solid hall),
    List.dropWhile_append_of_pos (digits_solid hall)]
  -- the rule takes as many digits as there are, before it looks at what follows
  have hdigits : (plus (one Char.isDigit) : Expr Rule).run offset (digits ++ rest) =
      if digits = [] then none else some ⟨[], digits, rest⟩ := by
    rw [run_plus_one, htake, hdrop]
  by_cases hend : rest.takeWhile (!Text.isBlank ·) = []
  · -- the digits are the whole word
    have hrest : rest.dropWhile (!Text.isBlank ·) = rest := by
      have h := List.takeWhile_append_dropWhile (p := (!Text.isBlank ·)) (l := rest)
      rwa [hend, List.nil_append] at h
    rw [hend, hrest, List.append_nil]
    by_cases hnil : digits = []
    · rw [run_seq_of_none (by rw [hdigits, if_pos hnil]), hnil]
      rfl
    · have hnumeral : isNumeral digits = true := by
        rw [isNumeral, List.all_eq_true.2 hall, Bool.and_true]
        simpa using hnil
      rw [run_seq_of_some (by rw [hdigits, if_neg hnil]), run_integer_end, if_pos hend, hnumeral]
      simp [Token.integerTree, Token.size, Match.append, Match.nothing, Match.size]
  · -- the character after the digits is attached to them
    cases rest with
    | nil => exact absurd rfl hend
    | cons c after =>
      have hb : Text.isBlank c = false := by
        cases hb : Text.isBlank c with
        | false => rfl
        | true => simp [hb] at hend
      have hattached : (c :: after).takeWhile (!Text.isBlank ·) =
          c :: after.takeWhile (!Text.isBlank ·) := by
        simp [hb]
      rw [hattached, isNumeral_append_of_not_digit (hstop c after rfl)]
      by_cases hnil : digits = []
      · rw [run_seq_of_none (by rw [hdigits, if_pos hnil])]
        rfl
      · rw [run_seq_of_some (by rw [hdigits, if_neg hnil]), run_integer_end, hattached]
        rfl

/-! ## Commands and arguments

Both rules take one token each. What a line is made of is therefore known as soon as it is known
which of its tokens is matched by which rule. -/

/-- A rule that takes the characters up to the next blank, and leaves a tree for them. -/
def TakesToken (e : Expr Rule) (tree : Token → Tree) : Prop :=
  ∀ offset input, e.run offset input =
    if input.takeWhile (!Text.isBlank ·) = [] then none
    else some ⟨[tree ⟨offset, input.takeWhile (!Text.isBlank ·)⟩],
      input.takeWhile (!Text.isBlank ·), input.dropWhile (!Text.isBlank ·)⟩

theorem run_command : TakesToken command Token.commandTree := by
  intro offset input
  rw [command, run_node, run_word]
  split <;> rfl

/-- An argument takes the next token, as an integer if it is one and as a word otherwise. An integer
takes the whole token or fails, so the choice never stops inside of a token. -/
theorem run_argument : TakesToken argument Token.argumentTree := by
  intro offset input
  rw [argument, run_node]
  cases hnumeral : isNumeral (input.takeWhile (!Text.isBlank ·)) with
  | true =>
    have hne : input.takeWhile (!Text.isBlank ·) ≠ [] := by
      intro h
      rw [h] at hnumeral
      cases hnumeral
    rw [run_orElse_of_some (by rw [run_integer, if_pos hnumeral]), if_neg hne]
    simp [Token.argumentTree, Token.size, Match.size, hnumeral]
  | false =>
    rw [run_orElse_of_none (by rw [run_integer, hnumeral]; rfl), run_word]
    split
    · rfl
    · simp [Token.argumentTree, Token.size, Match.size, hnumeral]

/-! ## A whole line

The blanks between the words of a line are taken by gaps, and each gap is followed by a token or by
the end. Going through a line is one lemma about a single token (`run_next`), applied to the command
and then to each argument. -/

theorem run_gap (offset : Nat) (input : List Char) :
    (star blank).run offset input =
      some ⟨[], input.takeWhile Text.isBlank, input.dropWhile Text.isBlank⟩ := by
  rw [run_star, blank, repeated_one]

/-- An expression behind a gap starts at the next character that is no blank. The gap adds its
characters to the match, and no tree. -/
theorem run_after_gap (e : Expr Rule) (offset : Nat) (input : List Char) :
    (seq (star blank) e).run offset input =
      (e.run (offset + Text.Utf8.length (input.takeWhile Text.isBlank))
        (input.dropWhile Text.isBlank)).map fun m =>
          ⟨m.trees, input.takeWhile Text.isBlank ++ m.taken, m.ahead⟩ := by
  rw [run_seq_of_some (run_gap offset input)]
  rfl

/-- After a gap, a rule for tokens takes the next token of the line, if there is one. If there is
none, then only blanks are left and the rule fails. -/
theorem run_next {e : Expr Rule} {tree : Token → Tree} (he : TakesToken e tree) (offset : Nat)
    (input : List Char) :
    ((∀ c ∈ input, Text.isBlank c) ∧ (seq (star blank) e).run offset input = none) ∨
      ∃ gap t rest, t.chars ≠ [] ∧ gap ++ t.chars ++ rest = input ∧
        offset + Text.Utf8.length (gap ++ t.chars) = t.offset + t.size ∧
        (seq (star blank) e).run offset input = some ⟨[tree t], gap ++ t.chars, rest⟩ ∧
        Token.split offset input = t :: Token.split (t.offset + t.size) rest := by
  obtain ⟨gap, hgap⟩ : ∃ gap, input.takeWhile Text.isBlank = gap := ⟨_, rfl⟩
  obtain ⟨after, hafter⟩ : ∃ after, input.dropWhile Text.isBlank = after := ⟨_, rfl⟩
  have hinput : gap ++ after = input := by
    rw [← hgap, ← hafter, List.takeWhile_append_dropWhile]
  have hblank : ∀ c ∈ gap, Text.isBlank c := by
    rw [← hgap]
    exact List.all_eq_true.1 List.all_takeWhile
  have hrun := run_after_gap e offset input
  rw [hgap, hafter, he] at hrun
  by_cases hword : after.takeWhile (!Text.isBlank ·) = []
  · left
    -- there is no word behind the gap, so nothing but the gap is left
    rw [if_pos hword] at hrun
    refine ⟨?_, hrun⟩
    cases after with
    | nil =>
      rw [← hinput, List.append_nil]
      exact hblank
    | cons c after =>
      -- a gap that is followed by something ends before a word
      have hc := List.head?_dropWhile_not Text.isBlank input
      rw [hafter] at hc
      simp [show Text.isBlank c = false by simpa using hc] at hword
  · right
    -- the token begins behind the gap
    rw [if_neg hword] at hrun
    refine ⟨gap, ⟨offset + Text.Utf8.length gap, _⟩, _, hword, ?_, ?_, hrun, ?_⟩
    · rw [List.append_assoc, List.takeWhile_append_dropWhile, hinput]
    · rw [Text.Utf8.length_append, Token.size, Nat.add_assoc]
    · rw [← hinput, Token.split_append_blanks hblank, Token.split_of_takeWhile hword]
      rfl

/-- The same for a token that may be missing, with an expression for what follows it. A line that
has come to its end is matched as well, by taking nothing. -/
theorem run_opt_next {e : Expr Rule} {tree : Token → Tree} (he : TakesToken e tree)
    (next : Expr Rule) (offset : Nat) (input : List Char) :
    (Token.split offset input = [] ∧ ∃ m,
        (seq (star blank) (opt (seq e next))).run offset input = some m ∧
          m.trees = [] ∧ ∀ c ∈ m.ahead, Text.isBlank c) ∨
      ∃ t rest, Token.split offset input = t :: Token.split (t.offset + t.size) rest ∧
        ∀ n, next.run (t.offset + t.size) rest = some n → ∃ m,
          (seq (star blank) (opt (seq e next))).run offset input = some m ∧
            m.trees = tree t :: n.trees ∧ m.ahead = n.ahead := by
  have hstart := run_after_gap e offset input
  rw [run_after_gap]
  rcases run_next he offset input with
    ⟨hblank, hrun⟩ | ⟨gap, t, rest, -, -, hstop, hrun, hsplit⟩
  · left
    rw [hrun, eq_comm, Option.map_eq_none_iff] at hstart
    rw [Expr.run, run_seq_of_none hstart]
    refine ⟨Token.split_blanks hblank offset, _, rfl, rfl, ?_⟩
    intro c hc
    exact hblank c ((List.dropWhile_sublist _).subset hc)
  · right
    rw [hrun, eq_comm, Option.map_eq_some_iff] at hstart
    obtain ⟨first, hfirst, heq⟩ := hstart
    rw [Match.mk.injEq] at heq
    obtain ⟨htrees, htaken, hahead⟩ := heq
    -- where the rule stops is where the token ends, counted from the beginning of the line
    have hoffset : offset + Text.Utf8.length (input.takeWhile Text.isBlank) + first.size =
        t.offset + t.size := by
      rw [← hstop, ← htaken, Text.Utf8.length_append, Match.size, Nat.add_assoc]
    refine ⟨t, rest, hsplit, ?_⟩
    intro n hn
    rw [Expr.run, run_seq_of_some hfirst, hoffset, hahead, hn]
    refine ⟨_, rfl, ?_, rfl⟩
    show first.trees ++ n.trees = _
    rw [htrees]
    rfl

/-- Arguments are matched up to the blanks at the end of the line, one for each token that is left.
By recursion on the length of what is left, as in `repeated` itself. -/
theorem repeated_argument (offset : Nat) (input : List Char) :
    (repeated (seq (star blank) argument).run offset input).trees =
        (Token.split offset input).map Token.argumentTree ∧
      ∀ c ∈ (repeated (seq (star blank) argument).run offset input).ahead, Text.isBlank c := by
  rcases run_next run_argument offset input with
    ⟨hblank, hrun⟩ | ⟨gap, t, rest, hword, hinput, hstop, hrun, hsplit⟩
  · rw [repeated_of_none hrun, Token.split_blanks hblank]
    exact ⟨rfl, hblank⟩
  · have htaken : gap ++ t.chars ≠ [] := List.append_ne_nil_of_right_ne_nil _ hword
    -- the recursion is on the rest of the line behind the next argument
    have hshorter : rest.length < input.length := by
      rw [← hinput, List.length_append]
      have := List.length_pos_iff.2 htaken
      omega
    obtain ⟨htrees, hahead⟩ := repeated_argument (t.offset + t.size) rest
    rw [repeated_of_some hrun htaken hinput, hsplit, List.map_cons, ← htrees]
    rw [← hstop] at hahead ⊢
    exact ⟨rfl, hahead⟩
termination_by input.length

/-- What stands after the command are arguments and the blanks at the end of the line. -/
theorem run_arguments (offset : Nat) (input : List Char) :
    ∃ m, (seq (star blank) (spacedStar blank argument)).run offset input = some m ∧
      m.trees = (Token.split offset input).map Token.argumentTree ∧
      ∀ c ∈ m.ahead, Text.isBlank c := by
  rcases run_opt_next run_argument (star (seq (star blank) argument)) offset input with
    ⟨hsplit, m, hrun, htrees, hend⟩ | ⟨t, rest, hsplit, hnext⟩
  · rw [hsplit]
    exact ⟨m, hrun, htrees, hend⟩
  · obtain ⟨hothers, hend⟩ := repeated_argument (t.offset + t.size) rest
    obtain ⟨m, hrun, htrees, hahead⟩ := hnext _ (run_star _ _ _)
    rw [hothers] at htrees
    rw [hsplit]
    exact ⟨m, hrun, htrees, hahead ▸ hend⟩

/-- The trees of a line's tokens: the first one is the command, and the others are arguments. -/
def lineTrees : List Token → List Tree
  | [] => []
  | t :: rest => t.commandTree :: rest.map Token.argumentTree

/-- The command and its arguments, with the blanks before and between them. A line without tokens
has neither. -/
theorem run_words (offset : Nat) (input : List Char) :
    ∃ m, (seq (star blank) (opt (spaced blank command (spacedStar blank argument)))).run
        offset input = some m ∧
      m.trees = lineTrees (Token.split offset input) ∧ ∀ c ∈ m.ahead, Text.isBlank c := by
  rcases run_opt_next run_command (seq (star blank) (spacedStar blank argument)) offset input with
    ⟨hsplit, m, hrun, htrees, hend⟩ | ⟨t, rest, hsplit, hnext⟩
  · rw [hsplit]
    exact ⟨m, hrun, htrees, hend⟩
  · obtain ⟨n, hn, harguments, hend⟩ := run_arguments (t.offset + t.size) rest
    obtain ⟨m, hrun, htrees, hahead⟩ := hnext n hn
    rw [harguments] at htrees
    rw [hsplit]
    exact ⟨m, hrun, htrees, hahead ▸ hend⟩

/-- When only blanks are left, they are taken up and the end of the line is found behind them. -/
theorem run_end {input : List Char} (hblank : ∀ c ∈ input, Text.isBlank c) (offset : Nat) :
    (seq (star blank) endOfInput).run offset input =
      some ⟨[.node .endOfInput (offset + Text.Utf8.length input)
        (offset + Text.Utf8.length input) [] []], input, []⟩ := by
  have hgap : input.takeWhile Text.isBlank = input := by
    have h : (input ++ []).takeWhile Text.isBlank = input ++ [].takeWhile Text.isBlank :=
      List.takeWhile_append_of_pos hblank
    rwa [List.takeWhile_nil, List.append_nil] at h
  have hrest : input.dropWhile Text.isBlank = [] := by
    have h := List.takeWhile_append_dropWhile (p := Text.isBlank) (l := input)
    rw [hgap] at h
    exact List.append_cancel_left (h.trans (List.append_nil _).symm)
  -- the gap takes everything, so nothing lies ahead of the end
  rw [run_after_gap, hgap, hrest]
  simp [endOfInput, Expr.run, Match.nothing, Match.size]

/-- The grammar matches every line from its beginning to its end. The words are matched first
(`run_words`), and they leave nothing but blanks, which `run_end` takes up. -/
theorem run_record (input : List Char) :
    record.run 0 input =
      some ⟨[.node .record 0 (Text.Utf8.length input) input
        (lineTrees (Token.split 0 input) ++
          [.node .endOfInput (Text.Utf8.length input) (Text.Utf8.length input) [] []])],
        input, []⟩ := by
  obtain ⟨m, hrun, htrees, hend⟩ := run_words 0 input
  have hsplit := run_append _ hrun
  have hlength : 0 + m.size + Text.Utf8.length m.ahead = Text.Utf8.length input := by
    rw [← hsplit, Text.Utf8.length_append, Match.size, Nat.zero_add]
  have hbody : (spaced blank start (spaced blank (opt (spaced blank command
      (spacedStar blank argument))) endOfInput)).run 0 input =
        some ⟨lineTrees (Token.split 0 input) ++
          [.node .endOfInput (Text.Utf8.length input) (Text.Utf8.length input) [] []],
          input, []⟩ := by
    have hstart : (start : Expr Rule).run 0 input = some (.nothing input) := rfl
    have hlast := run_end hend (0 + m.size)
    rw [hlength] at hlast
    -- regrouped, so that the words come first and the end of the line after them
    rw [spaced, run_seq_of_some hstart, spaced, run_seq_assoc]
    show Option.map _ ((seq _ _).run 0 input) = _
    rw [run_seq_of_some hrun, hlast, ← htrees]
    simp [Match.append, Match.nothing, hsplit]
  rw [record, run_node, hbody]
  simp [Match.size]

/-- The trees of a line: one record with the line's tokens and the end of the line in it. No line is
refused by the grammar. -/
theorem parse?_record (line : String) :
    Rule.record.parse? line =
      some [.node .record 0 (Text.Utf8.length line.toList) line.toList
        (lineTrees (Token.ofLine line) ++
          [.node .endOfInput (Text.Utf8.length line.toList) (Text.Utf8.length line.toList) [] []])]
      := by
  rw [Rule.parse?, Rule.expr, run_record]
  rfl

end Grammar

end PixelScript.Script
