import PixelScript.Proofs.Script.Binding

/-!
# Lines that spell commands

A command is spelled by its verb's letter and one word for each of its fields. The command that a
line's words spell, if there is one, is the command that the line is read as
(`Command.bind_ofWord_eq_ok_iff`), so it is the only one. Conversely every command can be written
down as a line (`Command.spelledBy_line`).
-/

namespace PixelScript.Script

/-! ## The words of a line

How the words of a line change when something is added to the line. A text can be cut before a
blank, and a word that is followed by a blank or by nothing is a token of its own. -/

theorem words_ofList (cs : List Char) :
    words (String.ofList cs) = (Token.split 0 cs).map Token.chars := by
  rw [words, Token.ofLine, String.toList_ofList]

/-- A run of characters ends at the first blank, so a blank and whatever follows it have no effect
on the run. Induction on the text before the blank. -/
theorem Token.takeWhile_append_blank {c : Char} (hc : Text.isBlank c) (before rest : List Char) :
    (before ++ c :: rest).takeWhile (!Text.isBlank ·) = before.takeWhile (!Text.isBlank ·) ∧
      (before ++ c :: rest).dropWhile (!Text.isBlank ·) =
        before.dropWhile (!Text.isBlank ·) ++ c :: rest := by
  induction before with
  | nil => simp [hc]
  | cons d before ih => cases hd : Text.isBlank d <;> simp [hd, ih]

/-- A text can be cut before a blank, since no token goes on beyond one. Induction on the text
before the blank in the way in which it is split: it is empty, it begins with a blank, or it begins
with a token, which ends before the cut. -/
theorem Token.split_append_blank {c : Char} (hc : Text.isBlank c) (offset : Nat)
    (before rest : List Char) :
    split offset (before ++ c :: rest) =
      split offset before ++ split (offset + Text.Utf8.length before) (c :: rest) := by
  induction offset, before using split.induct with
  | case1 offset => rw [split_nil]; rfl
  | case2 offset d before hd ih =>
    rw [List.cons_append, split_blank hd, split_blank hd, ih, Text.Utf8.length_cons, Nat.add_assoc]
  | case3 offset d before hd word ih =>
    rw [Bool.not_eq_true] at hd
    obtain ⟨htake, hdrop⟩ := takeWhile_append_blank hc before rest
    -- the token and what remains before the cut take as many bytes as the text before it
    have hbefore : Text.Utf8.length word + Text.Utf8.length (before.dropWhile (!Text.isBlank ·)) =
        Text.Utf8.length (d :: before) := by
      rw [← Text.Utf8.length_append, List.cons_append, List.takeWhile_append_dropWhile]
    rw [List.cons_append, split_solid hd, split_solid hd, htake, hdrop, List.cons_append]
    rw [ih, Nat.add_assoc, hbefore]

/-- A word at the beginning of a text that ends or goes on with a blank is the first token. -/
theorem Token.split_append_of_isWord {word rest : List Char} (hword : IsWord word)
    (hrest : rest.takeWhile (!Text.isBlank ·) = []) (offset : Nat) :
    split offset (word ++ rest) = ⟨offset, word⟩ :: split (offset + Text.Utf8.length word) rest := by
  have hsolid : ∀ c ∈ word, (!Text.isBlank c) = true := by
    intro c hc
    rw [hword.2 c hc]
    rfl
  have htake : (word ++ rest).takeWhile (!Text.isBlank ·) = word := by
    rw [List.takeWhile_append_of_pos hsolid, hrest, List.append_nil]
  have hdrop : (word ++ rest).dropWhile (!Text.isBlank ·) = rest := by
    have h := List.takeWhile_append_dropWhile (p := (!Text.isBlank ·)) (l := word ++ rest)
    rw [htake] at h
    exact List.append_cancel_left h
  rw [split_of_takeWhile (by rw [htake]; exact hword.1), htake, hdrop]

/-- A word at the beginning of a text that ends or goes on with a blank is its first word, wherever
the text stands in a line. Only the places of the words behind it depend on that. -/
theorem map_chars_split_append {word rest : List Char} (hword : IsWord word)
    (hrest : rest.takeWhile (!Text.isBlank ·) = []) (offset : Nat) :
    (Token.split offset (word ++ rest)).map Token.chars =
      word :: (Token.split 0 rest).map Token.chars := by
  rw [Token.split_append_of_isWord hword hrest, List.map_cons, Token.map_chars_split _ 0]

/-- Words with one blank between each two are the words of the line that they make. Induction on the
words, with a line of a single word apart, which has no blank in it. -/
theorem words_intercalate {ws : List (List Char)} (hws : ∀ w ∈ ws, IsWord w) :
    words (String.ofList ([' '].intercalate ws)) = ws := by
  rw [words_ofList]
  induction ws with
  | nil =>
    show (Token.split 0 []).map Token.chars = []
    rw [Token.split_nil]
    rfl
  | cons w rest ih =>
    have hw : IsWord w := hws w List.mem_cons_self
    have ih := ih (fun v hv => hws v (List.mem_cons_of_mem _ hv))
    cases rest with
    | nil =>
      have h := @map_chars_split_append w [] hw rfl 0
      simpa using h
    | cons v rest =>
      -- the blank behind the word ends it
      rw [List.intercalate_cons_cons, List.append_assoc, List.singleton_append,
        map_chars_split_append hw (by rfl), Token.split_blank (by decide),
        Token.map_chars_split _ 0, ih]

/-! ## Letters

Verbs are named by single letters, which are words as they stand. -/

/-- The letter as a character. -/
def Verb.initial : Verb → Char
  | .create => 'I'
  | .clear => 'C'
  | .paint => 'L'
  | .vertical => 'V'
  | .horizontal => 'H'
  | .fill => 'F'
  | .print => 'S'

theorem Verb.toList_letter (v : Verb) : v.letter.toList = [v.initial] := by
  cases v <;> simp [letter, initial]

/-- The letter of a verb has no blank in it, so it is a word of a line. -/
theorem Verb.isWord_letter (v : Verb) : IsWord v.letter.toList := by
  cases v <;> simp [IsWord, letter, Text.isBlank]

/-! ## Commands

What it means that words spell a command, and that this is what binding finds out. On the one side
there is the number of the words and a condition on each of them, on the other side the binder with
its order of checks. -/

namespace Command

/-- The words are the letter of the verb and the spellings of the fields. -/
def SpelledBy (c : Command) (ws : List (List Char)) : Prop :=
  ∃ arguments, ws = c.verb.letter.toList :: arguments ∧
    List.Forall₂ (fun word f => f.SpelledBy word) arguments c.fields

/-- If a line begins with the letter of a verb, it can only spell a command of that verb, as letters
are different. What remains is that its other words spell the fields. -/
theorem spelledBy_cons_iff {c : Command} {verb : Verb} {arguments : List (List Char)} :
    c.SpelledBy (verb.letter.toList :: arguments) ↔
      c.verb = verb ∧ List.Forall₂ (fun word f => f.SpelledBy word) arguments c.fields := by
  constructor
  · rintro ⟨_, heq, hall⟩
    obtain ⟨hletter, rfl⟩ := List.cons.inj heq
    exact ⟨(Verb.letter_inj.1 (String.toList_inj.1 hletter)).symm, hall⟩
  · rintro ⟨rfl, hall⟩
    exact ⟨arguments, rfl, hall⟩

/-- The command that prints takes no arguments, so it is spelled by its letter alone. -/
theorem spelledBy_print_iff {ws : List (List Char)} : print.SpelledBy ws ↔ ws = [['S']] := by
  have hletter : Verb.print.letter.toList = ['S'] := Verb.toList_letter .print
  constructor
  · rintro ⟨arguments, rfl, hall⟩
    cases hall
    exact congrArg (· :: []) hletter
  · rintro rfl
    exact ⟨[], congrArg (· :: []) hletter.symm, .nil⟩

/-- The values of words give the fields that the words spell. Induction on the words: a word and its
field are compared by `field?_ofWord_eq_some_iff`, and lists of different lengths match on neither
side. -/
theorem forall₂_field?_ofWord {arguments : List (List Char)} (hne : ∀ w ∈ arguments, w ≠ [])
    {fields : List Field} :
    List.Forall₂ (fun v f => f.place.field? v = some f)
        (arguments.map (Value.ofWord Number.clamp)) fields ↔
      List.Forall₂ (fun word f => f.SpelledBy word) arguments fields := by
  induction arguments generalizing fields with
  | nil => rw [List.map_nil, List.forall₂_nil_left_iff, List.forall₂_nil_left_iff]
  | cons w rest ih =>
    have ih := @ih (fun v hv => hne v (List.mem_cons_of_mem _ hv))
    cases fields with
    | nil =>
      constructor <;>
      · intro h
        cases h
    | cons f fields =>
      rw [List.map_cons, List.forall₂_cons, List.forall₂_cons, ih,
        field?_ofWord_eq_some_iff (hne w List.mem_cons_self)]

/-- Binding a verb to the values of words gives the command that the verb's letter and the words
spell. As binding is a function, a line spells one command at most. -/
theorem bind_ofWord_eq_ok_iff {verb : Verb} {arguments : List (List Char)}
    (hne : ∀ w ∈ arguments, w ≠ []) {c : Command} :
    bind verb (arguments.map (Value.ofWord Number.clamp)) = .ok c ↔
      c.SpelledBy (verb.letter.toList :: arguments) := by
  rw [bind_eq_ok_iff, forall₂_field?_ofWord hne, spelledBy_cons_iff]

/-- Every field of a command is spelled by one of the words that spell the command. Induction on the
pairs of words and fields. -/
theorem exists_word_of_mem {arguments : List (List Char)} {fields : List Field}
    (hall : List.Forall₂ (fun word f => f.SpelledBy word) arguments fields) {f : Field}
    (hf : f ∈ fields) : ∃ word ∈ arguments, f.SpelledBy word := by
  induction hall with
  | nil => cases hf
  | @cons word g arguments fields hhead _ ih =>
    rcases List.mem_cons.1 hf with rfl | hf
    · exact ⟨word, List.mem_cons_self, hhead⟩
    · obtain ⟨other, hother, hspelled⟩ := ih hf
      exact ⟨other, List.mem_cons_of_mem _ hother, hspelled⟩

/-- A blank never becomes a colour: a colour is a character of a word, or the digit of a number. -/
theorem not_isBlank_of_mem_fields {c : Command} {text : String} (hc : c.SpelledBy (words text))
    {k : Char} (hk : Field.colour k ∈ c.fields) : Text.isBlank k = false := by
  obtain ⟨arguments, hwords, hall⟩ := hc
  obtain ⟨word, hword, rfl | ⟨hdigit, -⟩⟩ := exists_word_of_mem hall hk
  · -- a colour that is spelled by itself is a word of the line
    have hmem : [k] ∈ words text := by
      rw [hwords]
      exact List.mem_cons_of_mem _ hword
    exact (isWord_of_mem_words hmem).2 k (List.mem_singleton_self k)
  · exact Text.not_isBlank_of_isDigit hdigit

/-! ## Writing commands

Every command that the program can be asked for has a line that asks for it: the letter, then each
field in its shortest form, with one blank between each two words. -/

end Command

/-- The shortest word that spells a field. -/
def Field.word : Field → List Char
  | .number n => Text.Digits.decimal n
  | .colour k => [k]

/-- A number that can be named, or a colour that is no blank. -/
def Field.IsWritable : Field → Prop
  | .number n => n ≤ Number.largest
  | .colour k => Text.isBlank k = false

instance : DecidablePred Field.IsWritable
  | .number n => inferInstanceAs (Decidable (n ≤ Number.largest))
  | .colour k => inferInstanceAs (Decidable (Text.isBlank k = false))

/-- A field that can be written is spelled by its word. A number has to be one that can be named, as
reading would clamp any other. -/
theorem Field.spelledBy_word {f : Field} (hf : f.IsWritable) : f.SpelledBy f.word := by
  cases f with
  | number n =>
    refine ⟨fun c hc => Text.Digits.isDigit_of_mem_decimal hc, ?_⟩
    rw [Field.word, Text.Digits.value_decimal]
    exact Number.clamp_eq_self hf
  | colour k => exact .inl rfl

/-- The word of a field that can be written is a word: digits are no blanks, and a colour that is a
blank cannot be written. -/
theorem Field.isWord_word {f : Field} (hf : f.IsWritable) : IsWord f.word := by
  cases f with
  | number n =>
    refine ⟨Nat.toDigits_ne_nil, ?_⟩
    intro c hc
    exact Text.not_isBlank_of_isDigit (Text.Digits.isDigit_of_mem_decimal hc)
  | colour k =>
    refine ⟨List.cons_ne_nil _ _, ?_⟩
    intro c hc
    rw [List.mem_singleton.1 hc]
    exact hf

namespace Command

/-- The command as a line of a script, with one blank between each two words. -/
def line (c : Command) : String :=
  String.ofList ([' '].intercalate (c.verb.letter.toList :: c.fields.map Field.word))

/-- A command whose fields can be written is spelled by its line. The words of the line are the ones
that it was made of (`words_intercalate`), and each of them spells its own field. -/
theorem spelledBy_line {c : Command} (hc : ∀ f ∈ c.fields, f.IsWritable) :
    c.SpelledBy (words c.line) := by
  have hwords : words c.line = c.verb.letter.toList :: c.fields.map Field.word := by
    apply words_intercalate
    intro w hw
    rcases List.mem_cons.1 hw with rfl | hw
    · exact c.verb.isWord_letter
    · obtain ⟨f, hf, rfl⟩ := List.mem_map.1 hw
      exact Field.isWord_word (hc f hf)
  rw [hwords]
  refine ⟨_, rfl, ?_⟩
  rw [List.forall₂_map_left_iff, List.forall₂_same]
  intro f hf
  exact Field.spelledBy_word (hc f hf)

end Command

end PixelScript.Script
