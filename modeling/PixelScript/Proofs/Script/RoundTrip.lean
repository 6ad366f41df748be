import PixelScript.Proofs.Interpreter.Line

/-!
# Reading what was written

A line is read as a command exactly if its words are the letter of the command's verb and, in the order
in which the usage line of the verb names them, spellings of the command's fields
(`Command.read?_eq_some_iff`). So a command can be written with any blanks around its words and any zeros
before its numbers, and is read back (`Command.read?_round_trip`).
-/

namespace PixelScript.Script

/-! ## Reading a command

A line is read as a command if its words spell the command, so all that can be said of such lines is
said of words. -/

/-- The command that a line is read as, if it is read as one. -/
def Command.read? (line : String) : Option Command := do
  let record ← Record.read? line
  let word ← record.command
  let verb ← Verb.ofWord? word.text
  (Command.bind verb record.values).toOption

/-- A result that is kept where it is a success, and dropped where it is not. -/
theorem toOption_eq_some_iff {ε α : Type} {x : Except ε α} {a : α} :
    x.toOption = some a ↔ x = .ok a := by
  cases x <;> simp [Except.toOption]

/-- A line is read as a command exactly if its words spell the command. A line without words is read
as none. Otherwise its first word has to be the letter of a verb, and binding the others is spelling
(`bind_ofWord_eq_ok_iff`). -/
theorem Command.read?_eq_some_iff_spelledBy {line : String} {c : Command} :
    read? line = some c ↔ c.SpelledBy (words line) := by
  have hne : ∀ t ∈ Token.ofLine line, t.chars ≠ [] := fun t ht => (Token.isWord_of_mem_split ht).1
  unfold read? words
  rw [Record.read?, Record.readWith?_eq]
  cases htokens : Token.ofLine line with
  | nil =>
    -- a blank line has no command, and no command is spelled by no words
    constructor
    · intro h
      cases h
    · rintro ⟨arguments, hnil, -⟩
      cases hnil
  | cons t rest =>
    rw [htokens] at hne
    have hrest : ∀ word ∈ rest.map Token.chars, word ≠ [] := by
      intro word hword
      obtain ⟨u, hu, rfl⟩ := List.mem_map.1 hword
      exact hne u (List.mem_cons_of_mem t hu)
    show (Verb.ofWord? (String.ofList t.chars)).bind
        (fun verb => (bind verb (Record.ofTokens _ (t :: rest)).values).toOption) = some c ↔ _
    rw [Record.values_ofTokens_cons, List.map_cons]
    cases hverb : Verb.ofWord? (String.ofList t.chars) with
    | none =>
      constructor
      · intro h
        cases h
      · rintro ⟨arguments, hwords, -⟩
        rw [(List.cons.inj hwords).1, Verb.ofWord?_letter] at hverb
        cases hverb
    | some verb =>
      -- the first word is the letter, so the others decide
      have hletter : t.chars = verb.letter.toList := by
        rw [← Verb.ofWord?_eq_some_iff.1 hverb, String.toList_ofList]
      rw [Option.bind_some, toOption_eq_some_iff, bind_ofWord_eq_ok_iff hrest, hletter]

/-! ## Usage lines

The usage line of a verb names its arguments in the order in which they are given. Fields that go by
those names let a statement speak of a command's fields without repeating the order. -/

/-- What the usage line of a verb calls its arguments, from left to right. -/
def Verb.slots (v : Verb) : List String := (words v.usage).tail.map String.ofList

/-- The field of a command that goes by a name in the usage line of its verb. -/
def Command.field? : Command → String → Option Field
  | .create width _, "<columns>" => some (.number width)
  | .create _ height, "<rows>" => some (.number height)
  | .paint p _, "<x>" | .fill p _, "<x>" => some (.number p.col)
  | .paint p _, "<y>" | .fill p _, "<y>" => some (.number p.row)
  | .paint _ k, "<colour>" | .fill _ k, "<colour>" => some (.colour k)
  | .vertical col _ _ _, "<x>" => some (.number col)
  | .vertical _ fromRow _ _, "<y1>" => some (.number fromRow)
  | .vertical _ _ toRow _, "<y2>" => some (.number toRow)
  | .horizontal fromCol _ _ _, "<x1>" => some (.number fromCol)
  | .horizontal _ toCol _ _, "<x2>" => some (.number toCol)
  | .horizontal _ _ row _, "<y>" => some (.number row)
  | .vertical _ _ _ k, "<colour>" | .horizontal _ _ _ k, "<colour>" => some (.colour k)
  | _, _ => none

/-- The names in the usage line of each verb, read off it. -/
theorem Verb.slots_eq (v : Verb) :
    v.slots =
      match v with
      | .clear | .print => []
      | .create => ["<columns>", "<rows>"]
      | .paint | .fill => ["<x>", "<y>", "<colour>"]
      | .vertical => ["<x>", "<y1>", "<y2>", "<colour>"]
      | .horizontal => ["<x1>", "<x2>", "<y>", "<colour>"] := by
  cases v <;> decide +kernel

/-- The usage line names the fields of a command in their order. So the hint that a diagnostic gives
is the form of the line that would have been understood. -/
theorem Command.map_field?_slots (c : Command) :
    c.verb.slots.map c.field? = c.fields.map some := by
  rw [Verb.slots_eq]
  cases c <;> simp [Command.verb, Command.field?, Command.fields]

/-- Going through the names of the usage line is going through the fields, whatever is asked of each
of them. Induction on the names, which have the fields as their values in the same order. -/
theorem Command.forall₂_field?_iff {α : Type} {c : Command} {slots : List String}
    {fields : List Field} (h : slots.map c.field? = fields.map some) {gives : Field → α → Prop}
    {arguments : List α} :
    List.Forall₂ (fun slot argument => ∃ f, c.field? slot = some f ∧ gives f argument)
        slots arguments ↔
      List.Forall₂ (fun argument f => gives f argument) arguments fields := by
  induction slots generalizing fields arguments with
  | nil =>
    obtain rfl := List.map_eq_nil_iff.1 h.symm
    rw [List.forall₂_nil_left_iff, List.forall₂_nil_right_iff]
  | cons slot slots ih =>
    -- the first name goes with the first field
    obtain ⟨f, fields, rfl, hslot, hslots⟩ := List.map_eq_cons_iff.1 h.symm
    cases arguments with
    | nil =>
      constructor <;>
      · intro h
        cases h
    | cons argument arguments =>
      rw [List.forall₂_cons, List.forall₂_cons, ih hslots.symm, ← hslot]
      simp

/-! ## Blanks and zeros

The two ways in which lines of one meaning can differ: the blanks around the words, and the zeros
before the numbers. -/

/-- Words with the blanks before each of them, and the blanks behind the last one. -/
def spacedOut (pieces : List (List Char × List Char)) (trail : List Char) : List Char :=
  pieces.flatMap (fun piece => piece.1 ++ piece.2) ++ trail

theorem spacedOut_cons (piece : List Char × List Char) (pieces : List (List Char × List Char))
    (trail : List Char) :
    spacedOut (piece :: pieces) trail = piece.1 ++ (piece.2 ++ spacedOut pieces trail) := by
  unfold spacedOut
  rw [List.flatMap_cons, List.append_assoc, List.append_assoc]

/-- There are blanks only before the words and behind them, and at least one between each two. -/
structure WellSpaced (pieces : List (List Char × List Char)) (trail : List Char) : Prop where
  blank : ∀ piece ∈ pieces, ∀ c ∈ piece.1, Text.isBlank c
  apart : ∀ piece ∈ pieces.tail, piece.1 ≠ []
  trail_blank : ∀ c ∈ trail, Text.isBlank c

/-- The three conditions can be checked on the characters, so it can be decided whether pieces are
well spaced. -/
theorem wellSpaced_iff {pieces : List (List Char × List Char)} {trail : List Char} :
    WellSpaced pieces trail ↔
      pieces.all (fun piece => piece.1.all Text.isBlank) ∧
        pieces.tail.all (fun piece => !piece.1.isEmpty) ∧ trail.all Text.isBlank := by
  simp only [List.all_eq_true, Bool.not_eq_true', List.isEmpty_eq_false_iff]
  exact ⟨fun h => ⟨h.blank, h.apart, h.trail_blank⟩, fun ⟨hblank, hapart, htrail⟩ =>
    ⟨hblank, hapart, htrail⟩⟩

instance (pieces : List (List Char × List Char)) (trail : List Char) :
    Decidable (WellSpaced pieces trail) := decidable_of_iff _ wellSpaced_iff.symm

/-- A text that begins with a blank, or is empty, does not begin with a word. -/
theorem takeWhile_solid_of_blanks {gap : List Char} (hgap : ∀ c ∈ gap, Text.isBlank c)
    {rest : List Char} (h : gap ≠ [] ∨ rest = []) :
    (gap ++ rest).takeWhile (!Text.isBlank ·) = [] := by
  cases gap with
  | nil =>
    obtain rfl := h.resolve_left (fun hne => hne rfl)
    rfl
  | cons c gap => simp [hgap c List.mem_cons_self]

/-- Pieces stay well spaced without the first one. The gap of the second piece has to be one still,
which it was before. -/
theorem WellSpaced.tail {piece : List Char × List Char} {pieces : List (List Char × List Char)}
    {trail : List Char} (h : WellSpaced (piece :: pieces) trail) : WellSpaced pieces trail where
  blank := fun other hother => h.blank other (List.mem_cons_of_mem piece hother)
  apart := fun other hother => h.apart other (List.mem_of_mem_tail hother)
  trail_blank := h.trail_blank

/-- What stands behind a word begins with a blank, or is empty. Behind the last word there are only
the blanks at the end. -/
theorem WellSpaced.takeWhile_solid {piece : List Char × List Char}
    {pieces : List (List Char × List Char)} {trail : List Char}
    (h : WellSpaced (piece :: pieces) trail) :
    (spacedOut pieces trail).takeWhile (!Text.isBlank ·) = [] := by
  cases pieces with
  | nil =>
    show trail.takeWhile _ = []
    simpa using takeWhile_solid_of_blanks h.trail_blank (.inr rfl)
  | cons next pieces =>
    have hmem : next ∈ piece :: next :: pieces := List.mem_cons_of_mem _ List.mem_cons_self
    -- the next word is kept apart by a blank
    have hgap : next.1 ≠ [] := h.apart next List.mem_cons_self
    rw [spacedOut_cons]
    exact takeWhile_solid_of_blanks (h.blank next hmem) (.inl hgap)

/-- The words among the pieces, each at the byte where it begins in a text that begins at the byte
`offset`. -/
def Token.ofPieces (offset : Nat) : List (List Char × List Char) → List Token
  | [] => []
  | (gap, word) :: pieces =>
    let t : Token := ⟨offset + Text.Utf8.length gap, word⟩
    t :: ofPieces (t.offset + t.size) pieces

theorem Token.map_chars_ofPieces (offset : Nat) (pieces : List (List Char × List Char)) :
    (ofPieces offset pieces).map chars = pieces.map Prod.snd := by
  induction pieces generalizing offset with
  | nil => rfl
  | cons piece pieces ih =>
    rw [ofPieces, List.map_cons, ih, List.map_cons]

/-- The tokens of a text that is made of words and blanks are its words, each at its place.
Induction on the pieces, in a text that begins at any byte. -/
theorem Token.split_spacedOut {pieces : List (List Char × List Char)} {trail : List Char}
    (h : WellSpaced pieces trail) (hwords : ∀ piece ∈ pieces, IsWord piece.2) (offset : Nat) :
    split offset (spacedOut pieces trail) = ofPieces offset pieces := by
  induction pieces generalizing offset with
  | nil => exact split_blanks h.trail_blank offset
  | cons piece pieces ih =>
    have ih := ih h.tail (fun other hother => hwords other (List.mem_cons_of_mem _ hother))
    -- the blanks before the word are skipped, and the word ends where the next blanks begin
    rw [spacedOut_cons, split_append_blanks (h.blank piece List.mem_cons_self),
      split_append_of_isWord (hwords piece List.mem_cons_self) h.takeWhile_solid, ih]
    rfl

/-- The words of a line do not depend on the blanks around them. -/
theorem words_spacedOut {pieces : List (List Char × List Char)} {trail : List Char}
    (h : WellSpaced pieces trail) (hwords : ∀ piece ∈ pieces, IsWord piece.2) :
    words (String.ofList (spacedOut pieces trail)) = pieces.map Prod.snd := by
  rw [words_ofList, Token.split_spacedOut h hwords, Token.map_chars_ofPieces]

/-- Zeros before a number do not change it. Induction on the number of zeros. -/
theorem value_zeros_append (zeros : Nat) (digits : List Char) :
    Text.Digits.value (List.replicate zeros '0' ++ digits) = Text.Digits.value digits := by
  induction zeros with
  | zero => rfl
  | succ zeros ih =>
    rw [List.replicate_succ, List.cons_append, Text.Digits.value_zero_cons, ih]

theorem isDigit_of_mem_zeros_append {zeros : Nat} {digits : List Char}
    (hdigits : ∀ c ∈ digits, c.isDigit) :
    ∀ c ∈ List.replicate zeros '0' ++ digits, c.isDigit := by
  intro c hc
  rcases List.mem_append.1 hc with hc | hc
  · rw [List.eq_of_mem_replicate hc]
    decide
  · exact hdigits c hc

/-- A field with zeros before its number. A colour is a number if it is a digit. -/
def Field.padded (zeros : Nat) : Field → List Char
  | .number n => List.replicate zeros '0' ++ Text.Digits.decimal n
  | .colour k => if k.isDigit then List.replicate zeros '0' ++ [k] else [k]

/-- A field that can be written is spelled by its word with any zeros before it. For a colour that
is a digit the zeros make the word longer than one character, and it is spelled by its value. -/
theorem Field.spelledBy_padded {f : Field} (hf : f.IsWritable) (zeros : Nat) :
    f.SpelledBy (f.padded zeros) := by
  cases f with
  | number n =>
    -- a number that can be written is not clamped when it is read
    refine ⟨isDigit_of_mem_zeros_append fun c hc => Text.Digits.isDigit_of_mem_decimal hc, ?_⟩
    rw [padded, value_zeros_append, Text.Digits.value_decimal]
    exact Number.clamp_eq_self hf
  | colour k =>
    rw [padded]
    split
    · next hk =>
      -- a colour that is a digit is spelled by a number, and may have zeros before it
      have hdigits : ∀ c ∈ [k], c.isDigit := by
        intro c hc
        rw [List.mem_singleton.1 hc, hk]
      exact .inr ⟨hk, isDigit_of_mem_zeros_append hdigits, value_zeros_append zeros [k]⟩
    · exact .inl rfl

/-- What spells a field has no blank in it if the field can be written. Zeros are put before a word
and keep it one. -/
theorem Field.isWord_padded {f : Field} (hf : f.IsWritable) (zeros : Nat) :
    IsWord (f.padded zeros) := by
  -- a zero is no blank
  have hzeros {digits : List Char} (hdigits : IsWord digits) :
      IsWord (List.replicate zeros '0' ++ digits) := by
    refine ⟨List.append_ne_nil_of_right_ne_nil _ hdigits.1, ?_⟩
    intro c hc
    rcases List.mem_append.1 hc with hc | hc
    · rw [List.eq_of_mem_replicate hc]
      decide
    · exact hdigits.2 c hc
  have hword := Field.isWord_word hf
  cases f with
  | number n => exact hzeros hword
  | colour k =>
    rw [padded]
    split
    · exact hzeros hword
    · exact hword

/-- Words that are padded spellings of the fields are spellings, and are words of a line. Induction
on the pairs of words and fields. -/
theorem Field.forall₂_spelledBy_padded {fields : List Field}
    (hfields : ∀ f ∈ fields, f.IsWritable) {arguments : List (List Char)}
    (h : List.Forall₂ (fun word f => ∃ zeros, word = Field.padded zeros f) arguments fields) :
    List.Forall₂ (fun word f => f.SpelledBy word) arguments fields ∧
      ∀ word ∈ arguments, IsWord word := by
  induction h with
  | nil => exact ⟨.nil, List.forall_mem_nil _⟩
  | @cons word f arguments fields hword _ ih =>
    obtain ⟨zeros, rfl⟩ := hword
    have hf : f.IsWritable := hfields f List.mem_cons_self
    obtain ⟨hall, hwords⟩ := ih fun g hg => hfields g (List.mem_cons_of_mem f hg)
    refine ⟨.cons (spelledBy_padded hf zeros) hall, ?_⟩
    rw [List.forall_mem_cons]
    exact ⟨isWord_padded hf zeros, hwords⟩

/-! ## Round trip

Which lines are read as a given command, and that a command which was written down is among them. -/

namespace Command

/-- The lines that are read as a command are those whose words are the letter of its verb and
spellings of its fields, in the order of the usage line. -/
theorem read?_eq_some_iff {line : String} {c : Command} :
    read? line = some c ↔
      ∃ arguments, words line = c.verb.letter.toList :: arguments ∧
        List.Forall₂ (fun slot word => ∃ f, c.field? slot = some f ∧ f.SpelledBy word)
          c.verb.slots arguments := by
  rw [read?_eq_some_iff_spelledBy]
  simp only [forall₂_field?_iff c.map_field?_slots]
  rfl

/-- A command is read back however its words are spaced and its numbers are padded. The spacing
keeps the words (`words_spacedOut`), and padded words still spell the fields. -/
theorem read?_spacedOut {c : Command} (hc : ∀ f ∈ c.fields, f.IsWritable)
    {arguments : List (List Char)}
    (harguments : List.Forall₂
      (fun slot word => ∃ f, c.field? slot = some f ∧ ∃ zeros, word = f.padded zeros)
      c.verb.slots arguments)
    {pieces : List (List Char × List Char)} {trail : List Char}
    (hpieces : pieces.map Prod.snd = c.verb.letter.toList :: arguments)
    (hspaced : WellSpaced pieces trail) :
    read? (String.ofList (spacedOut pieces trail)) = some c := by
  obtain ⟨hspelled, hwords⟩ := Field.forall₂_spelledBy_padded hc
    ((forall₂_field?_iff c.map_field?_slots).1 harguments)
  have hsolid : ∀ word ∈ pieces.map Prod.snd, IsWord word := by
    rw [hpieces, List.forall_mem_cons]
    exact ⟨c.verb.isWord_letter, hwords⟩
  rw [read?_eq_some_iff_spelledBy,
    words_spacedOut hspaced fun piece hpiece => hsolid _ (List.mem_map_of_mem hpiece), hpieces]
  exact ⟨arguments, rfl, hspelled⟩

/-- Reading a command and writing it. A line is read as the command exactly if its words are the
letter and, in the order of the usage line, spellings of the fields; and a command of numbers that
can be named and a colour that is no blank is read back from every line on which it is written, with
any zeros before its numbers and any blanks around its words. -/
theorem read?_round_trip (c : Command) :
    (∀ line, read? line = some c ↔
      ∃ arguments, words line = c.verb.letter.toList :: arguments ∧
        List.Forall₂ (fun slot word => ∃ f, c.field? slot = some f ∧ f.SpelledBy word)
          c.verb.slots arguments) ∧
    ((∀ f ∈ c.fields, f.IsWritable) → ∀ arguments pieces trail,
      List.Forall₂
        (fun slot word => ∃ f, c.field? slot = some f ∧ ∃ zeros, word = f.padded zeros)
        c.verb.slots arguments →
      pieces.map Prod.snd = c.verb.letter.toList :: arguments →
      WellSpaced pieces trail →
      read? (String.ofList (spacedOut pieces trail)) = some c) := by
  refine ⟨fun line => read?_eq_some_iff, ?_⟩
  intro hc arguments pieces trail harguments hpieces hspaced
  exact read?_spacedOut hc harguments hpieces hspaced

/-- A number beyond the largest is read as the largest, and zeros and tabs make no difference. -/
theorem read?_round_trip_vertical :
    read? "V 99999999999 007 2 03" = some (.vertical 4294967295 7 2 '3') ∧
      read? " V\t4294967295  007 2\t03\r" = some (.vertical 4294967295 7 2 '3') := by
  have hslots : Verb.slots .vertical = ["<x>", "<y1>", "<y2>", "<colour>"] := Verb.slots_eq _
  constructor
  · refine ((read?_round_trip _).1 _).2
      ⟨[['9', '9', '9', '9', '9', '9', '9', '9', '9', '9', '9'], ['0', '0', '7'], ['2'], ['0', '3']],
        by decide +kernel, ?_⟩
    show List.Forall₂ _ (Verb.slots .vertical) _
    rw [hslots]
    exact .cons ⟨_, rfl, by decide +kernel⟩ <| .cons ⟨_, rfl, by decide +kernel⟩ <|
      .cons ⟨_, rfl, by decide +kernel⟩ <| .cons ⟨_, rfl, by decide +kernel⟩ .nil
  · refine (read?_round_trip (.vertical 4294967295 7 2 '3')).2 (by decide)
      [['4', '2', '9', '4', '9', '6', '7', '2', '9', '5'], ['0', '0', '7'], ['2'], ['0', '3']]
      [([' '], ['V']), (['\t'], ['4', '2', '9', '4', '9', '6', '7', '2', '9', '5']),
        ([' ', ' '], ['0', '0', '7']), ([' '], ['2']), (['\t'], ['0', '3'])]
      ['\r'] ?_ (by decide) (by decide)
    show List.Forall₂ _ (Verb.slots .vertical) _
    rw [hslots]
    exact .cons ⟨_, rfl, 0, by decide +kernel⟩ <| .cons ⟨_, rfl, 2, by decide +kernel⟩ <|
      .cons ⟨_, rfl, 0, by decide +kernel⟩ <| .cons ⟨_, rfl, 1, by decide +kernel⟩ .nil

end Command

end PixelScript.Script
