import PixelScript.Proofs.Script.Positions
import PixelScript.Proofs.Script.RoundTrip

/-!
# Lines as runs of characters

The tokens of a text are its maximal runs of characters without a blank (`Token.mem_split_iff`), and every
text is made of such runs and of the blanks around them (`exists_spacedOut`). What is read from a line is
what its runs say, each at the bytes where it stands (`Record.read?_runs`).
-/

namespace PixelScript.Script

/-! ## Maximal runs

What a token is, said without the way in which a text is split: a word with a blank, or an end of
the text, on either side of it. -/

namespace Token

/-- A maximal run of characters without a blank, in a text that begins at the byte `offset`. Right before
it and right behind it stands a blank, or the text ends there. -/
def IsRun (t : Token) (offset : Nat) (input : List Char) : Prop :=
  ∃ before after, input = before ++ t.chars ++ after ∧
    t.offset = offset + Text.Utf8.length before ∧ IsWord t.chars ∧
    (∀ c ∈ before.getLast?, Text.isBlank c) ∧ ∀ c ∈ after.head?, Text.isBlank c

/-- A run stays one when more text stands before it, unless a word of that text is attached to it.
There is nothing to show about what stands behind the run, which does not change. -/
theorem IsRun.prepend {t : Token} {offset : Nat} {pre input : List Char}
    (h : t.IsRun (offset + Text.Utf8.length pre) input)
    (hpre : (∀ c ∈ pre.getLast?, Text.isBlank c) ∨ ∀ after, input ≠ t.chars ++ after) :
    t.IsRun offset (pre ++ input) := by
  obtain ⟨before, after, hinput, hoffset, hword, hbefore, hafter⟩ := h
  refine ⟨pre ++ before, after, by simp [hinput], ?_, hword, ?_, hafter⟩
  · rw [hoffset, Text.Utf8.length_append, Nat.add_assoc]
  · intro c hc
    rw [List.getLast?_append] at hc
    cases hlast : before.getLast? with
    | some d =>
      rw [hlast, Option.some_or] at hc
      exact hbefore c (hlast ▸ hc)
    | none =>
      -- the run stands right behind the new text
      rw [hlast, Option.none_or] at hc
      rw [List.getLast?_eq_none_iff] at hlast
      rcases hpre with hblank | hne
      · exact hblank c hc
      · exact absurd (by rw [hinput, hlast, List.nil_append]) (hne after)

/-- Every token is a maximal run. Induction in the way in which the text is split: a blank that is
put before a run does not extend it, and neither does a word, since the rest behind a word begins
with a blank. -/
theorem isRun_of_mem_split {offset : Nat} {input : List Char} {t : Token}
    (ht : t ∈ split offset input) : t.IsRun offset input := by
  induction offset, input using split.induct with
  | case1 offset =>
    rw [split_nil] at ht
    cases ht
  | case2 offset c rest hc ih =>
    rw [split_blank hc] at ht
    have hlast : ∀ d ∈ [c].getLast?, Text.isBlank d := by
      intro d hd
      cases hd
      exact hc
    show t.IsRun offset ([c] ++ rest)
    exact (ih ht).prepend (.inl hlast)
  | case3 offset c rest hc word ih =>
    rw [Bool.not_eq_true] at hc
    have hinput : word ++ rest.dropWhile (!Text.isBlank ·) = c :: rest := by
      rw [List.cons_append, List.takeWhile_append_dropWhile]
    have hword : ∀ u ∈ split offset (c :: rest), IsWord u.chars := fun u hu => isWord_of_mem_split hu
    rw [split_solid hc] at ht hword
    rw [← hinput]
    rcases List.mem_cons.1 ht with rfl | ht
    · refine ⟨[], _, rfl, rfl, hword _ List.mem_cons_self, ?_, ?_⟩
      · intro d hd
        cases hd
      · intro d hd
        have hstop := List.head?_dropWhile_not (!Text.isBlank ·) rest
        rw [Option.mem_def.1 hd] at hstop
        simpa using hstop
    · -- a blank ends the first word, so that no later run is attached to it
      have hapart : ∀ after, rest.dropWhile (!Text.isBlank ·) ≠ t.chars ++ after := by
        intro after hrest
        have hbefore : ([] : List Char) ≠ [] :=
          ne_nil_of_dropWhile (hword t (List.mem_cons_of_mem _ ht)) hrest
        exact hbefore rfl
      exact (ih ht).prepend (.inr hapart)

/-- Every maximal run is a token. The text is cut right before the run, where it either begins or
has a blank, and the run is the first token of the second part. -/
theorem mem_split_of_isRun {offset : Nat} {input : List Char} {t : Token} (h : t.IsRun offset input) :
    t ∈ split offset input := by
  obtain ⟨before, after, rfl, hoffset, hword, hbefore, hafter⟩ := h
  -- nothing that stands behind the run belongs to a word that it is the beginning of
  have hend : after.takeWhile (!Text.isBlank ·) = [] := by
    cases after with
    | nil => rfl
    | cons c after => simp [hafter c rfl]
  have htoken : t ∈ split (offset + Text.Utf8.length before) (t.chars ++ after) := by
    rw [split_append_of_isWord hword hend, ← hoffset]
    exact List.mem_cons_self
  rw [List.append_assoc]
  cases List.eq_nil_or_concat before with
  | inl hnil =>
    rw [hnil] at htoken ⊢
    exact htoken
  | inr hconcat =>
    -- the text is cut before the blank that stands right before the run
    obtain ⟨cut, c, rfl⟩ := hconcat
    have hc : Text.isBlank c := hbefore c (by simp)
    rw [List.concat_eq_append, Text.Utf8.length_append, ← Nat.add_assoc] at htoken
    rw [List.concat_eq_append, List.append_assoc, List.singleton_append, split_append_blank hc,
      split_blank hc]
    exact List.mem_append_right _ htoken

/-- The tokens of a text are its maximal runs. Both sides give the place of the token as well as its
characters. -/
theorem mem_split_iff {offset : Nat} {input : List Char} {t : Token} :
    t ∈ split offset input ↔ t.IsRun offset input :=
  ⟨isRun_of_mem_split, mem_split_of_isRun⟩

end Token

/-! ## Runs and gaps

Texts put together from words and the blanks around them. Every text is of this form, and the words
are its tokens. -/

/-- One more piece can be put in front, if its gap consists of blanks and the piece behind it does
not begin right where its word ends. -/
theorem WellSpaced.cons {gap word : List Char} {pieces : List (List Char × List Char)}
    {trail : List Char} (h : WellSpaced pieces trail) (hgap : ∀ c ∈ gap, Text.isBlank c)
    (hnext : ∀ next ∈ pieces.head?, next.1 ≠ []) : WellSpaced ((gap, word) :: pieces) trail where
  blank := List.forall_mem_cons.2 ⟨hgap, h.blank⟩
  apart := by
    intro piece hpiece
    cases pieces with
    | nil => cases hpiece
    | cons next pieces =>
      rcases List.mem_cons.1 hpiece with rfl | hpiece
      · exact hnext piece rfl
      · exact h.apart piece hpiece
  trail_blank := h.trail_blank

/-- Every text is made of words and the blanks around them. Induction in the way in which the text
is split: a blank makes the first gap longer, or the end of the text if there is no word, and a word
is a new piece without a gap. -/
theorem exists_spacedOut (input : List Char) :
    ∃ pieces trail, input = spacedOut pieces trail ∧ WellSpaced pieces trail ∧
      ∀ piece ∈ pieces, IsWord piece.2 := by
  -- the recursion is that of the split, wherever the text begins
  generalize hoffset : 0 = offset
  clear hoffset
  induction offset, input using Token.split.induct with
  | case1 offset =>
    refine ⟨[], [], rfl, ?_, List.forall_mem_nil _⟩
    exact ⟨List.forall_mem_nil _, List.forall_mem_nil _, List.forall_mem_nil _⟩
  | case2 offset c rest hc ih =>
    obtain ⟨pieces, trail, rfl, hspaced, hwords⟩ := ih
    cases pieces with
    | nil =>
      have htrail : ∀ d ∈ c :: trail, Text.isBlank d :=
        List.forall_mem_cons.2 ⟨hc, hspaced.trail_blank⟩
      refine ⟨[], c :: trail, rfl, ?_, List.forall_mem_nil _⟩
      exact ⟨List.forall_mem_nil _, List.forall_mem_nil _, htrail⟩
    | cons piece pieces =>
      have hgap : ∀ d ∈ c :: piece.1, Text.isBlank d :=
        List.forall_mem_cons.2 ⟨hc, hspaced.blank piece List.mem_cons_self⟩
      have hapart : ∀ next ∈ pieces.head?, next.1 ≠ [] :=
        fun next hnext => hspaced.apart next (List.mem_of_mem_head? hnext)
      refine ⟨(c :: piece.1, piece.2) :: pieces, trail, ?_, hspaced.tail.cons hgap hapart, ?_⟩
      · rw [spacedOut_cons, spacedOut_cons, List.cons_append]
      · exact List.forall_mem_cons.2 (List.forall_mem_cons.1 hwords)
  | case3 offset c rest hc word ih =>
    obtain ⟨pieces, trail, hrest, hspaced, hwords⟩ := ih
    rw [Bool.not_eq_true] at hc
    -- the word is the first token of the text, and tokens are words
    have hword : IsWord word := by
      have hfirst : (⟨offset, word⟩ : Token) ∈ Token.split offset (c :: rest) := by
        rw [Token.split_solid hc]
        exact List.mem_cons_self
      exact Token.isWord_of_mem_split hfirst
    have hapart : ∀ next ∈ pieces.head?, next.1 ≠ [] := by
      intro next hnext
      obtain ⟨others, rfl⟩ := List.head?_eq_some_iff.1 hnext
      -- what is left behind the word begins with a blank, and so does the next gap
      have hnextword : IsWord next.2 := hwords next List.mem_cons_self
      rw [spacedOut_cons, ← List.append_assoc] at hrest
      exact Token.ne_nil_of_dropWhile (t := ⟨0, next.2⟩) hnextword hrest
    refine ⟨([], word) :: pieces, trail, ?_, hspaced.cons (List.forall_mem_nil _) hapart, ?_⟩
    · rw [spacedOut_cons, ← hrest, List.nil_append, List.cons_append, List.takeWhile_append_dropWhile]
    · exact List.forall_mem_cons.2 ⟨hword, hwords⟩

/-! ## What a line says

The record of a line, put in terms of its maximal runs alone. -/

/-- A word always has a character, so whether it is a numeral is a question of its characters all
being digits. -/
theorem Value.ofWord_of_isWord (clamp : Nat → Nat) {word : List Char} (hword : IsWord word) :
    Value.ofWord clamp word =
      if word.all Char.isDigit then .number (clamp (Text.Digits.value word))
      else .text (String.ofList word) := by
  simp [Value.ofWord, Text.Digits.isNumeral, hword.1]

/-- Every line can be read. Its tokens are its maximal runs of characters without a blank, one behind the
other with a gap between each two, and the line is put together from them and the blanks around them. The
first one is the word that names the command, as it stands there, and each of the others is an argument: a
number that is cut off at the largest one if it is written in digits only, and its own text otherwise. -/
theorem Record.read?_runs (line : String) :
    ∃ record tokens pieces trail, Record.read? line = some record ∧
      (∀ t, t ∈ tokens ↔ t.IsRun 0 line.toList) ∧
      (∀ t ∈ tokens, 0 < t.span.length) ∧
      tokens.Pairwise (fun t u => t.span.stop < u.span.offset) ∧
      line.toList = spacedOut pieces trail ∧ WellSpaced pieces trail ∧
      tokens = Token.ofPieces 0 pieces ∧
      record.command = tokens.head?.map (fun t => ⟨String.ofList t.chars, t.span⟩) ∧
      record.arguments = tokens.tail.map fun t =>
        ⟨if t.chars.all Char.isDigit then .number (min (Text.Digits.value t.chars) 4294967295)
          else .text (String.ofList t.chars), t.span⟩ := by
  obtain ⟨pieces, trail, hline, hspaced, hwords⟩ := exists_spacedOut line.toList
  have htokens : Token.ofLine line = Token.ofPieces 0 pieces := by
    rw [Token.ofLine, hline, Token.split_spacedOut hspaced hwords]
  have hword : ∀ t ∈ Token.ofLine line, IsWord t.chars := fun t ht => Token.isWord_of_mem_split ht
  refine ⟨Record.ofTokens Number.clamp (Token.ofLine line), Token.ofLine line, pieces, trail,
    readWith?_eq Number.clamp line, fun t => Token.mem_split_iff, ?_, ?_, hline, hspaced, htokens, ?_, ?_⟩
  · intro t ht
    exact Text.Utf8.length_pos (hword t ht).1
  · exact (Token.pairwise_split 0 line.toList).imp fun h => h.stop_lt
  · cases Token.ofLine line <;> rfl
  · have hargument : ∀ t ∈ (Token.ofLine line).tail, t.argument Number.clamp =
        ⟨if t.chars.all Char.isDigit then .number (min (Text.Digits.value t.chars) 4294967295)
          else .text (String.ofList t.chars), t.span⟩ := by
      intro t ht
      rw [Token.argument, Value.ofWord_of_isWord _ (hword t (List.mem_of_mem_tail ht))]
      rfl
    rw [← List.map_congr_left hargument]
    cases Token.ofLine line <;> rfl

/-- Digits that a no-break space is attached to are not a number. -/
example : Record.read? " 5\t007 12\u00a0 99999999999" =
    some ⟨some ⟨"5", ⟨1, 1⟩⟩, [⟨.number 7, ⟨3, 3⟩⟩, ⟨.text "12\u00a0", ⟨7, 4⟩⟩,
      ⟨.number 4294967295, ⟨12, 11⟩⟩]⟩ := by decide +kernel

end PixelScript.Script
