import PixelScript.Proofs.Script.Reading

/-!
# Where tokens stand

A part of a line is given by the byte at which it begins and the number of bytes that it takes. Every
token is read at its span (`Token.covers_of_mem_ofLine`), and of two tokens the later one begins
behind the end of the earlier one (`Token.precedes_of_lt`). What reaches from one to the other is a
part of the line too (`Token.Precedes.covers_to`).
-/

namespace PixelScript

/-- The bytes of characters that are counted one by one are those of the text that they make.
Induction on the characters. -/
theorem Text.Utf8.length_eq_utf8ByteSize (cs : List Char) :
    length cs = (String.ofList cs).utf8ByteSize := by
  induction cs with
  | nil => rfl
  | cons c cs ih =>
    rw [length_cons, ih, String.ofList_cons, String.utf8ByteSize_append, String.utf8ByteSize_singleton]

/-- Every character takes at least one byte, so nothing takes none but the empty text. -/
theorem Text.Utf8.length_pos {cs : List Char} (h : cs ≠ []) : 0 < length cs := by
  obtain ⟨c, rest, rfl⟩ := List.exists_cons_of_ne_nil h
  have hc : 0 < c.utf8Size := c.utf8Size_pos
  rw [length_cons]
  omega

namespace Script

/-! ## Parts of a line

What a span stands for: the characters of the line that begin and end at its bytes. A span that
reads something always begins and ends between two characters, so a diagnostic never points into the
middle of one. -/

/-- At the span, the line reads `part`. -/
def Span.Covers (s : Span) (line : String) (part : List Char) : Prop :=
  ∃ before after, line.toList = before ++ part ++ after ∧
    s.offset = Text.Utf8.length before ∧ s.length = Text.Utf8.length part

namespace Span

variable {s : Span} {line : String} {part : List Char}

/-- What reaches from one part to another ends where the second one ends, as long as that is not
before the first one begins. -/
theorem stop_to {first last : Span} (h : first.offset ≤ last.stop) :
    (first.to last).stop = last.stop := by
  show first.offset + (last.stop - first.offset) = last.stop
  omega

/-- The whole line is read at the span that starts at its beginning and takes all of its bytes. -/
theorem covers_whole (line : String) :
    (⟨0, line.utf8ByteSize⟩ : Span).Covers line line.toList := by
  refine ⟨[], [], by simp, rfl, ?_⟩
  rw [Text.Utf8.length_eq_utf8ByteSize, String.ofList_toList]

/-- A part begins between two characters: the characters before it are a beginning of the line, and
the part begins behind them. -/
theorem Covers.isValid_offset (h : s.Covers line part) :
    String.Pos.Raw.IsValid line ⟨s.offset⟩ := by
  obtain ⟨before, after, hline, hoffset, -⟩ := h
  rw [String.Pos.Raw.isValid_iff_exists_append]
  refine ⟨String.ofList before, String.ofList (part ++ after), ?_, ?_⟩
  · rw [← String.ofList_append, ← List.append_assoc, ← hline, String.ofList_toList]
  · rw [hoffset, Text.Utf8.length_eq_utf8ByteSize]
    rfl

/-- A part ends between two characters, behind those before the part and those of the part. -/
theorem Covers.isValid_stop (h : s.Covers line part) : String.Pos.Raw.IsValid line ⟨s.stop⟩ := by
  obtain ⟨before, after, hline, hoffset, hlength⟩ := h
  rw [String.Pos.Raw.isValid_iff_exists_append]
  refine ⟨String.ofList (before ++ part), String.ofList after, ?_, ?_⟩
  · rw [← String.ofList_append, ← hline, String.ofList_toList]
  · rw [stop, hoffset, hlength, ← Text.Utf8.length_append, Text.Utf8.length_eq_utf8ByteSize]
    rfl

theorem Covers.stop_le (h : s.Covers line part) : s.stop ≤ line.utf8ByteSize :=
  h.isValid_stop.le_rawEndPos

end Span

/-! ## Tokens of a text

A token is known with its place as soon as the text before it is known. Both predicates are about a
text that begins at any byte, so that the induction along `Token.split` can go on with the rest of a
text. -/

namespace Token

/-- The token is read in a text that begins at the byte `offset`. -/
def StandsIn (t : Token) (offset : Nat) (input : List Char) : Prop :=
  ∃ before after, input = before ++ t.chars ++ after ∧
    t.offset = offset + Text.Utf8.length before

/-- Both tokens are read in a text that begins at the byte `offset`, and something stands between
them. -/
def Precedes (offset : Nat) (input : List Char) (t u : Token) : Prop :=
  ∃ before gap after, input = before ++ t.chars ++ gap ++ u.chars ++ after ∧ gap ≠ [] ∧
    t.offset = offset + Text.Utf8.length before ∧
    u.offset = t.offset + t.size + Text.Utf8.length gap

/-- A token stays where it is when more text is put before it, if the text begins earlier by the
same number of bytes. -/
theorem StandsIn.prepend {t : Token} {offset : Nat} {pre input : List Char}
    (h : t.StandsIn (offset + Text.Utf8.length pre) input) : t.StandsIn offset (pre ++ input) := by
  obtain ⟨before, after, rfl, hoffset⟩ := h
  refine ⟨pre ++ before, after, by simp, ?_⟩
  rw [hoffset, Text.Utf8.length_append, Nat.add_assoc]

/-- Of two tokens, the one still stands behind the other when more text is put before them. Only the
first of them is counted from the beginning of the text. -/
theorem Precedes.prepend {t u : Token} {offset : Nat} {pre input : List Char}
    (h : Precedes (offset + Text.Utf8.length pre) input t u) :
    Precedes offset (pre ++ input) t u := by
  obtain ⟨before, gap, after, rfl, hgap, ht, hu⟩ := h
  refine ⟨pre ++ before, gap, after, by simp, hgap, ?_, hu⟩
  rw [ht, Text.Utf8.length_append, Nat.add_assoc]

/-- Every token of a text is read in it at its place. Induction in the way in which the text is
split: a blank is put before the rest, and so is the word of a first token. -/
theorem standsIn_of_mem_split {offset : Nat} {input : List Char} {t : Token}
    (ht : t ∈ split offset input) : t.StandsIn offset input := by
  induction offset, input using split.induct with
  | case1 offset =>
    rw [split_nil] at ht
    cases ht
  | case2 offset c rest hc ih =>
    rw [split_blank hc] at ht
    show t.StandsIn offset ([c] ++ rest)
    exact (ih ht).prepend
  | case3 offset c rest hc word ih =>
    rw [Bool.not_eq_true] at hc
    have hinput : word ++ rest.dropWhile (!Text.isBlank ·) = c :: rest := by
      rw [List.cons_append, List.takeWhile_append_dropWhile]
    rw [split_solid hc, List.mem_cons] at ht
    rw [← hinput]
    rcases ht with rfl | ht
    · exact ⟨[], _, rfl, rfl⟩
    · exact (ih ht).prepend

/-- What is left of a text behind a word begins with a blank, so no token stands right there.
Something is between any two tokens. -/
theorem ne_nil_of_dropWhile {rest before after : List Char} {t : Token} (ht : IsWord t.chars)
    (h : rest.dropWhile (!Text.isBlank ·) = before ++ t.chars ++ after) : before ≠ [] := by
  rintro rfl
  obtain ⟨c, chars, hchars⟩ := List.exists_cons_of_ne_nil ht.1
  have hsolid : Text.isBlank c = false := ht.2 c (by rw [hchars]; exact List.mem_cons_self)
  -- were there nothing before the token, its first character would be a blank
  have hhead := List.head?_dropWhile_not (!Text.isBlank ·) rest
  rw [h, hchars] at hhead
  simp [hsolid] at hhead

/-- The tokens of a text stand one behind the other, with something between each two. Induction in
the way in which the text is split. A first token precedes all others because they stand in the rest
of the text, which begins with a blank. -/
theorem pairwise_split (offset : Nat) (input : List Char) :
    (split offset input).Pairwise (Precedes offset input) := by
  induction offset, input using split.induct with
  | case1 offset =>
    rw [split_nil]
    exact .nil
  | case2 offset c rest hc ih =>
    rw [split_blank hc]
    show (split (offset + c.utf8Size) rest).Pairwise (Precedes offset ([c] ++ rest))
    exact ih.imp fun h => h.prepend
  | case3 offset c rest hc word ih =>
    rw [Bool.not_eq_true] at hc
    have hinput : word ++ rest.dropWhile (!Text.isBlank ·) = c :: rest := by
      rw [List.cons_append, List.takeWhile_append_dropWhile]
    rw [split_solid hc, List.pairwise_cons, ← hinput]
    refine ⟨?_, ih.imp fun h => h.prepend⟩
    intro u hu
    -- the gap is what stands before the later token in the rest of the text
    obtain ⟨gap, after, hrest, hoffset⟩ := standsIn_of_mem_split hu
    refine ⟨[], gap, after, ?_, ne_nil_of_dropWhile (isWord_of_mem_split hu) hrest, rfl, hoffset⟩
    rw [hrest]
    simp [word]

/-! ## Tokens of a line

A line is a text that begins at byte zero, so what is true of texts is now said of spans. -/

/-- A token of a line is read at its span, so the text of a word or an argument is the part of the
line that its span points at. -/
theorem covers_of_mem_ofLine {line : String} {t : Token} (ht : t ∈ ofLine line) :
    t.span.Covers line t.chars := by
  obtain ⟨before, after, hline, hoffset⟩ := standsIn_of_mem_split ht
  exact ⟨before, after, hline, by rw [span, hoffset, Nat.zero_add], rfl⟩

/-- Of two tokens of a line, the later one stands behind the earlier one. This orders the spans of
the arguments as the arguments are ordered. -/
theorem precedes_of_lt {line : String} {i j : Nat} {t u : Token} (hij : i < j)
    (ht : (ofLine line)[i]? = some t) (hu : (ofLine line)[j]? = some u) :
    Precedes 0 line.toList t u := by
  obtain ⟨hi, rfl⟩ := List.getElem?_eq_some_iff.1 ht
  obtain ⟨hj, rfl⟩ := List.getElem?_eq_some_iff.1 hu
  exact List.pairwise_iff_getElem.1 (pairwise_split 0 line.toList) i j hi hj hij

example : (ofLine "é\tL  12").map span = [⟨0, 2⟩, ⟨3, 1⟩, ⟨6, 2⟩] := by decide +kernel

/-- A later token begins behind the end of an earlier one, since a gap takes at least one byte. -/
theorem Precedes.stop_lt {offset : Nat} {input : List Char} {t u : Token}
    (h : Precedes offset input t u) : t.span.stop < u.offset := by
  obtain ⟨before, gap, after, -, hgap, -, hu⟩ := h
  have hpos : 0 < Text.Utf8.length gap := Text.Utf8.length_pos hgap
  show t.offset + t.size < u.offset
  omega

/-- From an earlier token to the end of a later one is a part of the line and not the other way
round, which is what keeps the length of a span from being cut off at zero. -/
theorem Precedes.offset_le {offset : Nat} {input : List Char} {t u : Token}
    (h : Precedes offset input t u) : t.span.offset ≤ u.span.stop := by
  have hlt := h.stop_lt
  show t.offset ≤ u.offset + u.size
  simp only [span, Span.stop] at hlt
  omega

/-- What reaches from one token to a later one is a part of the line: the two tokens and the gap
between them. -/
theorem Precedes.covers_to {line : String} {t u : Token} (h : Precedes 0 line.toList t u) :
    ∃ gap, (t.span.to u.span).Covers line (t.chars ++ gap ++ u.chars) := by
  have hlt := h.stop_lt
  obtain ⟨before, gap, after, hline, -, ht, hu⟩ := h
  rw [Nat.zero_add] at ht
  refine ⟨gap, before, after, by rw [hline]; simp, ht, ?_⟩
  rw [Text.Utf8.length_append, Text.Utf8.length_append]
  show u.offset + u.size - t.offset = t.size + Text.Utf8.length gap + u.size
  omega

end Token

end Script

end PixelScript
