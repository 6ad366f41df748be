import Mathlib.Data.List.Forall2
import PixelScript.Text.Lines
import PixelScript.Text.Utf8

/-!
# Lines of parts, and lines of encoded texts

A text that ends a line can be cut off: the lines of the rest are not touched by it
(`LineMarks.lines_append`). A carriage return before every line feed, and a line feed at the very end,
change the lines by a carriage return at most (`LineMarks.lines_withReturns`,
`LineMarks.lines_concat_lineFeed`).

And it makes no difference whether a text is cut into lines before or after it is encoded, as long as the
encoding keeps the two marks apart from everything else (`LineMarks.lines_flatMap`). UTF-8 does
(`encodes_utf8`), so the lines of the bytes of a text are the bytes of its lines (`byteLines_toUTF8`).
-/

namespace PixelScript.Text

namespace LineMarks

variable {α β : Type} [DecidableEq α] [DecidableEq β] {m : LineMarks α} {n : LineMarks β}

/-! ## Parts

A text can be cut right behind a line feed, because nothing is pending there. So a script can be
handed over in parts. -/

/-- Up to a line feed and from it on, the lines can be taken separately. Induction on the text
before the line feed, with anything pending. -/
theorem linesAfter_append (pending text rest : List α) :
    m.linesAfter pending (text ++ m.lineFeed :: rest) =
      m.linesAfter pending (text ++ [m.lineFeed]) ++ m.lines rest := by
  induction text generalizing pending with
  | nil => simp [linesAfter, lines]
  | cons a text ih =>
    simp only [List.cons_append, linesAfter]
    -- a line feed inside the text ends a line on both sides, and nothing is pending after it
    split
    · rw [ih, List.cons_append]
    · exact ih _

/-- A text whose last line is ended, or that has no line. -/
def EndsLine (m : LineMarks α) (text : List α) : Prop :=
  text = [] ∨ ∃ before, text = before ++ [m.lineFeed]

/-- The lines of a text that ends a line come before the lines of the rest, and neither depend on
the other. -/
theorem lines_append {text : List α} (h : m.EndsLine text) (rest : List α) :
    m.lines (text ++ rest) = m.lines text ++ m.lines rest := by
  rcases h with rfl | ⟨before, rfl⟩
  · rfl
  · rw [List.append_assoc, List.singleton_append]
    exact linesAfter_append [] before rest

/-! ## Ends of lines

What may be done to the ends of lines without a change to the words in them. A carriage return is a
blank, so a line that keeps or loses one at its end says the same. -/

/-- The second line is the first one, with a carriage return at its end or without. -/
def SameButReturn (m : LineMarks α) (line line' : List α) : Prop :=
  line' = line ∨ line' = line ++ [m.carriageReturn]

/-- Dropping the carriage return at the end of a line leaves a line that is the same but for it. -/
theorem sameButReturn_dropReturn (pending : List α) :
    m.SameButReturn (m.dropReturn pending).reverse pending.reverse := by
  cases pending with
  | nil => exact .inl rfl
  | cons a rest =>
    rw [dropReturn]
    split
    · next ha => exact .inr (by rw [List.reverse_cons, ha])
    · exact .inl rfl

/-- The text with a carriage return before every line feed. -/
def withReturns (m : LineMarks α) (text : List α) : List α :=
  text.flatMap fun a => if a = m.lineFeed then [m.carriageReturn, a] else [a]

/-- With a carriage return put before every line feed, each line is the same but for a carriage
return at its end. The new one is dropped where the line ends, and only one that was there before
stays. -/
theorem linesAfter_withReturns (h : m.carriageReturn ≠ m.lineFeed) (pending text : List α) :
    List.Forall₂ m.SameButReturn (m.linesAfter pending text)
      (m.linesAfter pending (m.withReturns text)) := by
  induction text generalizing pending with
  | nil => exact List.forall₂_same.2 fun _ _ => .inl rfl
  | cons a text ih =>
    rw [withReturns, List.flatMap_cons]
    by_cases ha : a = m.lineFeed
    · -- the line end drops the carriage return before it, and no other one
      have hfeed : m.linesAfter pending (m.carriageReturn :: m.lineFeed :: m.withReturns text) =
          pending.reverse :: m.linesAfter [] (m.withReturns text) := by
        rw [linesAfter, if_neg h, linesAfter, if_pos rfl, dropReturn, if_pos rfl]
      rw [if_pos ha, ha, linesAfter, if_pos rfl, List.cons_append, List.singleton_append,
        ← withReturns, hfeed]
      exact .cons (sameButReturn_dropReturn pending) (ih [])
    · rw [if_neg ha, linesAfter, if_neg ha, List.singleton_append, linesAfter, if_neg ha]
      exact ih (a :: pending)

theorem lines_withReturns (h : m.carriageReturn ≠ m.lineFeed) (text : List α) :
    List.Forall₂ m.SameButReturn (m.lines text) (m.lines (m.withReturns text)) :=
  linesAfter_withReturns h [] text

/-- A line feed at the end of a text that does not end with one ends the line that is pending there,
which is then the same but for a carriage return. Induction on the text, with anything pending. -/
theorem linesAfter_concat_lineFeed {pending text : List α} (hne : pending ≠ [] ∨ text ≠ [])
    (hlast : text.getLast? ≠ some m.lineFeed) :
    List.Forall₂ m.SameButReturn (m.linesAfter pending (text ++ [m.lineFeed]))
      (m.linesAfter pending text) := by
  induction text generalizing pending with
  | nil =>
    -- what is pending is not empty, so it is a line even where no line feed ends it
    have hpending : m.linesAfter pending [] = [pending.reverse] := by
      rw [linesAfter, if_neg (by simpa using hne)]
    rw [List.nil_append, hpending, linesAfter, if_pos rfl]
    exact .cons (sameButReturn_dropReturn pending) .nil
  | cons a text ih =>
    have hrest : text.getLast? ≠ some m.lineFeed := by
      intro hrest
      apply hlast
      rw [List.getLast?_cons, hrest]
      rfl
    rw [List.cons_append, linesAfter, linesAfter]
    by_cases ha : a = m.lineFeed
    · -- a line feed that is not the last character is followed by something
      have htext : text ≠ [] := by
        rintro rfl
        exact hlast (by rw [ha]; rfl)
      rw [if_pos ha, if_pos ha]
      exact .cons (.inl rfl) (ih (.inr htext) hrest)
    · rw [if_neg ha, if_neg ha]
      exact ih (.inl (List.cons_ne_nil a pending)) hrest

/-- A line feed at the end of a text without one ends its last line. The number of lines stays the
same. -/
theorem lines_concat_lineFeed {text : List α} (hne : text ≠ [])
    (hlast : text.getLast? ≠ some m.lineFeed) :
    List.Forall₂ m.SameButReturn (m.lines (text ++ [m.lineFeed])) (m.lines text) :=
  linesAfter_concat_lineFeed (.inr hne) hlast

/-! ## Encodings

Cutting a text into lines and encoding it can be done in either order. Nothing is asked of the
encoding but that it treats the two marks as marks. -/

/-- An encoding that writes the two marks as marks, and writes neither mark for anything else. -/
structure Encodes (m : LineMarks α) (n : LineMarks β) (encode : α → List β) : Prop where
  lineFeed : encode m.lineFeed = [n.lineFeed]
  carriageReturn : encode m.carriageReturn = [n.carriageReturn]
  ne_nil : ∀ a, encode a ≠ []
  eq_lineFeed : ∀ a, n.lineFeed ∈ encode a → a = m.lineFeed
  eq_carriageReturn : ∀ a, n.carriageReturn ∈ encode a → a = m.carriageReturn

variable {encode : α → List β}

/-- A part without a line feed belongs to the line that is pending, as a whole. Induction on the
part. -/
theorem linesAfter_append_of_not_mem {part : List β} (h : n.lineFeed ∉ part) (pending rest : List β) :
    n.linesAfter pending (part ++ rest) = n.linesAfter (part.reverse ++ pending) rest := by
  induction part generalizing pending with
  | nil => rfl
  | cons b part ih =>
    -- the next element is no line feed and goes to the pending line
    obtain ⟨hb, hpart⟩ : n.lineFeed ≠ b ∧ n.lineFeed ∉ part := by simpa using h
    rw [List.cons_append, linesAfter, if_neg (Ne.symm hb), ih hpart, List.reverse_cons,
      List.append_assoc, List.singleton_append]

omit [DecidableEq α] [DecidableEq β] in
/-- What a reversed line is encoded to, read from its end. -/
theorem reverse_flatMap_cons (encode : α → List β) (a : α) (pending : List α) :
    ((a :: pending).reverse.flatMap encode).reverse =
      (encode a).reverse ++ (pending.reverse.flatMap encode).reverse := by
  simp

/-- A carriage return at the end of a line is dropped before or after encoding. A line that ends
with another character keeps its end either way, as no encoding of another character has a carriage
return in it. -/
theorem Encodes.dropReturn (h : Encodes m n encode) (pending : List α) :
    (n.dropReturn (pending.reverse.flatMap encode).reverse).reverse =
      (m.dropReturn pending).reverse.flatMap encode := by
  cases pending with
  | nil => rfl
  | cons a rest =>
    rw [reverse_flatMap_cons]
    by_cases ha : a = m.carriageReturn
    · -- the encoded carriage return is a single mark, which is dropped in the same way
      rw [ha, h.carriageReturn, LineMarks.dropReturn, if_pos rfl]
      simp [LineMarks.dropReturn]
    · -- the encoding of another character does not end with a carriage return
      obtain ⟨b, part, hpart⟩ := List.exists_cons_of_ne_nil
        (List.reverse_ne_nil_iff.2 (h.ne_nil a))
      have hb : b ≠ n.carriageReturn := by
        intro hb
        have hmem : b ∈ (encode a).reverse := hpart ▸ List.mem_cons_self
        exact ha (h.eq_carriageReturn a (hb ▸ List.mem_reverse.1 hmem))
      have hkeeps : n.dropReturn ((encode a).reverse ++ (rest.reverse.flatMap encode).reverse) =
          (encode a).reverse ++ (rest.reverse.flatMap encode).reverse := by
        rw [hpart, List.cons_append, LineMarks.dropReturn, if_neg hb]
      rw [hkeeps, LineMarks.dropReturn, if_neg ha]
      simp

/-- The lines behind a pending line are encoded one by one. Induction on the text: a line feed ends
a line on both sides, and any other character extends the pending one by its encoding. -/
theorem Encodes.linesAfter (h : Encodes m n encode) (pending text : List α) :
    n.linesAfter (pending.reverse.flatMap encode).reverse (text.flatMap encode) =
      (m.linesAfter pending text).map (·.flatMap encode) := by
  induction text generalizing pending with
  | nil =>
    cases pending with
    | nil => rfl
    | cons a rest =>
      -- something is pending on both sides, since no encoding is empty
      simp [LineMarks.linesAfter, h.ne_nil a]
  | cons a rest ih =>
    rw [List.flatMap_cons]
    by_cases ha : a = m.lineFeed
    · rw [ha, h.lineFeed, List.singleton_append, LineMarks.linesAfter, if_pos rfl,
        LineMarks.linesAfter, if_pos rfl, List.map_cons, h.dropReturn]
      exact congrArg _ (ih [])
    · -- no part of the character ends a line
      have hfeed : n.lineFeed ∉ encode a := fun hmem => ha (h.eq_lineFeed a hmem)
      rw [linesAfter_append_of_not_mem hfeed, LineMarks.linesAfter, if_neg ha,
        ← reverse_flatMap_cons]
      exact ih (a :: pending)

theorem lines_flatMap (h : Encodes m n encode) (text : List α) :
    n.lines (text.flatMap encode) = (m.lines text).map (·.flatMap encode) :=
  h.linesAfter [] text

end LineMarks

/-! ## UTF-8

The one encoding that scripts come in. Its longer sequences use bytes from 128 on alone, so neither
mark occurs in them. -/

/-- A byte below 128 stands for itself in the encoding of a character: it is the only byte of the
encoding of that character, and no other encoding has it. -/
theorem toNat_of_mem_utf8EncodeChar {c : Char} {b : UInt8} (hb : b.toNat < 128)
    (h : b ∈ String.utf8EncodeChar c) : c.toNat = b.toNat := by
  -- all bytes of an encoding are written as numbers below 256
  have hbyte {n : Nat} (hn : n < 256) (heq : b = UInt8.ofNat n) : b.toNat = n := by
    rw [heq, UInt8.toNat_ofNat', Nat.mod_eq_of_lt hn]
  simp only [String.utf8EncodeChar] at h
  by_cases hshort : c.val.toNat ≤ 127
  · rw [if_pos hshort, List.mem_singleton] at h
    exact (hbyte (by omega) h).symm
  · -- the bytes of a longer encoding are all at least 128
    rw [if_neg hshort] at h
    split at h
    · simp only [List.mem_cons, List.not_mem_nil, or_false] at h
      rcases h with h | h <;> have := hbyte (by omega) h <;> omega
    · split at h
      · simp only [List.mem_cons, List.not_mem_nil, or_false] at h
        rcases h with h | h | h <;> have := hbyte (by omega) h <;> omega
      · simp only [List.mem_cons, List.not_mem_nil, or_false] at h
        rcases h with h | h | h | h <;> have := hbyte (by omega) h <;> omega

/-- UTF-8 keeps the two marks apart from everything else. -/
theorem encodes_utf8 : LineMarks.chars.Encodes LineMarks.bytes String.utf8EncodeChar where
  lineFeed := by rfl
  carriageReturn := by rfl
  ne_nil _ := String.utf8EncodeChar_ne_nil
  eq_lineFeed c h := Char.toNat_inj.1 (toNat_of_mem_utf8EncodeChar (by decide) h)
  eq_carriageReturn c h := Char.toNat_inj.1 (toNat_of_mem_utf8EncodeChar (by decide) h)

/-- The lines of the bytes of a text are the bytes of its lines. So a script that is read as bytes
has the lines of the text that the bytes encode. -/
theorem byteLines_toUTF8 (text : String) :
    byteLines text.toUTF8 = (lines text).map String.toUTF8 := by
  have hbytes : text.toUTF8.data.toList = text.toList.flatMap String.utf8EncodeChar := by
    rw [String.toUTF8, ← String.utf8Encode_toList, List.utf8Encode, List.data_toByteArray]
  have hline (line : List Char) :
      (line.flatMap String.utf8EncodeChar).toByteArray = (String.ofList line).toUTF8 := by
    rw [String.toUTF8, String.toByteArray_ofList, List.utf8Encode]
  rw [byteLines, hbytes, LineMarks.lines_flatMap encodes_utf8, lines, List.map_map, List.map_map]
  exact List.map_congr_left fun line _ => hline line

end PixelScript.Text
