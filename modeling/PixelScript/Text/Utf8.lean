/-!
# UTF-8

Lengths, spans and output are counted in bytes of UTF-8. Encoding and strict decoding are those of
`String`. `decodeLossy` decodes anything: it agrees with the strict decoding where that succeeds
(`decodeLossy_toUTF8`), and elsewhere puts one U+FFFD for each part of the bytes that a character
could have begun with, and one for each byte that begins no character at all.
-/

namespace PixelScript.Text.Utf8

/-- How many bytes the characters take. -/
def length : List Char → Nat
  | [] => 0
  | c :: cs => c.utf8Size + length cs

/-! ### Bytes that are no text -/

/-- What has to follow the first byte of a character that takes more than one: the least and the
greatest second byte, and how many continuation bytes come behind it. The second byte is narrowed
down where it would make an encoding longer than necessary, a surrogate or a code point that is too
large. No character of more than one byte begins with any other byte. -/
def follow? (first : UInt8) : Option (UInt8 × UInt8 × Nat) :=
  if 0xc2 ≤ first ∧ first ≤ 0xdf then some (0x80, 0xbf, 0)
  else if first = 0xe0 then some (0xa0, 0xbf, 1)
  else if first = 0xed then some (0x80, 0x9f, 1)
  else if 0xe1 ≤ first ∧ first ≤ 0xef then some (0x80, 0xbf, 1)
  else if first = 0xf0 then some (0x90, 0xbf, 2)
  else if 0xf1 ≤ first ∧ first ≤ 0xf3 then some (0x80, 0xbf, 2)
  else if first = 0xf4 then some (0x80, 0x8f, 2)
  else none

/-- How many bytes one U+FFFD stands for, at the start of bytes that begin with no character: as many
as a character could have begun with, and at least one. -/
def brokenLength : List UInt8 → Nat
  | first :: second :: rest =>
    match follow? first with
    | some (least, greatest, more) =>
      if least ≤ second ∧ second ≤ greatest then
        2 + ((rest.take more).takeWhile fun b => 0x80 ≤ b ∧ b ≤ 0xbf).length
      else 1
    | none => 1
  | _ => 1

/-- Decoding gets on also where nothing can be decoded. -/
theorem brokenLength_pos (bytes : List UInt8) : 0 < brokenLength bytes := by
  unfold brokenLength
  split
  · split
    · split <;> omega
    · exact Nat.one_pos
  · exact Nat.one_pos

/-- The characters from an offset on, with U+FFFD for each part that is broken off. A character takes
four bytes at most, so no more of them are looked at. -/
def decodeFrom (bytes : ByteArray) (offset : Nat) : List Char :=
  if offset < bytes.size then
    match bytes.utf8DecodeChar? offset with
    | some c => c :: decodeFrom bytes (offset + c.utf8Size)
    | none =>
      '\ufffd' :: decodeFrom bytes
        (offset + brokenLength (bytes.extract offset (offset + 4)).data.toList)
  else []
termination_by bytes.size - offset
decreasing_by
  · have := c.utf8Size_pos
    omega
  · have := brokenLength_pos (bytes.extract offset (offset + 4)).data.toList
    omega

/-- The text that the bytes encode, with U+FFFD for each part that is broken off. -/
def decodeLossy (bytes : ByteArray) : String :=
  (String.fromUTF8? bytes).getD (String.ofList (decodeFrom bytes 0))

/-- A character that lacks its last byte is one U+FFFD. A surrogate is three of them, as no character
begins with its first two bytes. -/
example : decodeLossy ⟨#[0xf0, 0x9f, 0x98, 0x41, 0xed, 0xa0, 0x80]⟩ = "\ufffdA\ufffd\ufffd\ufffd" := by
  decide +kernel

/-! ### Lengths -/

@[simp] theorem length_nil : length [] = 0 := rfl

@[simp] theorem length_cons (c : Char) (cs : List Char) :
    length (c :: cs) = c.utf8Size + length cs := rfl

/-- Texts that stand one behind the other take as many bytes as both of them, so the offset of a part
is the length of what stands before it. Induction on the first text. -/
@[simp] theorem length_append (cs ds : List Char) :
    length (cs ++ ds) = length cs + length ds := by
  induction cs with
  | nil => rw [List.nil_append, length_nil, Nat.zero_add]
  | cons c cs ih => rw [List.cons_append, length_cons, length_cons, ih, Nat.add_assoc]

/-! ### Decoding what was encoded

Everything that is printed and every text that is run as bytes was encoded from a string, so these
are the only bytes that the decodings below meet. -/

theorem fromUTF8?_toUTF8 (s : String) : String.fromUTF8? s.toUTF8 = some s := by
  have h : s.toUTF8.IsValidUTF8 := s.isValidUTF8
  rw [String.fromUTF8?, dif_pos h]
  rfl

/-- Strict decoding gives back what was encoded, for any number of texts, such as the lines of a
script, each of which is encoded and decoded on its own. -/
theorem map_fromUTF8?_toUTF8 (texts : List String) :
    (texts.map String.toUTF8).map String.fromUTF8? = texts.map some := by
  rw [List.map_map]
  exact List.map_congr_left fun text _ => fromUTF8?_toUTF8 text

/-- Lossy decoding loses nothing of the encoding of a text. -/
@[simp] theorem decodeLossy_toUTF8 (s : String) : decodeLossy s.toUTF8 = s := by
  rw [decodeLossy, fromUTF8?_toUTF8, Option.getD_some]

end PixelScript.Text.Utf8
