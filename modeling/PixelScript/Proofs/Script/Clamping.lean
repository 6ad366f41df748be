import PixelScript.Proofs.Canvas.Clamping
import PixelScript.Proofs.Script.Binding
import PixelScript.Script.Request

/-!
# Clamped numbers in a line

A line can be read with its numbers clamped or as they are. The two readings differ in those numbers
alone (`Record.ofTokens_clamp`), they bind to the same command with clamped numbers in its fields, and
where one of them does not fit, neither does the other, at the same part of the line
(`Request.ofRecord_clamped`). A colour is a number below ten if it is a number at all, so clamping does
not change it.
-/

namespace PixelScript.Script

/-! ## What is read

The two readings of a line use the same tree and differ only in what they do to a number. Everything
else in a record is the same on both sides. -/

/-- The value with its number clamped, if it is one. -/
def Value.clamped : Value → Value
  | .number n => .number (Number.clamp n)
  | .text s => .text s

/-- The argument with its value clamped, at the place where it stood. -/
def Argument.clamped (argument : Argument) : Argument :=
  { argument with value := argument.value.clamped }

/-- The record with all of its arguments clamped. The word that names the command is left alone. -/
def Record.clamped (record : Record) : Record :=
  { record with arguments := record.arguments.map Argument.clamped }

/-- The value can be read from a line: a text is not written in digits only. -/
def Value.IsRead : Value → Prop
  | .number _ => True
  | .text s => Text.Digits.isNumeral s.toList = false

/-- What a word says can be read: a word of digits is a number, so a text that is read is none. -/
theorem Value.isRead_ofWord (clamp : Nat → Nat) (word : List Char) : (ofWord clamp word).IsRead := by
  unfold ofWord
  split
  · trivial
  · next h =>
    rw [Bool.not_eq_true] at h
    rw [IsRead, String.toList_ofList, h]

theorem Value.ofWord_clamp (word : List Char) :
    ofWord Number.clamp word = (ofWord id word).clamped := by
  unfold ofWord
  split <;> rfl

theorem Record.ofTokens_clamp (tokens : List Token) :
    ofTokens Number.clamp tokens = (ofTokens id tokens).clamped := by
  cases tokens with
  | nil => rfl
  | cons t rest =>
    -- the two readings agree argument by argument
    have hargument : Token.argument Number.clamp = Argument.clamped ∘ Token.argument id := by
      funext t
      rw [Token.argument, Value.ofWord_clamp]
      rfl
    rw [ofTokens, ofTokens, clamped, List.map_map, hargument]

/-- All arguments of a line can be read from it. The refusal of a text that is written in digits is
thus never at issue. -/
theorem Record.isRead_ofTokens {clamp : Nat → Nat} {tokens : List Token} {v : Value}
    (hv : v ∈ (ofTokens clamp tokens).values) : v.IsRead := by
  cases tokens with
  | nil => cases hv
  | cons t rest =>
    rw [values, ofTokens, List.map_map] at hv
    obtain ⟨t', -, rfl⟩ := List.mem_map.1 hv
    exact Value.isRead_ofWord clamp t'.chars

/-! ## What is bound

Clamping the values of a record clamps the numbers of the command that they are bound to. The colour
is not touched, although it may have been given as a number. -/

/-- The field with its number clamped. -/
def Field.clamped : Field → Field
  | .number n => .number (Number.clamp n)
  | .colour k => .colour k

/-- The command with all of its numbers clamped. -/
def Command.clamped : Command → Command
  | .create width height => .create (Number.clamp width) (Number.clamp height)
  | .clear => .clear
  | .paint p k => .paint p.clamped k
  | .vertical col a b k => .vertical (Number.clamp col) (Number.clamp a) (Number.clamp b) k
  | .horizontal a b row k => .horizontal (Number.clamp a) (Number.clamp b) (Number.clamp row) k
  | .fill seed k => .fill seed.clamped k
  | .print => .print

@[simp] theorem Command.verb_clamped (command : Command) : command.clamped.verb = command.verb := by
  cases command <;> rfl

theorem Command.fields_clamped (command : Command) :
    command.clamped.fields = command.fields.map Field.clamped := by
  cases command <;> rfl

theorem Field.place_clamped (f : Field) : f.clamped.place = f.place := by
  cases f <;> rfl

/-- A colour is never clamped: a number of a single digit is small. A number that is no colour is
none after it was clamped, since the largest number has many digits. -/
theorem Value.pixel?_clamped (v : Value) : v.clamped.pixel? = v.pixel? := by
  cases v with
  | text s => rfl
  | number n =>
    -- one character is a digit of its own, and only numbers below ten are written with one
    ext k
    rw [Value.pixel?_eq_some_iff, Value.pixel?_eq_some_iff]
    show Text.Digits.decimal (Number.clamp n) = [k] ↔ Text.Digits.decimal n = [k]
    rw [Text.Digits.decimal_eq_singleton_iff, Text.Digits.decimal_eq_singleton_iff]
    apply and_congr_right
    intro hk
    rw [eq_comm, clamp_eq_digit_iff hk, eq_comm]

/-- A clamped value is put in a place exactly where the value is, and leaves there the clamped
field. -/
theorem Place.field?_clamped (place : Place) (v : Value) :
    place.field? v.clamped = (place.field? v).map Field.clamped := by
  cases place with
  | number => cases v <;> rfl
  | colour =>
    rw [field?, field?, Value.pixel?_clamped, Option.map_map]
    rfl

/-! ## What does not fit

The same argument is refused on both sides, and for the same reason. What is quoted of it differs
where it is a number that was clamped. -/

/-- A text that is a number, written with the clamped number. -/
def clampedText (text : String) : String :=
  if Text.Digits.isNumeral text.toList then
    String.ofList (Text.Digits.decimal (Number.clamp (Text.Digits.value text.toList)))
  else text

/-- The refusal of the clamped arguments. It quotes the clamped number if it quotes a number. -/
def BindError.clamped : BindError → BindError
  | .wrongArity verb found => .wrongArity verb found
  | .expectedInteger position => .expectedInteger position
  | .expectedPixel position found => .expectedPixel position (clampedText found)

theorem isNumeral_decimal (n : Nat) : Text.Digits.isNumeral (Text.Digits.decimal n) = true := by
  have hne : Text.Digits.decimal n ≠ [] := Nat.toDigits_ne_nil
  rw [isNumeral_iff hne]
  exact fun _ hc => Text.Digits.isDigit_of_mem_decimal hc

/-- The characters of the clamped value are those of the value, with a clamped number in the place
of a number. For a text that could be read as a number this would fail, which is why the value has
to be one that was read. -/
theorem Value.chars_clamped {v : Value} (hread : v.IsRead) :
    String.ofList v.clamped.chars = clampedText (String.ofList v.chars) := by
  cases v with
  | number n =>
    rw [chars, clampedText, String.toList_ofList, if_pos (isNumeral_decimal n),
      Text.Digits.value_decimal]
    rfl
  | text s =>
    -- a text that was read is no numeral, so it is quoted as it stands
    rw [clampedText, chars, String.ofList_toList, hread]
    exact String.ofList_toList

/-- What is said of the clamped value is what is said of the value, with the clamped number quoted.
-/
theorem Place.misfit_clamped (place : Place) (position : Nat) {v : Value} (hread : v.IsRead) :
    place.misfit position v.clamped = (place.misfit position v).clamped := by
  cases place with
  | number => rfl
  | colour => rw [misfit, misfit, Value.chars_clamped hread, BindError.clamped]

/-- Places are filled with clamped values as with the values themselves, and the first misfit is the
same. Induction on the places. -/
theorem fill_clamped {position : Nat} {places : List Place} {values : List Value}
    (hread : ∀ v ∈ values, v.IsRead) :
    fill position places (values.map Value.clamped) =
      ((fill position places values).map (List.map Field.clamped)).mapError BindError.clamped := by
  induction places generalizing position values with
  | nil => rfl
  | cons place places ih =>
    cases values with
    | nil => rfl
    | cons v values =>
      have ih := @ih (position + 1) values (fun v' hv' => hread v' (List.mem_cons_of_mem _ hv'))
      rw [List.map_cons, fill, fill, Place.field?_clamped]
      cases place.field? v with
      | none =>
        -- this is the first value that does not fit, on both sides
        show Except.error _ = Except.error _
        rw [Place.misfit_clamped place position (hread v List.mem_cons_self)]
      | some f =>
        show Except.map _ (fill _ _ _) = _
        rw [ih]
        cases fill (position + 1) places values <;> rfl

/-- Binding goes on with clamped numbers as it does without, and stops at the same argument. A
failure is followed through filling the places, and a success through the fields. -/
theorem bind_clamped (verb : Verb) {values : List Value} (hread : ∀ v ∈ values, v.IsRead) :
    Command.bind verb (values.map Value.clamped) =
      ((Command.bind verb values).map Command.clamped).mapError BindError.clamped := by
  cases hbind : Command.bind verb values with
  | error e =>
    show _ = Except.error e.clamped
    by_cases hlen : values.length = verb.arity
    · -- an argument does not fit, on both sides the same one
      have hfill := (bind_eq_error_iff hlen).1 hbind
      apply (bind_eq_error_iff (by rw [List.length_map, hlen])).2
      rw [fill_clamped hread, hfill]
      rfl
    · -- the number of arguments is wrong, and clamping keeps it
      rw [Command.bind_of_length_ne hlen, Except.error.injEq] at hbind
      rw [Command.bind_of_length_ne (by rwa [List.length_map]), List.length_map, ← hbind]
      rfl
  | ok command =>
    show _ = Except.ok command.clamped
    obtain ⟨hverb, hall⟩ := bind_eq_ok_iff.1 hbind
    refine bind_eq_ok_iff.2 ⟨by rw [Command.verb_clamped, hverb], ?_⟩
    rw [Command.fields_clamped, List.forall₂_map_left_iff, List.forall₂_map_right_iff]
    -- each field is the clamped one, in the place that it had before
    apply hall.imp
    intro v f hfield
    rw [Field.place_clamped, Place.field?_clamped, hfield]
    rfl

example : Command.bind .paint ([.number 4294967296, .number 0, .number 4294967296].map Value.clamped) =
    .error (.expectedPixel 2 "4294967295") := by decide +kernel

/-! ## Requests

A line is understood in the same way on both sides. A diagnostic is clamped by clamping the numbers
that it quotes; the part of the line that it points at stays where it is. -/

/-- The reason with the numbers that it quotes clamped. -/
def Reason.clamped : Reason → Reason
  | .misfit verb e => .misfit verb e.clamped
  | reason => reason

/-- The failure of the clamped line, at the same part of the line. -/
def ScriptError.clamped : ScriptError → ScriptError
  | .invalid reason source span => .invalid reason.clamped source span
  | .outOfBounds cause source span => .outOfBounds cause.clamped source span
  | .stream cause => .stream cause

/-- Two diagnostics point out the same part of the same line for the same kind of reason. They may differ
in the numbers that they quote. -/
structure ScriptError.SameButNumbers (e f : ScriptError) : Prop where
  kind : e.kind = f.kind
  code : e.code = f.code
  help : e.help = f.help
  labels : e.labels = f.labels
  source : e.source? = f.source?

/-- Clamping changes nothing in a diagnostic but its message and what its cause quotes. -/
theorem ScriptError.sameButNumbers_clamped (e : ScriptError) : e.clamped.SameButNumbers e := by
  cases e with
  | invalid reason source span => cases reason <;> exact ⟨rfl, rfl, rfl, rfl, rfl⟩
  | outOfBounds cause source span | stream cause => exact ⟨rfl, rfl, rfl, rfl, rfl⟩

/-- The request with its record and its command clamped. -/
def Request.clamped (request : Request) : Request :=
  { request with record := request.record.clamped, command := request.command.clamped }

theorem Record.values_clamped (record : Record) :
    record.clamped.values = record.values.map Value.clamped := by
  rw [values, values, clamped, List.map_map, List.map_map]
  rfl

/-- The argument that does not fit is found at the same part of the line. -/
theorem Record.misfit_clamped (record : Record) (source : SourceLine) (e : BindError) :
    record.clamped.misfit source e.clamped = record.misfit source e := by
  cases e with
  | wrongArity verb found => rfl
  | expectedInteger position | expectedPixel position found =>
    -- clamping keeps the number of the arguments and their places in the line
    simp only [BindError.clamped, misfit, clamped, List.getElem?_map]
    cases record.arguments[position]? <;> rfl

/-- The sides or coordinates stand at the same part of the line, as only the places of arguments
count here. -/
theorem Record.coordinates?_clamped (record : Record) (verb : Verb) :
    record.clamped.coordinates? verb = record.coordinates? verb := by
  simp only [coordinates?, clamped, List.head?_map, List.getElem?_map]
  cases coordinateCount verb with
  | zero => rfl
  | succ last =>
    dsimp only
    cases record.arguments.head? <;> cases record.arguments[last]? <;> rfl

theorem Request.coordinates_clamped (request : Request) :
    request.clamped.coordinates = request.coordinates := by
  simp only [coordinates, clamped, Record.coordinates?_clamped, Command.verb_clamped]

/-- A line asks for the same with its numbers clamped, or is refused for the same reason. The checks
are gone through in their order; only the last of them, the binding of the arguments, sees a number.
-/
theorem Request.ofRecord_clamped (hasCanvas : Bool) (source : SourceLine) {record : Record}
    (hread : ∀ v ∈ record.values, v.IsRead) :
    ofRecord hasCanvas source (some record.clamped) =
      ((ofRecord hasCanvas source (some record)).map Request.clamped).mapError
        ScriptError.clamped := by
  have hsame : record.clamped.command = record.command := rfl
  simp only [ofRecord, Record.values_clamped, bind_clamped _ hread, hsame]
  cases record.command with
  | none => rfl
  | some word =>
    dsimp only
    cases Verb.ofWord? word.text with
    | none => rfl
    | some verb =>
      dsimp only
      split
      · rfl
      · cases Command.bind verb record.values with
        | ok command => rfl
        | error e =>
          show Except.error (ScriptError.invalid _ _ (record.clamped.misfit source e.clamped)) = _
          rw [Record.misfit_clamped]
          rfl

end PixelScript.Script
