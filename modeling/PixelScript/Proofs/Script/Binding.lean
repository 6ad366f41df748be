import Mathlib.Data.List.Forall2
import PixelScript.Proofs.Script.Reading
import PixelScript.Script.Command

/-!
# What arguments are bound to

Every verb has places for its arguments, a number or a colour each. Binding succeeds exactly if there
are as many values as places and every value fits its place, and the command then has the values
in its fields (`bind_eq_ok_iff`). Of several words that do not fit, the leftmost is reported
(`fill_ofWord`).

* `Place`, `Verb.places`: what a verb expects.
* `Field`, `Command.fields`: what a command holds, in the order of its verb's places.
* `misfit?`: the leftmost value that does not fit.
-/

namespace PixelScript.Script

/-- What an argument has to be. -/
inductive Place where
  | number
  | colour
deriving DecidableEq

/-- The places that a verb has for its arguments, from left to right. -/
def Verb.places : Verb → List Place
  | .clear | .print => []
  | .create => [.number, .number]
  | .paint | .fill => [.number, .number, .colour]
  | .vertical | .horizontal => [.number, .number, .number, .colour]

/-- A verb has a place for each of its arguments, so the two descriptions of what it expects agree.
-/
theorem Verb.length_places (v : Verb) : v.places.length = v.arity := by
  cases v <;> rfl

/-- What stands in a place once the argument is known. -/
inductive Field where
  | number (n : Nat)
  | colour (k : Char)
deriving DecidableEq

/-- What a command holds, in the order of its verb's places. -/
def Command.fields : Command → List Field
  | .create width height => [.number width, .number height]
  | .clear | .print => []
  | .paint p k | .fill p k => [.number p.col, .number p.row, .colour k]
  | .vertical col a b k => [.number col, .number a, .number b, .colour k]
  | .horizontal a b row k => [.number a, .number b, .number row, .colour k]

/-- A command is known by its verb and its fields. Points are taken apart into their two numbers,
which are fields of their own. -/
theorem Command.eq_of_fields {c d : Command} (hverb : c.verb = d.verb)
    (hfields : c.fields = d.fields) : c = d := by
  cases c <;> cases d <;> simp_all [Command.verb, Command.fields]
  case paint.paint p _ q _ =>
    cases p
    cases q
    simp_all
  case fill.fill p _ q _ =>
    cases p
    cases q
    simp_all

/-- The place that a field stands in. -/
def Field.place : Field → Place
  | .number _ => .number
  | .colour _ => .colour

theorem Command.map_place_fields (c : Command) : c.fields.map Field.place = c.verb.places := by
  cases c <;> rfl

/-! ## Values in places

The binder of the program takes one verb after the other. Here it is described by a single recursion
over places and values, from which the order of its checks can be read off. -/

/-- What stands in a place once a value is put there. -/
def Place.field? : Place → Value → Option Field
  | .number, v => v.number?.map .number
  | .colour, v => v.pixel?.map .colour

/-- What is said of a value that does not fit. -/
def Place.misfit : Place → Nat → Value → BindError
  | .number, position, _ => .expectedInteger position
  | .colour, position, v => .expectedPixel position (String.ofList v.chars)

theorem Place.place_of_field? {place : Place} {v : Value} {f : Field}
    (h : place.field? v = some f) : f.place = place := by
  cases place <;>
  · obtain ⟨_, _, rfl⟩ := Option.map_eq_some_iff.1 h
    rfl

/-- Puts values in places from left to right, the first one at `position`. -/
def fill : Nat → List Place → List Value → Except BindError (List Field)
  | position, place :: places, v :: values =>
    match place.field? v with
    | some f => (fill (position + 1) places values).map (f :: ·)
    | none => .error (place.misfit position v)
  | _, _, _ => .ok []

/-- With a value for every place, binding is filling the places, in its result and in its error.
Each verb is gone through with each of its values fitting or not, since the binder writes these
cases out. -/
theorem bind_parts {verb : Verb} {values : List Value} (h : values.length = verb.arity) :
    (Command.bind verb values).map (fun c => (c.verb, c.fields)) =
      (fill 0 verb.places values).map (verb, ·) := by
  -- one case for each value that fits or does not
  -- the verbs of one arity have their places in common, so they are taken together
  cases verb with
  | clear | print =>
    rw [List.length_eq_zero_iff.1 h]
    rfl
  | create =>
    obtain ⟨a, b, rfl⟩ := List.length_eq_two.1 h
    cases ha : a.number? <;> cases hb : b.number? <;>
      simp [Command.bind, Command.bindNumber, Command.verb, Command.fields, Verb.places, fill,
        Place.field?, Place.misfit, ha, hb, Except.map, bind, Except.bind, pure, Except.pure]
  | paint | fill =>
    obtain ⟨a, b, k, rfl⟩ := List.length_eq_three.1 h
    cases ha : a.number? <;> cases hb : b.number? <;> cases hk : k.pixel? <;>
      simp [Command.bind, Command.bindNumber, Command.bindPixel, Command.verb, Command.fields,
        Verb.places, fill, Place.field?, Place.misfit, ha, hb, hk, Except.map, bind, Except.bind,
        pure, Except.pure]
  | vertical | horizontal =>
    obtain ⟨a, rest, rfl⟩ := List.exists_cons_of_length_eq_add_one h
    obtain ⟨b, c, k, rfl⟩ := List.length_eq_three.1 (Nat.succ.inj h)
    cases ha : a.number? <;> cases hb : b.number? <;> cases hc : c.number? <;>
      cases hk : k.pixel? <;>
      simp [Command.bind, Command.bindNumber, Command.bindPixel, Command.verb, Command.fields,
        Verb.places, fill, Place.field?, Place.misfit, ha, hb, hc, hk, Except.map, bind,
        Except.bind, pure, Except.pure]

/-- Filling succeeds with the fields that the values give, place by place. Induction on the places,
with a value for each of them. -/
theorem fill_eq_ok_iff {position : Nat} {places : List Place} {values : List Value}
    {fields : List Field} (h : values.length = places.length) :
    fill position places values = .ok fields ↔
      fields.map Field.place = places ∧
        List.Forall₂ (fun v f => f.place.field? v = some f) values fields := by
  induction places generalizing position values fields with
  | nil =>
    rw [List.length_eq_zero_iff.1 h, fill, Except.ok.injEq, List.forall₂_nil_left_iff,
      List.map_eq_nil_iff, and_self, eq_comm]
    simp
  | cons place places ih =>
    obtain ⟨v, values, rfl⟩ := List.exists_cons_of_length_eq_add_one h
    have hlen : values.length = places.length := Nat.succ.inj h
    rw [fill]
    cases hv : place.field? v with
    | none =>
      -- nothing can stand in the first place
      constructor
      · intro hok
        cases hok
      · rintro ⟨hplaces, hall⟩
        cases hall with
        | cons hhead _ =>
          rw [List.map_cons, List.cons.injEq] at hplaces
          rw [hplaces.1, hv] at hhead
          cases hhead
    | some f =>
      constructor
      · intro hok
        cases hrest : fill (position + 1) places values with
        | error e =>
          simp only [hrest] at hok
          cases hok
        | ok rest =>
          simp only [hrest] at hok
          cases hok
          obtain ⟨hplaces, hall⟩ := (ih hlen).1 hrest
          have hplace := Place.place_of_field? hv
          refine ⟨by rw [List.map_cons, hplace, hplaces], .cons ?_ hall⟩
          rw [hplace, hv]
      · rintro ⟨hplaces, hall⟩
        -- the first field is the one that the first value gives, since their places agree
        cases hall with
        | @cons _ g _ rest hhead htail =>
          rw [List.map_cons, List.cons.injEq] at hplaces
          rw [hplaces.1, hv, Option.some.injEq] at hhead
          simp only [(ih hlen).2 ⟨hplaces.2, htail⟩, hhead]
          rfl

/-- A change to what a success carries makes no difference to a failure. -/
theorem map_eq_error_iff {ε α β : Type} {f : α → β} {x : Except ε α} {e : ε} :
    x.map f = .error e ↔ x = .error e := by
  cases x <;> simp [Except.map]

/-- A value that does not fit is reported with its position. Induction on the places: the error
comes from the first value, or from those behind it, whose positions are counted on. -/
theorem fill_eq_error {position : Nat} {places : List Place} {values : List Value} {e : BindError}
    (h : fill position places values = .error e) :
    ∃ i v, ∃ place : Place, values[i]? = some v ∧ e = place.misfit (position + i) v := by
  induction places generalizing position values with
  | nil => cases h
  | cons place places ih =>
    cases values with
    | nil => cases h
    | cons v values =>
      rw [fill] at h
      cases hv : place.field? v with
      | none =>
        rw [hv] at h
        cases h
        exact ⟨0, v, place, rfl, rfl⟩
      | some f =>
        simp only [hv, map_eq_error_iff] at h
        obtain ⟨i, w, misplaced, hw, rfl⟩ := ih h
        refine ⟨i + 1, w, misplaced, hw, ?_⟩
        rw [Nat.add_assoc, Nat.add_comm 1 i]

/-- With a value for every place, binding fails just as filling the places does, since only what a
success carries is different (`bind_parts`). -/
theorem bind_eq_error_iff {verb : Verb} {values : List Value} {e : BindError}
    (hlen : values.length = verb.arity) :
    Command.bind verb values = .error e ↔ fill 0 verb.places values = .error e := by
  rw [← map_eq_error_iff (f := fun c : Command => (c.verb, c.fields)), bind_parts hlen,
    map_eq_error_iff]

/-- Once the places are filled there is a command with what stands in them. -/
theorem exists_bind_of_fill {verb : Verb} {values : List Value} {fields : List Field}
    (hlen : values.length = verb.arity) (hfill : fill 0 verb.places values = .ok fields) :
    ∃ c, Command.bind verb values = .ok c ∧ c.verb = verb ∧ c.fields = fields := by
  have hparts := bind_parts hlen
  rw [hfill] at hparts
  cases hbind : Command.bind verb values with
  | error e =>
    rw [hbind] at hparts
    cases hparts
  | ok c =>
    rw [hbind] at hparts
    simp only [Except.map, Except.ok.injEq, Prod.mk.injEq] at hparts
    exact ⟨c, rfl, hparts⟩

/-- A verb and values are bound to the command of that verb whose fields they give. The right side
says nothing about the order of the checks, which plays no part once all of them are passed. -/
theorem bind_eq_ok_iff {verb : Verb} {values : List Value} {c : Command} :
    Command.bind verb values = .ok c ↔
      c.verb = verb ∧ List.Forall₂ (fun v f => f.place.field? v = some f) values c.fields := by
  constructor
  · intro hbind
    -- a wrong number of values would have been an error
    have hlen : values.length = verb.arity := by
      by_contra hne
      rw [Command.bind_of_length_ne hne] at hbind
      cases hbind
    have hparts := bind_parts hlen
    rw [hbind] at hparts
    cases hfill : fill 0 verb.places values with
    | error e =>
      rw [hfill] at hparts
      cases hparts
    | ok fields =>
      rw [hfill] at hparts
      simp only [Except.map, Except.ok.injEq, Prod.mk.injEq] at hparts
      obtain ⟨hverb, hfields⟩ := hparts
      refine ⟨hverb, ?_⟩
      rw [hfields]
      exact ((fill_eq_ok_iff (by rw [hlen, Verb.length_places])).1 hfill).2
  · rintro ⟨hverb, hall⟩
    -- each value gives one field, and there is one field for each place
    have hlen : values.length = verb.places.length := by
      rw [hall.length_eq, ← hverb, ← Command.map_place_fields, List.length_map]
    have hfill : fill 0 verb.places values = .ok c.fields :=
      (fill_eq_ok_iff hlen).2 ⟨hverb ▸ c.map_place_fields, hall⟩
    obtain ⟨d, hbind, hsame, hfields⟩ := exists_bind_of_fill (hlen.trans verb.length_places) hfill
    rw [hbind, Command.eq_of_fields (hsame.trans hverb.symm) hfields]

/-! ## Words in places

What the values that come from words can stand for. A number may have leading zeros, and a colour
may be the digits of a number below ten, so several words spell the same field. -/

/-- Whether a word can stand in a place: digits for a number, and for a colour a single character or
the digits of a number below ten. -/
def Place.Fits : Place → List Char → Prop
  | .number, word => ∀ c ∈ word, c.isDigit
  | .colour, word =>
    word.length = 1 ∨ (∀ c ∈ word, c.isDigit) ∧ Text.Digits.value word < 10

instance : (place : Place) → DecidablePred place.Fits
  | .number, word => decidable_of_iff (word.all Char.isDigit) List.all_eq_true
  | .colour, word =>
    decidable_of_iff (word.length = 1 ∨ word.all Char.isDigit ∧ Text.Digits.value word < 10)
      (by rw [List.all_eq_true]; rfl)

/-- Whether a word spells what stands in a field. A colour that is a digit may be spelled by any
digits of its value. -/
def Field.SpelledBy : Field → List Char → Prop
  | .number n, word => (∀ c ∈ word, c.isDigit) ∧ Number.clamp (Text.Digits.value word) = n
  | .colour k, word =>
    word = [k] ∨
      k.isDigit ∧ (∀ c ∈ word, c.isDigit) ∧ Text.Digits.value word = Text.Digits.value [k]

instance : (f : Field) → DecidablePred f.SpelledBy
  | .number n, word =>
    decidable_of_iff (word.all Char.isDigit ∧ Number.clamp (Text.Digits.value word) = n)
      (by rw [List.all_eq_true]; rfl)
  | .colour k, word =>
    decidable_of_iff (word = [k] ∨
        k.isDigit ∧ word.all Char.isDigit ∧ Text.Digits.value word = Text.Digits.value [k])
      (by rw [List.all_eq_true]; rfl)

theorem isNumeral_iff {word : List Char} (hne : word ≠ []) :
    Text.Digits.isNumeral word = true ↔ ∀ c ∈ word, c.isDigit := by
  rw [Text.Digits.isNumeral, Bool.and_eq_true, List.all_eq_true]
  simp [hne]

/-- A value is a colour if it is written with a single character, which is that colour. -/
theorem Value.pixel?_eq_some_iff {v : Value} {k : Char} : v.pixel? = some k ↔ v.chars = [k] := by
  unfold Value.pixel?
  split
  · next c h => rw [h, Option.some.injEq, List.singleton_inj]
  · next h =>
    constructor
    · intro hnone
      cases hnone
    · intro hk
      exact absurd hk (h k)

/-- A number is not clamped to a single digit: what is worth as much as a digit is small. So digits
that name a colour may be of any length, and clamping them does not let others pass. -/
theorem clamp_eq_digit_iff {k : Char} (hk : k.isDigit) {n : Nat} :
    Number.clamp n = Text.Digits.value [k] ↔ n = Text.Digits.value [k] :=
  Number.clamp_eq_iff (Nat.lt_trans (Text.Digits.value_singleton_lt hk) (by decide))

/-- The value of a word has in a place just what the word spells. For a number this is the clamped
value of its digits. For a colour there are two ways to be spelled, and a word of digits that is a
single character is both of them. -/
theorem field?_ofWord_eq_some_iff {word : List Char} (hne : word ≠ []) {f : Field} :
    f.place.field? (Value.ofWord Number.clamp word) = some f ↔ f.SpelledBy word := by
  cases f with
  | number n =>
    simp only [Field.place, Place.field?, Value.ofWord, isNumeral_iff hne, Field.SpelledBy]
    split
    · next hdigits =>
      constructor
      · intro h
        cases h
        exact ⟨hdigits, rfl⟩
      · rintro ⟨-, rfl⟩
        rfl
    · next hdigits => simp [Value.number?, hdigits]
  | colour k =>
    simp only [Field.place, Place.field?, Value.ofWord, isNumeral_iff hne, Field.SpelledBy]
    have hmap : ∀ v : Value, v.pixel?.map Field.colour = some (.colour k) ↔ v.chars = [k] := by
      intro v
      rw [← Value.pixel?_eq_some_iff]
      simp
    rw [hmap]
    split
    · next hdigits =>
      show Text.Digits.decimal _ = [k] ↔ _
      rw [Text.Digits.decimal_eq_singleton_iff]
      constructor
      · rintro ⟨hk, hvalue⟩
        exact .inr ⟨hk, hdigits, (clamp_eq_digit_iff hk).1 hvalue.symm⟩
      · rintro (rfl | ⟨hk, -, hvalue⟩)
        · have hk : k.isDigit := hdigits k (List.mem_singleton_self k)
          exact ⟨hk, ((clamp_eq_digit_iff hk).2 rfl).symm⟩
        · exact ⟨hk, ((clamp_eq_digit_iff hk).2 hvalue).symm⟩
    · next hdigits =>
      show (String.ofList word).toList = [k] ↔ _
      rw [String.toList_ofList]
      simp [hdigits]

/-- A word fits a place exactly if it spells something that can stand there. For a colour in digits,
what it spells is the digit that is worth as much. -/
theorem fits_iff_exists_spelledBy {place : Place} {word : List Char} :
    place.Fits word ↔ ∃ f : Field, f.place = place ∧ f.SpelledBy word := by
  cases place with
  | number =>
    constructor
    · intro hdigits
      exact ⟨.number _, rfl, hdigits, rfl⟩
    · rintro ⟨f, hplace, hf⟩
      cases f with
      | number n => exact hf.1
      | colour k => cases hplace
  | colour =>
    constructor
    · rintro (hlen | ⟨hdigits, hlt⟩)
      · obtain ⟨k, rfl⟩ := List.length_eq_one_iff.1 hlen
        exact ⟨.colour k, rfl, .inl rfl⟩
      · -- the colour is the digit that is worth as much as the word
        have hvalue : Text.Digits.value [(Text.Digits.value word).digitChar] =
            Text.Digits.value word := by
          rw [← Text.Digits.decimal_of_lt_ten hlt, Text.Digits.value_decimal]
        refine ⟨.colour (Text.Digits.value word).digitChar, rfl, .inr ⟨?_, hdigits, hvalue.symm⟩⟩
        rw [Nat.isDigit_digitChar]
        exact decide_eq_true hlt
    · rintro ⟨f, hplace, hf⟩
      cases f with
      | number n => cases hplace
      | colour k =>
        rcases hf with rfl | ⟨hk, hdigits, hvalue⟩
        · exact .inl rfl
        · exact .inr ⟨hdigits, hvalue ▸ Text.Digits.value_singleton_lt hk⟩

/-- The leftmost word that does not fit its place, as the error that reports it. -/
def misfit? : Nat → List Place → List (List Char) → Option BindError
  | position, place :: places, word :: words =>
    if place.Fits word then misfit? (position + 1) places words
    else some (place.misfit position (Value.ofWord Number.clamp word))
  | _, _, _ => none

/-- The values of words fill their places unless a word does not fit; then the leftmost such word is
reported. Induction on the places and words together. -/
theorem fill_ofWord {position : Nat} {places : List Place} {words : List (List Char)}
    (hne : ∀ word ∈ words, word ≠ []) :
    match misfit? position places words with
    | some e => fill position places (words.map (Value.ofWord Number.clamp)) = .error e
    | none => ∃ fields, fill position places (words.map (Value.ofWord Number.clamp)) = .ok fields := by
  induction places generalizing position words with
  | nil => exact ⟨[], rfl⟩
  | cons place places ih =>
    cases words with
    | nil => exact ⟨[], rfl⟩
    | cons word words =>
      have hword : word ≠ [] := hne word List.mem_cons_self
      rw [misfit?, List.map_cons, fill]
      by_cases hfits : place.Fits word
      · obtain ⟨f, rfl, hf⟩ := fits_iff_exists_spelledBy.1 hfits
        have ih := @ih (position + 1) words
          (fun other hother => hne other (List.mem_cons_of_mem _ hother))
        rw [if_pos hfits, (field?_ofWord_eq_some_iff hword).2 hf]
        cases hmisfit : misfit? (position + 1) places words with
        | some e =>
          rw [hmisfit] at ih
          simp only [ih]
          rfl
        | none =>
          rw [hmisfit] at ih
          obtain ⟨fields, hfields⟩ := ih
          simp only [hfields]
          exact ⟨f :: fields, rfl⟩
      · -- a word that does not fit leaves nothing to put in the place
        have hnone : place.field? (Value.ofWord Number.clamp word) = none := by
          cases hfield : place.field? (Value.ofWord Number.clamp word) with
          | none => rfl
          | some f =>
            have hplace := Place.place_of_field? hfield
            rw [← hplace] at hfield
            exact absurd (fits_iff_exists_spelledBy.2
              ⟨f, hplace, (field?_ofWord_eq_some_iff hword).1 hfield⟩) hfits
        rw [if_neg hfits, hnone]

end PixelScript.Script
