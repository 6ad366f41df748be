import PixelScript.Proofs.Script.Guarded
import PixelScript.Proofs.Script.RoundTrip

/-!
# Which argument is reported

Any list of arguments can be bound to a verb. A list of the wrong length is reported as such. If the
length is right, the leftmost argument that does not fit its place is reported (`fill_of_leftmost`), and
if all of them fit, there is a command that holds what they say (`exists_fill_of_fits`). Where the
arguments stand in a line makes no difference (`Command.bind_arguments`).
-/

namespace PixelScript.Script

/-! ## What fits a place

The two questions about a value and a place: whether the value is rejected, and what the place holds
if it is not. Both are said without the binder. -/

/-- What does not fit: a text in the place of a number, and in the place of a colour a number of more than
one digit or a text that is not a single character. -/
def Place.Rejects : Place → Value → Prop
  | .number, .number _ => False
  | .number, .text _ => True
  | .colour, .number n => 10 ≤ n
  | .colour, .text s => s.length ≠ 1

/-- A field holds what a value says. A number says a colour if it is a digit. -/
def Field.Holds : Field → Value → Prop
  | .number n, v => v = .number n
  | .colour k, v => v = .text (String.singleton k) ∨ ∃ n < 10, v = .number n ∧ k = Nat.digitChar n

/-- A number is written with a single character if it is below ten, and then with its digit. So a
number of one digit can stand for a colour and no other number can. -/
theorem decimal_eq_singleton_iff_digitChar {n : Nat} {k : Char} :
    Text.Digits.decimal n = [k] ↔ n < 10 ∧ k = n.digitChar := by
  constructor
  · intro h
    obtain ⟨hk, rfl⟩ := Text.Digits.decimal_eq_singleton_iff.1 h
    have hlt := Text.Digits.value_singleton_lt hk
    rw [Text.Digits.decimal_of_lt_ten hlt, List.singleton_inj] at h
    exact ⟨hlt, h.symm⟩
  · rintro ⟨hlt, rfl⟩
    exact Text.Digits.decimal_of_lt_ten hlt

/-- A place takes a value as what the value holds. A number and a text are different values, so one
that is written in digits is a colour only by its digit. -/
theorem Field.field?_eq_some_iff {f : Field} {v : Value} :
    f.place.field? v = some f ↔ f.Holds v := by
  cases f with
  | number n => cases v <;> simp [Field.place, Place.field?, Value.number?, Holds]
  | colour k =>
    have hpixel : (Field.colour k).place.field? v = some (.colour k) ↔ v.chars = [k] := by
      rw [← Value.pixel?_eq_some_iff]
      simp [Field.place, Place.field?]
    rw [hpixel]
    cases v with
    | number n => simp [Value.chars, decimal_eq_singleton_iff_digitChar, Holds]
    | text s => simp [Value.chars, Holds, ← String.toList_inj]

theorem Place.field?_eq_none_iff {place : Place} {v : Value} :
    place.field? v = none ↔ place.Rejects v := by
  cases place with
  | number => cases v <;> simp [field?, Value.number?, Rejects]
  | colour =>
    -- a value is no colour if it is written with no character or with more than one
    have hpixel : Place.colour.field? v = none ↔ ∀ k, v.chars ≠ [k] := by
      rw [field?, Option.map_eq_none_iff, Option.eq_none_iff_forall_ne_some]
      simp only [ne_eq, Value.pixel?_eq_some_iff]
    rw [hpixel]
    cases v with
    | number n => simp [Value.chars, decimal_eq_singleton_iff_digitChar, Rejects]
    | text s =>
      show (∀ k, s.toList ≠ [k]) ↔ s.length ≠ 1
      rw [← String.length_toList, ne_eq, List.length_eq_one_iff, not_exists]

/-- What is said of a value that does not fit quotes a text as it is, and a number in decimal
digits. -/
theorem Place.misfit_eq (place : Place) (position : Nat) (v : Value) :
    place.misfit position v =
      match place, v with
      | .number, _ => .expectedInteger position
      | .colour, .number n => .expectedPixel position (toString n)
      | .colour, .text s => .expectedPixel position s := by
  cases place with
  | number => rfl
  | colour =>
    cases v with
    | number n => rfl
    | text s => rw [misfit, Value.chars, String.ofList_toList]

/-! ## Filling places

The leftmost misfit decides what is reported, and where there is none the places are filled.
Positions are counted from any number, so that the induction can go on behind the first place. -/

/-- The value at a position does not fit the place there. -/
def MisfitAt (places : List Place) (values : List Value) (i : Nat) (place : Place) (v : Value) : Prop :=
  places[i]? = some place ∧ values[i]? = some v ∧ place.Rejects v

/-- Behind the first place and the first value, misfits are those of the rest, at one position less.
-/
theorem misfitAt_cons_succ {first place : Place} {w v : Value} {places : List Place}
    {values : List Value} {i : Nat} :
    MisfitAt (first :: places) (w :: values) (i + 1) place v ↔ MisfitAt places values i place v :=
  Iff.rfl

/-- If the values before it fit, the value that does not fit is reported, with its position.
Induction on the places: the misfit is at the first one, or the first value fits and the misfit is
one of those behind it. -/
theorem fill_of_leftmost (position : Nat) {i : Nat} {places : List Place} {values : List Value}
    {place : Place} {v : Value} (hmisfit : MisfitAt places values i place v)
    (hfits : ∀ j < i, ∀ earlier w, ¬MisfitAt places values j earlier w) :
    fill position places values = .error (place.misfit (position + i) v) := by
  induction places generalizing position values i with
  | nil => cases hmisfit.1
  | cons first places ih =>
    cases values with
    | nil => cases hmisfit.2.1
    | cons w values =>
      rw [fill]
      cases i with
      | zero =>
        obtain ⟨hplace, hvalue, hrejects⟩ := hmisfit
        cases hplace
        cases hvalue
        rw [Place.field?_eq_none_iff.2 hrejects]
        rfl
      | succ i =>
        -- the first value fits, so the misfit is one of those behind it
        have hfirst : first.field? w ≠ none := fun hnone =>
          hfits 0 (Nat.succ_pos i) first w ⟨rfl, rfl, Place.field?_eq_none_iff.1 hnone⟩
        obtain ⟨f, hf⟩ := Option.ne_none_iff_exists'.1 hfirst
        have hrest := ih (position + 1) (misfitAt_cons_succ.1 hmisfit) fun j hj earlier u =>
          hfits (j + 1) (Nat.succ_lt_succ hj) earlier u
        rw [hf, hrest, Nat.add_assoc, Nat.add_comm 1 i]
        rfl

/-- If every value fits, the places are filled. Induction on the places, as in `fill_of_leftmost`
but without the misfit that ends it. -/
theorem exists_fill_of_fits (position : Nat) {places : List Place} {values : List Value}
    (hfits : ∀ i place v, ¬MisfitAt places values i place v) :
    ∃ fields, fill position places values = .ok fields := by
  induction places generalizing position values with
  | nil => exact ⟨[], rfl⟩
  | cons first places ih =>
    cases values with
    | nil => exact ⟨[], rfl⟩
    | cons w values =>
      have hfirst : first.field? w ≠ none := fun hnone =>
        hfits 0 first w ⟨rfl, rfl, Place.field?_eq_none_iff.1 hnone⟩
      obtain ⟨f, hf⟩ := Option.ne_none_iff_exists'.1 hfirst
      obtain ⟨fields, hfields⟩ := ih (position + 1) fun i => hfits (i + 1)
      rw [fill, hf, hfields]
      exact ⟨f :: fields, rfl⟩

/-! ## Binding

Binding a list of arguments of any length. What is said of lists of values is now said of verbs and
of the lines that their arguments come from. -/

namespace Command

/-- The fields of a command that was bound are what the values say, in the order in which the usage
line names them. -/
theorem holds_of_bind {verb : Verb} {values : List Value} {c : Command}
    (h : bind verb values = .ok c) :
    c.verb = verb ∧
      List.Forall₂ (fun slot v => ∃ f, c.field? slot = some f ∧ f.Holds v) verb.slots values := by
  obtain ⟨rfl, hall⟩ := bind_eq_ok_iff.1 h
  refine ⟨rfl, (forall₂_field?_iff c.map_field?_slots).2 ?_⟩
  simpa only [Field.field?_eq_some_iff] using hall

/-- What becomes of a verb and a list of arguments of any length. It is refused for its length exactly if
that is not the verb's arity; otherwise the leftmost argument that does not fit is reported, and if there
is none, the command holds the arguments in the order of the usage line. Other arguments that say the same
elsewhere in a line, looked up one by one, lead to the same. -/
theorem bind_arguments (verb : Verb) (arguments : List Argument) :
    let values := arguments.map Argument.value
    (bind verb values = .error (.wrongArity verb arguments.length) ↔
      arguments.length ≠ verb.arity) ∧
    (arguments.length = verb.arity →
      (∀ i place v, MisfitAt verb.places values i place v →
        (∀ j < i, ∀ earlier w, ¬MisfitAt verb.places values j earlier w) →
        bind verb values = .error
          (match place, v with
          | .number, _ => .expectedInteger i
          | .colour, .number n => .expectedPixel i (toString n)
          | .colour, .text s => .expectedPixel i s)) ∧
      ((∀ i place v, ¬MisfitAt verb.places values i place v) →
        ∃ c, bind verb values = .ok c ∧ c.verb = verb ∧
          List.Forall₂ (fun slot v => ∃ f, c.field? slot = some f ∧ f.Holds v)
            verb.slots values)) ∧
    ∀ others : List Argument, others.map Argument.value = values →
      Guarded.bind verb others = .ok (bind verb values) := by
  intro values
  have hlength : values.length = arguments.length := List.length_map _
  refine ⟨⟨?_, ?_⟩, ?_, ?_⟩
  · intro herror hlen
    -- an argument that is reported is a misfit, which is not an error of length
    rw [bind_eq_error_iff (hlength.trans hlen)] at herror
    obtain ⟨i, v, place, -, hmisfit⟩ := fill_eq_error herror
    cases place <;> cases hmisfit
  · intro hne
    rw [← hlength] at hne ⊢
    exact bind_of_length_ne hne
  · intro hlen
    refine ⟨?_, ?_⟩
    · intro i place v hmisfit hleftmost
      rw [bind_eq_error_iff (hlength.trans hlen), fill_of_leftmost 0 hmisfit hleftmost, Nat.zero_add,
        Place.misfit_eq]
    · intro hfits
      obtain ⟨fields, hfields⟩ := exists_fill_of_fits 0 hfits
      obtain ⟨c, hbind, -⟩ := exists_bind_of_fill (hlength.trans hlen) hfields
      exact ⟨c, hbind, holds_of_bind hbind⟩
  · intro others hothers
    rw [Guarded.bind_eq, hothers]

/-- A text in digits is not a number, and is reported before the colour behind it. A digit is a colour. -/
theorem bind_arguments_vertical :
    let refused : List Argument :=
      [⟨.number 3, ⟨2, 1⟩⟩, ⟨.text "07", ⟨4, 2⟩⟩, ⟨.number 7, ⟨7, 1⟩⟩, ⟨.number 12, ⟨9, 2⟩⟩]
    let bound : List Argument :=
      [⟨.number 3, ⟨2, 1⟩⟩, ⟨.number 7, ⟨4, 2⟩⟩, ⟨.number 7, ⟨7, 1⟩⟩, ⟨.number 9, ⟨9, 2⟩⟩]
    refused.length = Verb.arity .vertical ∧ bound.length = Verb.arity .vertical ∧
      bind .vertical (refused.map Argument.value) = .error (.expectedInteger 1) ∧
      ∃ c, bind .vertical (bound.map Argument.value) = .ok c ∧ c.verb = .vertical ∧
        List.Forall₂ (fun slot v => ∃ f, c.field? slot = some f ∧ f.Holds v) (Verb.slots .vertical)
          [.number 3, .number 7, .number 7, .number 9] := by
  intro refused bound
  have hfirst : ∀ j < 1, ∀ place v,
      ¬MisfitAt (Verb.places .vertical) (refused.map Argument.value) j place v := by
    intro j hj place v hmisfit
    obtain rfl : j = 0 := by omega
    obtain ⟨hplace, hvalue, hrejects⟩ := hmisfit
    cases hplace
    cases hvalue
    exact hrejects
  have hfits : ∀ i place v,
      ¬MisfitAt (Verb.places .vertical) (bound.map Argument.value) i place v := by
    rintro (_ | _ | _ | _ | i) place v ⟨hplace, hvalue, hrejects⟩ <;> cases hplace <;> cases hvalue
    · exact hrejects
    · exact hrejects
    · exact hrejects
    · have hlarge : 10 ≤ 9 := hrejects
      omega
  obtain ⟨-, hrefused, -⟩ := bind_arguments .vertical refused
  obtain ⟨-, hbound, -⟩ := bind_arguments .vertical bound
  exact ⟨rfl, rfl, (hrefused rfl).1 1 .number (.text "07") ⟨rfl, rfl, trivial⟩ hfirst,
    (hbound rfl).2 hfits⟩

end Command

end PixelScript.Script
