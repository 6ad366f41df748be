/-!
# Digit strings

Natural numbers written with the ten ASCII digits. Leading zeros are allowed when a number is read
(`value`) and left out when it is written (`decimal`); reading what was written gives the number
back (`value_decimal`). A single digit is written for the numbers below ten
(`decimal_eq_singleton_iff`).
-/

namespace PixelScript.Text.Digits

/-- Digits only, and at least one of them. -/
def isNumeral (cs : List Char) : Bool := !cs.isEmpty && cs.all Char.isDigit

/-- The number that a digit string names in base ten. -/
def value (cs : List Char) : Nat := Nat.ofDigitChars 10 cs 0

/-- The shortest digit string that names a number. -/
def decimal (n : Nat) : List Char := Nat.toDigits 10 n

@[simp] theorem value_decimal (n : Nat) : value (decimal n) = n :=
  Nat.ofDigitChars_toDigits (by decide) (by decide)

/-- A leading zero adds nothing to the number, so one number has many digit strings. -/
@[simp] theorem value_zero_cons (cs : List Char) : value ('0' :: cs) = value cs := rfl

theorem decimal_of_lt_ten {n : Nat} (h : n < 10) : decimal n = [n.digitChar] :=
  Nat.toDigits_of_lt_base h

theorem value_singleton (c : Char) : value [c] = c.toNat - 48 := by
  rw [value, Nat.ofDigitChars_cons, Nat.ofDigitChars_nil]
  simp

theorem value_singleton_lt {c : Char} (h : c.isDigit) : value [c] < 10 := by
  have hle : c.toNat ≤ 57 := by
    simp only [Char.isDigit, Bool.and_eq_true, decide_eq_true_eq] at h
    exact h.2
  rw [value_singleton]
  omega

/-- A digit that is read as a number is written as the same digit again. So a colour that happens to
be a digit is painted as it was given, although it is read as a number. -/
theorem decimal_value_singleton {c : Char} (h : c.isDigit) : decimal (value [c]) = [c] := by
  have hle : 48 ≤ c.toNat := by
    simp only [Char.isDigit, Bool.and_eq_true, decide_eq_true_eq] at h
    exact h.1
  have hlt := value_singleton_lt h
  -- both sides are one character, and a digit is known by its distance from the digit zero
  rw [decimal_of_lt_ten hlt]
  congr 1
  apply Char.toNat_inj.1
  rw [Nat.toNat_digitChar_of_lt_ten hlt, value_singleton]
  omega

/-- Only digits are written for a number, so there is no blank in it and it is one word. -/
theorem isDigit_of_mem_decimal {n : Nat} {c : Char} (h : c ∈ decimal n) : c.isDigit :=
  Nat.isDigit_of_mem_toDigits (by decide) (by decide) h

/-- One digit is enough exactly for the numbers below ten, and then it is the digit of that value.
-/
theorem decimal_eq_singleton_iff {n : Nat} {c : Char} :
    decimal n = [c] ↔ c.isDigit ∧ value [c] = n := by
  constructor
  · intro h
    have hc : c.isDigit := isDigit_of_mem_decimal (h ▸ List.mem_singleton_self c)
    refine ⟨hc, ?_⟩
    rw [← h, value_decimal]
  · rintro ⟨hc, rfl⟩
    exact decimal_value_singleton hc

end PixelScript.Text.Digits
