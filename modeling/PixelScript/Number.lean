/-!
# Numbers of a script

Numbers are natural numbers that stop growing at `Number.largest`: a larger one is read as the
largest, and the successor of the largest is the largest itself.
-/

namespace PixelScript.Number

/-- The largest number that a script can name. -/
def largest : Nat := 4294967295

/-- A number too large to be named counts as the largest one. -/
def clamp (n : Nat) : Nat := min n largest

/-- The next number, as long as there is one. -/
def next (n : Nat) : Nat := if n < largest then n + 1 else n

/-- A number that a script can name is not changed, so clamping twice is clamping once and a number
within the limits of a canvas is never clamped. -/
theorem clamp_eq_self {n : Nat} (h : n ≤ largest) : clamp n = n := Nat.min_eq_left h

/-- Clamping cannot be noticed by a comparison with a bound below the largest number. The bound has
to be below it, because the largest number itself is what all larger ones become. -/
theorem clamp_le_iff {n bound : Nat} (h : bound < largest) : clamp n ≤ bound ↔ n ≤ bound := by
  unfold clamp
  omega

/-- A lower bound is met by the clamped number exactly if the number meets it. Here the largest
number may be the bound, since whatever exceeds it becomes equal to it. -/
theorem le_clamp_iff {n bound : Nat} (h : bound ≤ largest) : bound ≤ clamp n ↔ bound ≤ n := by
  unfold clamp
  omega

/-- The strict form of `clamp_le_iff`, read from the other side: a number is too large for a bound
before it is clamped or not at all. -/
theorem lt_clamp_iff {n bound : Nat} (h : bound < largest) : bound < clamp n ↔ bound < n := by
  rw [← Nat.not_le, ← Nat.not_le, clamp_le_iff h]

/-- The strict form of `le_clamp_iff`: a number that is too small was too small before it was
clamped. -/
theorem clamp_lt_iff {n bound : Nat} (h : bound ≤ largest) : clamp n < bound ↔ n < bound := by
  rw [← Nat.not_le, ← Nat.not_le, le_clamp_iff h]

/-- Below the largest number a clamped number is equal to nothing but the number itself. -/
theorem clamp_eq_iff {n m : Nat} (h : m < largest) : clamp n = m ↔ n = m := by
  unfold clamp
  omega

/-- Clamping keeps the order of two numbers, so the smaller of two ends of a segment is still the
smaller one, or they have become equal. -/
theorem clamp_min (m n : Nat) : clamp (min m n) = min (clamp m) (clamp n) := by
  unfold clamp
  omega

/-- The larger of two ends is the larger one of the clamped ends, for the same reason as in
`clamp_min`. -/
theorem clamp_max (m n : Nat) : clamp (max m n) = max (clamp m) (clamp n) := by
  unfold clamp
  omega

/-- A bound that can be named cuts off a clamped number where it cuts off the number. -/
theorem min_clamp {n bound : Nat} (h : bound < largest) : min (clamp n) bound = min n bound := by
  unfold clamp
  omega

/-- Counting goes on by one for as long as the next number has a name. -/
theorem next_eq_succ {n : Nat} (h : n < largest) : next n = n + 1 := if_pos h

/-- The next number is never a smaller one. At the largest number it is the same one, so this cannot
be made strict. -/
theorem le_next (n : Nat) : n ≤ next n := by
  unfold next
  split <;> omega

/-- Only the largest number is the next one of two numbers, itself and the one before it. Below it
every number has at most one predecessor. -/
theorem next_inj {m n : Nat} (hm : m < largest) (hn : n < largest) : next m = next n ↔ m = n := by
  rw [next_eq_succ hm, next_eq_succ hn, Nat.succ_inj]

end PixelScript.Number
