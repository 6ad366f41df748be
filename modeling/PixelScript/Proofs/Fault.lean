import PixelScript.Geometry.Dimensions

/-!
# Faults

An operation that looks up an element or subtracts relies on the element being there and on the
difference not being negative. `Guarded` repeats such operations in `Except Fault`: each is as before,
with a guard at every place where it relies on something. A guarded operation that is shown to succeed
has relied on nothing that does not hold.
-/

namespace PixelScript

/-- What would stop an operation in the middle. -/
inductive Fault where
  /-- A number is taken from a smaller one. -/
  | negative (a b : Nat)
  /-- Nothing is stored at the place. -/
  | missing (place size : Nat)
  /-- The place of a point is asked for that is not on the canvas. -/
  | offCanvas (p : Point) (d : Dimensions)
  /-- Pixels are to be cut into rows without a width. -/
  | zeroWidth
  /-- A line does not follow the grammar, or is not the tree of a record. -/
  | unreadable
  /-- A command is carried out that needs a canvas, and there is none. -/
  | noCanvas
  /-- A request is refused whose arguments name no side and no coordinate. -/
  | noCoordinates
deriving DecidableEq

namespace Guarded

/-! ## Guards

A guard succeeds without effect or stops with a fault. Guarded operations are put together by
binding, so that one fault anywhere stops all of it. -/

/-- Goes on only where the condition holds. -/
def require (condition : Prop) [Decidable condition] (fault : Fault) : Except Fault Unit :=
  if condition then .ok () else .error fault

/-- The difference of two numbers, where it is not negative. -/
def minus (a b : Nat) : Except Fault Nat := do
  require (b ≤ a) (.negative a b)
  return a - b

/-- The element at a place of a list. -/
def look {α : Type} (as : List α) (place : Nat) : Except Fault α :=
  match as[place]? with
  | some a => .ok a
  | none => .error (.missing place as.length)

/-- The element at a place of an array. -/
def read {α : Type} (as : Array α) (place : Nat) : Except Fault α :=
  match as[place]? with
  | some a => .ok a
  | none => .error (.missing place as.size)

@[simp] theorem ok_bind {ε α β : Type} (a : α) (f : α → Except ε β) :
    (Except.ok a >>= f) = f a := rfl

/-- If two operations succeed one after the other, then each of them succeeds. Guarded operations
are taken apart with this. -/
theorem exists_of_bind_eq_ok {ε α β : Type} {x : Except ε α} {f : α → Except ε β} {b : β}
    (h : (x >>= f) = .ok b) : ∃ a, x = .ok a ∧ f a = .ok b := by
  cases x with
  | error e => cases h
  | ok a => exact ⟨a, rfl, h⟩

theorem require_of {condition : Prop} [Decidable condition] (h : condition) (fault : Fault) :
    require condition fault = .ok () := if_pos h

/-- Where the difference is not negative, the guarded subtraction is the subtraction. -/
theorem minus_of_le {a b : Nat} (h : b ≤ a) : minus a b = .ok (a - b) := by
  rw [minus, require_of h, ok_bind]
  rfl

theorem look_of_getElem? {α : Type} {as : List α} {place : Nat} {a : α} (h : as[place]? = some a) :
    look as place = .ok a := by
  unfold look
  rw [h]

/-- A read succeeds exactly where something is stored, with what is stored there. -/
theorem read_eq_ok_iff {α : Type} {as : Array α} {place : Nat} {a : α} :
    read as place = .ok a ↔ as[place]? = some a := by
  unfold read
  cases as[place]? <;> simp

end Guarded

end PixelScript
