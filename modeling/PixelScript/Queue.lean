/-!
# First-in first-out queues

A queue keeps a list to take from and a reversed list of later arrivals, so that adding and taking
cost constant time on average. `Queue.toList` lists the waiting elements in the order in which they
will be taken, and each operation is described by what it does to that list.
-/

namespace PixelScript

/-- Elements waiting in order of arrival. -/
structure Queue (α : Type) where
  /-- The earlier elements, first come first. -/
  front : List α
  /-- The later elements, last come first. -/
  back : List α

namespace Queue

variable {α : Type}

/-- Nothing waits. -/
def empty : Queue α := ⟨[], []⟩

/-- The waiting elements in order of arrival. -/
def toList (q : Queue α) : List α := q.front ++ q.back.reverse

/-- How many elements wait. -/
def size (q : Queue α) : Nat := q.front.length + q.back.length

/-- Lets an element wait behind all others. -/
def push (q : Queue α) (a : α) : Queue α := { q with back := a :: q.back }

/-- Takes the element that has waited longest. -/
def pop? (q : Queue α) : Option (α × Queue α) :=
  match q.front with
  | a :: front => some (a, { q with front := front })
  | [] =>
    match q.back.reverse with
    | a :: front => some (a, ⟨front, []⟩)
    | [] => none

@[simp] theorem length_toList (q : Queue α) : q.toList.length = q.size := by
  simp [toList, size]

/-- An element that is added comes last, whatever the two halves look like at the time. -/
@[simp] theorem toList_push (q : Queue α) (a : α) : (q.push a).toList = q.toList ++ [a] := by
  simp [toList, push]

/-- Adding an element makes the queue longer by one. Stated for `size`, which the weight of a flood
is computed from. -/
@[simp] theorem size_push (q : Queue α) (a : α) : (q.push a).size = q.size + 1 := by
  simp only [size, push, List.length_cons]
  omega

/-- Elements that are added one after the other wait in that order behind those that waited before.
Induction on the added elements, for every queue. -/
@[simp] theorem toList_foldl_push (as : List α) (q : Queue α) :
    (as.foldl push q).toList = q.toList ++ as := by
  induction as generalizing q with
  | nil => simp
  | cons a as ih => rw [List.foldl_cons, ih, toList_push, List.append_assoc, List.singleton_append]

/-- There is nothing to take exactly if nothing waits: where the front half is used up, the back
half is turned around first. -/
theorem pop?_eq_none_iff {q : Queue α} : q.pop? = none ↔ q.toList = [] := by
  obtain ⟨front, back⟩ := q
  unfold pop? toList
  split
  · simp_all
  · split <;> simp_all

/-- What is taken is the first element of the list, and the others keep their order. The two cases
are those of a front half that is not empty and of a back half that has to be turned around. -/
theorem toList_of_pop? {q r : Queue α} {a : α} (h : q.pop? = some (a, r)) :
    q.toList = a :: r.toList := by
  obtain ⟨front, back⟩ := q
  unfold pop? at h
  split at h
  · cases h
    simp_all [toList]
  · split at h
    · cases h
      simp_all [toList]
    · cases h

/-- Taking an element makes the queue shorter by one, by `toList_of_pop?`. -/
theorem size_of_pop? {q r : Queue α} {a : α} (h : q.pop? = some (a, r)) :
    q.size = r.size + 1 := by
  rw [← length_toList, toList_of_pop? h, List.length_cons, length_toList]

end Queue

end PixelScript
