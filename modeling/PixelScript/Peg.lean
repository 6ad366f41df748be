import PixelScript.Text.Utf8

/-!
# Parsing expressions

Parsing expressions as data, and what it means to run one on a text.

A run starts somewhere in a text and either fails or matches a part of what lies ahead. Choices are
ordered, repetitions take as much as they can and give nothing back, and a look ahead takes
nothing and leaves no tree. A `Peg.Match` splits what lay ahead into the part that was taken and the
rest (`run_append`).
-/

namespace PixelScript.Peg

/-- A rule that matched: the bytes `start` to `stop` of the text, the characters there, and the
rules that matched inside. -/
inductive Tree (ρ : Type) where
  | node (rule : ρ) (start stop : Nat) (taken : List Char) (children : List (Tree ρ))

/-- A parsing expression whose rules are named by `ρ`. -/
inductive Expr (ρ : Type) where
  /-- One character of a class. -/
  | one (accepts : Char → Bool)
  | start
  | stop
  | seq (first second : Expr ρ)
  /-- The second expression only where the first one fails. -/
  | orElse (first second : Expr ρ)
  | star (body : Expr ρ)
  | opt (body : Expr ρ)
  /-- Matches ahead, but takes nothing. -/
  | ahead (body : Expr ρ)
  /-- Does not match ahead. -/
  | notAhead (body : Expr ρ)
  /-- A rule, which leaves a tree where it matches. -/
  | node (rule : ρ) (body : Expr ρ)

/-- What a successful run leaves: the trees of the rules that matched, the characters that were
taken, and the characters still ahead. -/
structure Match (ρ : Type) where
  trees : List (Tree ρ)
  taken : List Char
  ahead : List Char

namespace Match

variable {ρ : Type}

/-- A match that takes nothing. -/
def nothing (ahead : List Char) : Match ρ := ⟨[], [], ahead⟩

/-- One match behind another: the trees and the characters of both, in this order. -/
def append (m n : Match ρ) : Match ρ := ⟨m.trees ++ n.trees, m.taken ++ n.taken, n.ahead⟩

/-- How many bytes were taken. -/
def size (m : Match ρ) : Nat := Text.Utf8.length m.taken

end Match

namespace Expr

variable {ρ : Type}

/-- Any character at all. -/
def any : Expr ρ := .one fun _ => true

/-- At least once, and as many times as it matches. -/
def plus (body : Expr ρ) : Expr ρ := .seq body (.star body)

/-- One expression, then another, with as many gaps as there are in between. -/
def spaced (gap first second : Expr ρ) : Expr ρ := .seq first (.seq (.star gap) second)

/-- As many times as it matches, with as many gaps as there are in between. -/
def spacedStar (gap body : Expr ρ) : Expr ρ := .opt (.seq body (.star (.seq (.star gap) body)))

/-- Runs an expression again and again, for as long as it takes something. -/
def repeated (run : Nat → List Char → Option (Match ρ)) (offset : Nat) (input : List Char) :
    Match ρ :=
  match run offset input with
  | some m =>
    -- a match that takes nothing would be found again and again
    if m.taken.isEmpty || input.isEmpty then .nothing input
    else m.append (repeated run (offset + m.size) (input.drop m.taken.length))
  | none => .nothing input
termination_by input.length
decreasing_by
  rename_i h
  simp only [Bool.or_eq_true, List.isEmpty_iff, not_or, ← List.length_pos_iff] at h
  rw [List.length_drop]
  omega

/-- Runs an expression on the characters from the byte `offset` of a text on. -/
def run : Expr ρ → Nat → List Char → Option (Match ρ)
  | .one accepts, _, input =>
    match input with
    | c :: rest => if accepts c then some ⟨[], [c], rest⟩ else none
    | [] => none
  | .start, offset, input => if offset = 0 then some (.nothing input) else none
  | .stop, _, input => if input.isEmpty then some (.nothing input) else none
  | .seq first second, offset, input =>
    match first.run offset input with
    | some m => (second.run (offset + m.size) m.ahead).map m.append
    | none => none
  | .orElse first second, offset, input =>
    match first.run offset input with
    | some m => some m
    | none => second.run offset input
  | .star body, offset, input => some (repeated body.run offset input)
  | .opt body, offset, input => some ((body.run offset input).getD (.nothing input))
  | .ahead body, offset, input => (body.run offset input).map fun _ => .nothing input
  | .notAhead body, offset, input =>
    if (body.run offset input).isSome then none else some (.nothing input)
  | .node rule body, offset, input =>
    (body.run offset input).map fun m =>
      { m with trees := [.node rule offset (offset + m.size) m.taken m.trees] }

/-! ### A match splits its input

A match never invents a character and never loses one. What was taken and what is still ahead make
up the input, so the places of the trees are places in the text. -/

/-- A repetition splits its input if what is repeated does. Induction on the input as `repeated`
uses it up: each round takes a part from the front, and the next round begins with what is left. -/
theorem repeated_append {run : Nat → List Char → Option (Match ρ)}
    (h : ∀ offset input m, run offset input = some m → m.taken ++ m.ahead = input)
    (offset : Nat) (input : List Char) :
    (repeated run offset input).taken ++ (repeated run offset input).ahead = input := by
  fun_induction repeated run offset input with
  | case1 => rfl
  | case2 offset input m hm _ ih =>
    rw [Match.append, List.append_assoc, ih, ← h offset input m hm, List.drop_left]
  | case3 => rfl

/-- The characters that were taken and those still ahead are the ones that lay ahead before.
Induction on the expression, with one case for each way in which expressions are put together. -/
theorem run_append (e : Expr ρ) :
    ∀ {offset : Nat} {input : List Char} {m : Match ρ},
      e.run offset input = some m → m.taken ++ m.ahead = input := by
  induction e with
  | one accepts =>
    intro offset input m h
    cases input with
    | nil => simp [run] at h
    | cons c rest =>
      simp only [run, Option.ite_none_right_eq_some, Option.some.injEq] at h
      rw [← h.2]
      rfl
  | start | stop =>
    intro offset input m h
    simp only [run, Option.ite_none_right_eq_some, Option.some.injEq] at h
    rw [← h.2]
    rfl
  | seq first second ihf ihs =>
    intro offset input m h
    unfold run at h
    split at h
    · rename_i n hn
      -- the second expression is run on what the first one left ahead
      obtain ⟨k, hk, rfl⟩ := Option.map_eq_some_iff.1 h
      rw [← ihf hn, ← ihs hk, Match.append, List.append_assoc]
    · cases h
  | orElse first second ihf ihs =>
    intro offset input m h
    unfold run at h
    split at h
    · rename_i n hn
      cases h
      exact ihf hn
    · exact ihs h
  | star body ih =>
    intro offset input m h
    cases h
    -- a repetition never fails, so nothing but its definition is known of the match
    exact repeated_append (fun _ _ _ h => ih h) offset input
  | opt body ih =>
    intro offset input m h
    unfold run at h
    cases hb : body.run offset input with
    | none => simp only [hb, Option.getD_none, Option.some.injEq] at h; rw [← h]; rfl
    | some n => simp only [hb, Option.getD_some, Option.some.injEq] at h; rw [← h]; exact ih hb
  | ahead body ih =>
    intro offset input m h
    -- whatever was seen ahead, it is still ahead
    obtain ⟨_, _, rfl⟩ := Option.map_eq_some_iff.1 h
    rfl
  | notAhead body ih =>
    intro offset input m h
    unfold run at h
    split at h
    · cases h
    · cases h
      rfl
  | node rule body ih =>
    intro offset input m h
    -- a rule changes the trees alone
    obtain ⟨n, hn, rfl⟩ := Option.map_eq_some_iff.1 h
    have split := ih hn
    exact split

end Expr

end PixelScript.Peg
