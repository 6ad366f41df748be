import PixelScript.Proofs.Fault
import PixelScript.Proofs.Script.Binding
import PixelScript.Script.Request

/-!
# Reading with guards

Reading a line and binding its arguments, with a guard at every subtraction, every argument that is
looked up, and every tree that is not one of a record. A line always has the trees of a record, and a
verb's arguments are counted before they are looked up, so no guard finds a fault
(`Guarded.readRecord_eq`, `Guarded.bind_eq`, `Guarded.misfit_of_bind`).
-/

namespace PixelScript.Guarded

open Script

/-! ## Reading

The trees of a line are turned into its record, with a fault for every tree that is none of the
grammar's and for every span that would end before it begins. -/

/-- The part of a line between two bytes. -/
def span (start stop : Nat) : Except Fault Span := do
  return ⟨start, ← minus stop start⟩

/-- The word that a tree was left for. -/
def word : Tree → Except Fault Word
  | .node _ start stop taken _ => do return ⟨String.ofList taken, ← span start stop⟩

/-- The argument that a tree stands for. A tree of another shape is a fault and not a refusal. -/
def argument (clamp : Nat → Nat) : Tree → Except Fault Argument
  | .node .argument start stop _ (inner :: _) => do
    let span ← span start stop
    match Value.ofTree? clamp inner with
    | some value => return ⟨value, span⟩
    | none => .error .unreadable
  | _ => .error .unreadable

/-- The arguments that stand before the end of the line. -/
def arguments (clamp : Nat → Nat) : List Tree → Except Fault (List Argument)
  | [.node .endOfInput _ _ _ _] => return []
  | tree :: rest => do
    let first ← argument clamp tree
    return first :: (← arguments clamp rest)
  | [] => .error .unreadable

/-- The record that the trees of a line stand for. -/
def record (clamp : Nat → Nat) : List Tree → Except Fault Record
  | [.node .record _ _ _ (.node .command start stop taken inner :: rest)] => do
    let first ← word (.node .command start stop taken inner)
    return ⟨some first, ← arguments clamp rest⟩
  | [.node .record _ _ _ [.node .endOfInput _ _ _ _]] => return ⟨none, []⟩
  | _ => .error .unreadable

/-- Reads a line. That the grammar matches every line is relied on, so a line that it does not match
is a fault. -/
def readRecord (line : String) : Except Fault Record :=
  match Rule.record.parse? line with
  | some trees => record Number.clamp trees
  | none => .error .unreadable

/-- The end of a token is not before its beginning, since its size is added to the one to give the
other. -/
theorem span_of_token (t : Token) : span t.offset (t.offset + t.size) = .ok t.span := by
  rw [span, minus_of_le (Nat.le_add_right t.offset t.size), Nat.add_sub_cancel_left]
  rfl

theorem word_commandTree (t : Token) : word t.commandTree = .ok t.word := by
  rw [Token.commandTree, word, span_of_token]
  rfl

/-- An argument is read without a fault, whichever of the two trees is inside it. -/
theorem argument_argumentTree (clamp : Nat → Nat) (t : Token) :
    argument clamp t.argumentTree = .ok (t.argument clamp) := by
  rw [Token.argumentTree, argument, span_of_token, ok_bind]
  cases h : Text.Digits.isNumeral t.chars with
  | true => simp [Token.integerTree, Value.ofTree?, Token.argument, Value.ofWord, h, pure, Except.pure]
  | false => simp [Token.wordTree, Value.ofTree?, Token.argument, Value.ofWord, h, pure, Except.pure]

/-- All arguments are read without a fault, up to the end of the line. Induction on the tokens. -/
theorem arguments_map (clamp : Nat → Nat) (tokens : List Token) (start stop : Nat)
    (taken : List Char) (inner : List Tree) :
    arguments clamp
        (tokens.map Token.argumentTree ++ [.node .endOfInput start stop taken inner]) =
      .ok (tokens.map (Token.argument clamp)) := by
  induction tokens with
  | nil => rfl
  | cons t rest ih =>
    rw [List.map_cons, List.cons_append, arguments]
    · rw [argument_argumentTree, ok_bind, ih]
      rfl
    · -- the tree of an argument is not the end of the line
      intro _ _ _ _ h
      rw [Token.argumentTree] at h
      cases h

/-- Every line has the trees of a record, which is the record of its tokens. So no guard of the
reader ever finds a fault. -/
theorem readRecord_eq (line : String) :
    readRecord line = .ok (Record.ofTokens Number.clamp (Token.ofLine line)) := by
  unfold readRecord
  rw [Grammar.parse?_record]
  -- a blank line has no command, and any other line has its first token for one
  cases Token.ofLine line with
  | nil => rfl
  | cons t rest =>
    show (word t.commandTree >>= fun first => do
      return Record.mk (some first) (← arguments Number.clamp (rest.map Token.argumentTree ++ _))) = _
    rw [word_commandTree, ok_bind, arguments_map]
    rfl

/-! ## Binding

The arguments are counted before they are looked up one by one. The binder without guards takes them
all at once, so that nothing can be missing there; here it has to be shown. -/

/-- The number that stands at a place among the arguments. -/
def number (args : List Argument) (place : Nat) : ExceptT BindError (Except Fault) Nat := do
  let argument ← (look args place : Except Fault Argument)
  ExceptT.mk (.ok (Command.bindNumber place argument.value))

/-- The colour that stands at a place among the arguments. -/
def colour (args : List Argument) (place : Nat) : ExceptT BindError (Except Fault) Char := do
  let argument ← (look args place : Except Fault Argument)
  ExceptT.mk (.ok (Command.bindPixel place argument.value))

/-- The command of a verb, whose arguments are looked up one by one. -/
def command (verb : Verb) (args : List Argument) : ExceptT BindError (Except Fault) Command :=
  match verb with
  | .create => do return .create (← number args 0) (← number args 1)
  | .clear => return .clear
  | .paint => do return .paint ⟨← number args 0, ← number args 1⟩ (← colour args 2)
  | .vertical => do
    return .vertical (← number args 0) (← number args 1) (← number args 2) (← colour args 3)
  | .horizontal => do
    return .horizontal (← number args 0) (← number args 1) (← number args 2) (← colour args 3)
  | .fill => do return .fill ⟨← number args 0, ← number args 1⟩ (← colour args 2)
  | .print => return .print

/-- Looks the arguments up once they have been counted. -/
def bind (verb : Verb) (args : List Argument) : Except Fault (Except BindError Command) :=
  if args.length = verb.arity then (command verb args).run
  else return .error (.wrongArity verb args.length)

section Steps

variable {α β : Type} {args : List Argument} {place : Nat} {a : Argument}

/-- A step that cannot have a fault may be taken out of the transformer, if what follows it has
none. -/
theorem run_mk_bind {x : Except BindError α} {f : α → ExceptT BindError (Except Fault) β}
    {g : α → Except BindError β} (h : ∀ a, (f a).run = .ok (g a)) :
    (ExceptT.mk (.ok x) >>= f).run = .ok (x >>= g) := by
  cases x with
  | error e => rfl
  | ok a => exact h a

/-- A number is looked up without a fault if there is an argument at its place, and what is said of
that argument does not depend on the looking up. -/
theorem run_number_bind (ha : args[place]? = some a)
    {f : Nat → ExceptT BindError (Except Fault) β} {g : Nat → Except BindError β}
    (h : ∀ n, (f n).run = .ok (g n)) :
    (number args place >>= f).run = .ok (Command.bindNumber place a.value >>= g) := by
  have hnumber : number args place = ExceptT.mk (.ok (Command.bindNumber place a.value)) := by
    unfold number
    rw [look_of_getElem? ha]
    rfl
  rw [hnumber]
  exact run_mk_bind h

/-- The same for a colour. A number and a colour differ only in the check of the value. -/
theorem run_colour_bind (ha : args[place]? = some a)
    {f : Char → ExceptT BindError (Except Fault) β} {g : Char → Except BindError β}
    (h : ∀ k, (f k).run = .ok (g k)) :
    (colour args place >>= f).run = .ok (Command.bindPixel place a.value >>= g) := by
  have hcolour : colour args place = ExceptT.mk (.ok (Command.bindPixel place a.value)) := by
    unfold colour
    rw [look_of_getElem? ha]
    rfl
  rw [hcolour]
  exact run_mk_bind h

end Steps

/-- With as many arguments as the verb takes, each of them is there. For each arity the arguments
are named, and then looked up in their order. -/
theorem run_command {verb : Verb} {args : List Argument} (hlen : args.length = verb.arity) :
    (command verb args).run = .ok (Command.bind verb (args.map Argument.value)) := by
  cases verb with
  | clear | print =>
    rw [List.length_eq_zero_iff.1 hlen]
    rfl
  | create =>
    obtain ⟨a, b, rfl⟩ := List.length_eq_two.1 hlen
    exact run_number_bind rfl fun _ => run_number_bind rfl fun _ => rfl
  | paint | fill =>
    obtain ⟨a, b, k, rfl⟩ := List.length_eq_three.1 hlen
    exact run_number_bind rfl fun _ => run_number_bind rfl fun _ => run_colour_bind rfl fun _ => rfl
  | vertical | horizontal =>
    -- four arguments are one and three more
    obtain ⟨a, rest, rfl⟩ := List.exists_cons_of_length_eq_add_one hlen
    obtain ⟨b, c, k, rfl⟩ := List.length_eq_three.1 (Nat.succ.inj hlen)
    exact run_number_bind rfl fun _ => run_number_bind rfl fun _ => run_number_bind rfl fun _ =>
      run_colour_bind rfl fun _ => rfl

/-- Binding never has a fault and gives what binding the values gives. The places of the arguments
in the line play no part in it. -/
theorem bind_eq (verb : Verb) (args : List Argument) :
    bind verb args = .ok (Command.bind verb (args.map Argument.value)) := by
  unfold bind
  by_cases hlen : args.length = verb.arity
  · rw [if_pos hlen, run_command hlen]
  · rw [if_neg hlen, Command.bind_of_length_ne (by rwa [List.length_map]), List.length_map]
    rfl

/-- The part of the line where the arguments do not fit. -/
def misfit (r : Record) (source : SourceLine) : BindError → Except Fault Span
  | .wrongArity _ _ => return source.whole
  | .expectedInteger position => do return (← look r.arguments position).span
  | .expectedPixel position _ => do return (← look r.arguments position).span

/-- An argument that is reported is there, because what reports it has looked it up. A wrong number
of arguments is reported with the whole line, where nothing is looked up. -/
theorem misfit_of_bind {r : Record} {verb : Verb} {e : BindError}
    (h : Command.bind verb r.values = .error e) (source : SourceLine) :
    misfit r source e = .ok (r.misfit source e) := by
  by_cases hlen : r.values.length = verb.arity
  · obtain ⟨i, v, place, hv, rfl⟩ := fill_eq_error ((bind_eq_error_iff hlen).1 h)
    rw [Nat.zero_add]
    rw [Record.values, List.getElem?_map, Option.map_eq_some_iff] at hv
    -- the reported position is that of an argument of the record
    obtain ⟨a, ha, -⟩ := hv
    cases place with
    | number =>
      simp only [Place.misfit, misfit, Record.misfit, look_of_getElem? ha, ha]
      rfl
    | colour =>
      simp only [Place.misfit, misfit, Record.misfit, look_of_getElem? ha, ha]
      rfl
  · -- the number of arguments is wrong, and the whole line is reported
    rw [Command.bind_of_length_ne hlen, Except.error.injEq] at h
    rw [← h]
    rfl

end PixelScript.Guarded
