import PixelScript.Proofs.Interpreter.Dispatch
import PixelScript.Proofs.Script.Spelling

/-!
# How a line ends

The words of a line decide whether it is carried out at all: `objection?` is the first reason why it
is not. Words without an objection spell a command (`exists_spelledBy`), and that is the command that
is dispatched (`Interpreter.executeLine_of_spelledBy`).

`Interpreter.Executes` lists the ways in which a line can end, each with the state that it leaves.
Whatever holds of all of them holds of `Interpreter.executeLine` (`Interpreter.executes_executeLine`).
-/

namespace PixelScript

namespace Script

/-! ## Objections

The words of a line are looked at from the left: is there a first one, does it name a verb, can the
verb do without a canvas, is the number of arguments right, and does each of them fit. The first
answer that is no is the objection. -/

/-- Why the words of a line are not carried out: the first reason that applies. It depends on the
words and on whether there is a canvas, not on what the canvas shows. -/
def objection? (hasCanvas : Bool) : List (List Char) → Option Reason
  | [] => some .blankLine
  | first :: arguments =>
    match Verb.ofWord? (String.ofList first) with
    | none => some (.unknownVerb (String.ofList first))
    | some verb =>
      if verb ≠ .create ∧ hasCanvas = false then some .noCanvas
      else if arguments.length ≠ verb.arity then
        some (.misfit verb (.wrongArity verb arguments.length))
      else (misfit? 0 verb.places arguments).map (.misfit verb)

theorem Verb.ofWord?_letter (v : Verb) : Verb.ofWord? (String.ofList v.letter.toList) = some v := by
  rw [String.ofList_toList]
  exact Verb.ofWord?_eq_some_iff.2 rfl

/-- Arguments of the right number that fit their places spell a command of the verb. Filling the
places with their values gives the fields, and binding puts them together. -/
theorem exists_spelledBy_of_misfit? {verb : Verb} {arguments : List (List Char)}
    (hne : ∀ word ∈ arguments, word ≠ []) (hlen : arguments.length = verb.arity)
    (hfit : misfit? 0 verb.places arguments = none) :
    ∃ command : Command, command.verb = verb ∧
      command.SpelledBy (verb.letter.toList :: arguments) := by
  have hfill := @fill_ofWord 0 verb.places arguments hne
  rw [hfit] at hfill
  obtain ⟨fields, hfields⟩ := hfill
  obtain ⟨command, hbind, hverb, -⟩ := exists_bind_of_fill (by rw [List.length_map, hlen]) hfields
  exact ⟨command, hverb, (Command.bind_ofWord_eq_ok_iff hne).1 hbind⟩

/-- Words that nothing is said against spell a command, and the command can be dispatched: there is
a canvas, or the command creates one. -/
theorem exists_spelledBy {hasCanvas : Bool} {ws : List (List Char)} (hne : ∀ word ∈ ws, word ≠ [])
    (h : objection? hasCanvas ws = none) :
    ∃ command : Command, command.SpelledBy ws ∧ (hasCanvas = true ∨ command.verb = .create) := by
  cases ws with
  | nil => cases h
  | cons first arguments =>
    rw [objection?] at h
    cases hverb : Verb.ofWord? (String.ofList first) with
    | none =>
      rw [hverb] at h
      cases h
    | some verb =>
      simp only [hverb] at h
      obtain rfl : first = verb.letter.toList := by
        rw [← Verb.ofWord?_eq_some_iff.1 hverb, String.toList_ofList]
      by_cases hcanvas : verb ≠ .create ∧ hasCanvas = false
      · rw [if_pos hcanvas] at h
        cases h
      · rw [if_neg hcanvas] at h
        by_cases hlen : arguments.length = verb.arity
        · rw [if_neg (not_not_intro hlen), Option.map_eq_none_iff] at h
          obtain ⟨command, hverb, hspelled⟩ := exists_spelledBy_of_misfit?
            (fun word hword => hne word (List.mem_cons_of_mem _ hword)) hlen h
          refine ⟨command, hspelled, ?_⟩
          rw [hverb]
          -- the guard let the verb pass because there is a canvas, or because it creates one
          cases hasCanvas with
          | true => exact .inl rfl
          | false => exact .inr (Decidable.byContradiction fun hcreate => hcanvas ⟨hcreate, rfl⟩)
        · rw [if_pos hlen] at h
          cases h

/-! ## Requests

The same for what the interpreter makes of the tokens of a line. The checks come in the order of
`objection?`, so both are taken apart side by side. -/

theorem Record.values_ofTokens_cons (clamp : Nat → Nat) (t : Token) (rest : List Token) :
    (Record.ofTokens clamp (t :: rest)).values =
      (rest.map Token.chars).map (Value.ofWord clamp) := by
  rw [Record.values, Record.ofTokens, List.map_map, List.map_map]
  rfl

namespace Request

variable {hasCanvas : Bool} {source : SourceLine} {tokens : List Token}

/-- A line with an objection is refused for that reason. Which part of the line the diagnostic
points at is left open here. -/
theorem ofRecord_of_objection {reason : Reason} (hne : ∀ word ∈ tokens.map Token.chars, word ≠ [])
    (h : objection? hasCanvas (tokens.map Token.chars) = some reason) :
    ∃ span, ofRecord hasCanvas source (some (Record.ofTokens Number.clamp tokens)) =
      .error (.invalid reason source span) := by
  cases tokens with
  | nil =>
    cases h
    exact ⟨_, rfl⟩
  | cons t rest =>
    rw [List.map_cons, objection?] at h
    simp only [ofRecord, Record.values_ofTokens_cons]
    simp only [Record.ofTokens, Token.word]
    cases hverb : Verb.ofWord? (String.ofList t.chars) with
    | none =>
      rw [hverb] at h
      cases h
      exact ⟨_, rfl⟩
    | some verb =>
      simp only [hverb] at h ⊢
      by_cases hcanvas : verb ≠ .create ∧ hasCanvas = false
      · rw [if_pos hcanvas] at h ⊢
        cases h
        exact ⟨_, rfl⟩
      · rw [if_neg hcanvas] at h ⊢
        by_cases hlen : (rest.map Token.chars).length = verb.arity
        · rw [if_neg (not_not_intro hlen)] at h
          -- the number of arguments is right, so one of them does not fit
          obtain ⟨e, he, rfl⟩ := Option.map_eq_some_iff.1 h
          have hfill := @fill_ofWord 0 verb.places (rest.map Token.chars)
            (fun word hword => hne word (List.mem_cons_of_mem _ hword))
          rw [he] at hfill
          rw [(bind_eq_error_iff (by rw [List.length_map, hlen])).2 hfill]
          exact ⟨_, rfl⟩
        · rw [if_pos hlen] at h
          cases h
          rw [Command.bind_of_length_ne (by rwa [List.length_map]), List.length_map]
          exact ⟨_, rfl⟩

/-- A line is understood as the command that its words spell, if the command can be dispatched, and
the request remembers the line. -/
theorem ofRecord_of_spelledBy {command : Command}
    (hne : ∀ word ∈ tokens.map Token.chars, word ≠ [])
    (hspelled : command.SpelledBy (tokens.map Token.chars))
    (hcanvas : hasCanvas = true ∨ command.verb = .create) :
    ∃ request, ofRecord hasCanvas source (some (Record.ofTokens Number.clamp tokens)) = .ok request ∧
      request.command = command ∧ request.source = source := by
  cases tokens with
  | nil =>
    obtain ⟨arguments, hnil, -⟩ := hspelled
    cases hnil
  | cons t rest =>
    rw [List.map_cons] at hspelled
    obtain ⟨arguments, hcons, hall⟩ := id hspelled
    obtain ⟨hfirst, -⟩ := List.cons.inj hcons
    rw [hfirst] at hspelled
    have hbind := (Command.bind_ofWord_eq_ok_iff
      (fun word hword => hne word (List.mem_cons_of_mem _ hword))).2 hspelled
    -- the guard lets the command pass
    have hguard : ¬(command.verb ≠ .create ∧ hasCanvas = false) := by
      rintro ⟨hverb, hnone⟩
      rcases hcanvas with hsome | hcreate
      · rw [hsome] at hnone
        cases hnone
      · exact hverb hcreate
    simp only [ofRecord, Record.values_ofTokens_cons]
    simp only [Record.ofTokens, Token.word, hfirst, Verb.ofWord?_letter, if_neg hguard, hbind]
    exact ⟨_, rfl, rfl, rfl⟩

end Request

end Script

namespace Interpreter

open Script

/-! ## Carrying out a line

A line counts as carried out whatever comes of it. It is refused for an objection, or dispatched as
the command that its words spell, and the state that this starts from has the line counted already.
-/

/-- The line as a diagnostic shows it: under the name of the script and with its number, which is
one more than that of the last line. -/
def source (s : Interpreter) (text : String) : SourceLine := ⟨s.name, s.line + 1, text⟩

/-- The interpreter with one more line counted. -/
def advanced (s : Interpreter) : Interpreter := { s with line := s.line + 1 }

theorem words_ne_nil {text : String} {word : List Char} (hword : word ∈ words text) : word ≠ [] :=
  (isWord_of_mem_words hword).1

/-- A line with an objection is refused for that reason, under the line itself, and is counted.
Nothing else happens. -/
theorem executeLine_of_objection {s : Interpreter} {text : String} {reason : Reason}
    (h : objection? s.canvas.isSome (words text) = some reason) :
    ∃ span, s.executeLine text = (.error (.invalid reason (s.source text) span), s.advanced) := by
  obtain ⟨span, hrequest⟩ := @Request.ofRecord_of_objection s.canvas.isSome (s.source text)
    (Token.ofLine text) reason (fun word hword => words_ne_nil hword) h
  refine ⟨span, ?_⟩
  simp only [executeLine, Record.read?, Record.readWith?_eq, executeRecord]
  simp only [source] at hrequest
  simp only [hrequest]
  rfl

/-- Any other line is dispatched as the command that its words spell. If that fails, the failure is
explained for a request that shows the line. -/
theorem executeLine_of_spelledBy {s : Interpreter} {text : String} {command : Command}
    (hspelled : command.SpelledBy (words text))
    (hcanvas : s.canvas.isSome ∨ command.verb = .create) :
    ∃ request : Request, request.source = s.source text ∧
      s.executeLine text =
        match s.advanced.dispatch command with
        | (.ok (), t) => (.ok (), t)
        | (.error failure, t) => (.error (explain request failure), t) := by
  obtain ⟨request, hrequest, rfl, hsource⟩ :=
    @Request.ofRecord_of_spelledBy s.canvas.isSome (s.source text) (Token.ofLine text) command
      (fun word hword => words_ne_nil hword) hspelled hcanvas
  refine ⟨request, hsource, ?_⟩
  simp only [executeLine, Record.read?, Record.readWith?_eq, executeRecord]
  simp only [source] at hrequest
  simp only [hrequest]
  rfl

/-! ## The ways in which a line ends

Everything above is put into one relation between a line and what it leaves, with a constructor for
every way to succeed or to fail. Case analysis on it replaces unfolding the interpreter wherever all
lines are concerned. -/

/-- How a line can end: the result, and the interpreter afterwards. Each constructor says which
lines end in that way, and for a line that draws the canvas afterwards is the one that was drawn on,
with success or without. -/
inductive Executes (s : Interpreter) (text : String) : Outcome ScriptError → Prop where
  | objected {reason : Reason} {span : Span}
      (hobjection : objection? s.canvas.isSome (words text) = some reason) :
      Executes s text (.error (.invalid reason (s.source text) span), s.advanced)
  | created {d : Dimensions} (hspelled : (Command.create d.width d.height).SpelledBy (words text)) :
      Executes s text (.ok (), { s.advanced with canvas := some (Canvas.blank d) })
  | notCreated {width height : Nat} {cause : CanvasError} {span : Span}
      (hspelled : (Command.create width height).SpelledBy (words text))
      (hrefusal : (Command.create width height).refusal? (s.canvas.map Canvas.dimensions) =
        some cause) :
      Executes s text (.error (.outOfBounds cause (s.source text) span), s.advanced)
  | drawn {c : Canvas} {command : Command} (hcanvas : s.canvas = some c) (hdraws : command.Draws)
      (hspelled : command.SpelledBy (words text)) (hresult : (c.draw command).1 = .ok ()) :
      Executes s text (.ok (), { s.advanced with canvas := some (c.draw command).2 })
  | notDrawn {c : Canvas} {command : Command} {cause : CanvasError} {span : Span}
      (hcanvas : s.canvas = some c) (hdraws : command.Draws)
      (hspelled : command.SpelledBy (words text)) (hresult : (c.draw command).1 = .error cause) :
      Executes s text
        (.error (.outOfBounds cause (s.source text) span),
          { s.advanced with canvas := some (c.draw command).2 })
  | printed {c : Canvas} (hcanvas : s.canvas = some c)
      (hspelled : Command.print.SpelledBy (words text))
      (hresult : (c.render s.options s.sink).1 = .ok ()) :
      Executes s text (.ok (), { s.advanced with sink := (c.render s.options s.sink).2 })
  | notPrinted {c : Canvas} {cause : StreamError} (hcanvas : s.canvas = some c)
      (hspelled : Command.print.SpelledBy (words text))
      (hresult : (c.render s.options s.sink).1 = .error cause) :
      Executes s text
        (.error (.stream cause), { s.advanced with sink := (c.render s.options s.sink).2 })

/-- A line that spells a command that draws ends as that drawing does. -/
theorem executes_of_draws {s : Interpreter} {text : String} {c : Canvas} {command : Command}
    (hcanvas : s.canvas = some c) (hdraws : command.Draws)
    (hspelled : command.SpelledBy (words text)) : s.Executes text (s.executeLine text) := by
  obtain ⟨request, hsource, hline⟩ := executeLine_of_spelledBy hspelled
    (.inl (by rw [hcanvas]; rfl))
  have hdispatch : s.advanced.dispatch command = s.advanced.keep (c.draw command) :=
    dispatch_of_draws hcanvas hdraws
  rw [hline, hdispatch]
  -- the canvas that is kept is the one drawn on, with or without success
  cases hdraw : c.draw command with
  | mk result c' =>
    obtain rfl : (c.draw command).2 = c' := by rw [hdraw]
    cases result with
    | ok => exact .drawn hcanvas hdraws hspelled (by rw [hdraw])
    | error cause =>
      simp only [keep, explain, hsource]
      exact .notDrawn hcanvas hdraws hspelled (by rw [hdraw])

theorem executes_of_print {s : Interpreter} {text : String} {c : Canvas}
    (hcanvas : s.canvas = some c) (hspelled : Command.print.SpelledBy (words text)) :
    s.Executes text (s.executeLine text) := by
  obtain ⟨request, -, hline⟩ := executeLine_of_spelledBy hspelled (.inl (by rw [hcanvas]; rfl))
  have hdispatch : s.advanced.dispatch .print =
      ((c.render s.options s.sink).1.mapError Failure.stream,
        { s.advanced with sink := (c.render s.options s.sink).2 }) :=
    dispatch_print hcanvas
  rw [hline, hdispatch]
  cases hresult : (c.render s.options s.sink).1 with
  | ok => exact .printed hcanvas hspelled hresult
  | error cause => exact .notPrinted hcanvas hspelled hresult

/-- A line that creates a canvas ends with a blank one, or is refused for its sides. -/
theorem executes_of_create {s : Interpreter} {text : String} {width height : Nat}
    (hspelled : (Command.create width height).SpelledBy (words text)) :
    s.Executes text (s.executeLine text) := by
  obtain ⟨request, hsource, hline⟩ := executeLine_of_spelledBy hspelled (.inr rfl)
  rcases dispatch_create s.advanced width height with ⟨cause, hrefusal, hdispatch⟩ |
    ⟨d, rfl, rfl, hdispatch⟩
  · rw [hline, hdispatch]
    simp only [explain, hsource]
    exact .notCreated hspelled hrefusal
  · rw [hline, hdispatch]
    exact .created hspelled

/-- Every line ends in one of these ways. Its words have an objection or spell a command, and the
command creates, prints or draws. -/
theorem executes_executeLine (s : Interpreter) (text : String) :
    s.Executes text (s.executeLine text) := by
  cases hobjection : objection? s.canvas.isSome (words text) with
  | some reason =>
    obtain ⟨span, hline⟩ := executeLine_of_objection hobjection
    rw [hline]
    exact .objected hobjection
  | none =>
    obtain ⟨command, hspelled, hallowed⟩ := exists_spelledBy (fun _ => words_ne_nil) hobjection
    by_cases hcreate : command.verb = .create
    · cases command with
      | create width height => exact executes_of_create hspelled
      | _ => cases hcreate
    · have hsome : s.canvas.isSome = true := hallowed.resolve_right hcreate
      obtain ⟨c, hcanvas⟩ := Option.isSome_iff_exists.1 hsome
      by_cases hprint : command.verb = .print
      · cases command with
        | print => exact executes_of_print hcanvas hspelled
        | _ => cases hprint
      · exact executes_of_draws hcanvas ⟨hcreate, hprint⟩ hspelled

end Interpreter

end PixelScript
