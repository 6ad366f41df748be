import PixelScript.Proofs.Interpreter.Line
import PixelScript.Proofs.Script.Positions

/-!
# What a diagnostic points at

A line that is not understood is reported with the token that is to blame, or as a whole
(`Reason.PointsAt`). A request that the canvas refuses is reported with the tokens that name
sides or coordinates (`Span.IsCoordinates`).
-/

namespace PixelScript

namespace Script

/-! ## Parts that can be pointed at

A part is a token, the coordinates, or the line as a whole. Each of these says which characters of
the line the part covers, so whatever is pointed at can also be cut out of the line. -/

/-- The span of a token of a line. Tokens are numbered from zero, so the token `0` names the command
and the others are its arguments. -/
def Span.IsToken (s : Span) (line : String) (number : Nat) : Prop :=
  ∃ t, (Token.ofLine line)[number]? = some t ∧ s = t.span ∧ s.Covers line t.chars

/-- The span of the line as a whole, blanks included. -/
def Span.IsWhole (s : Span) (line : String) : Prop :=
  s = ⟨0, line.utf8ByteSize⟩ ∧ s.Covers line line.toList

/-- From the first byte of the first argument to the last byte of the last one that names a side or a
coordinate. A colour begins behind it. -/
def Span.IsCoordinates (s : Span) (line : String) : Prop :=
  ∃ (verb : Verb) (count : Nat) (first last : Token) (gap : List Char),
    (words line).head? = some verb.letter.toList ∧
    (count = 2 ∧ verb ∈ [.create, .paint, .fill] ∨ count = 3 ∧ verb ∈ [.vertical, .horizontal]) ∧
    (Token.ofLine line)[1]? = some first ∧ (Token.ofLine line)[count]? = some last ∧
    s.offset = first.offset ∧ s.stop = last.span.stop ∧
    s.Covers line (first.chars ++ gap ++ last.chars) ∧
    ∀ colour, (Token.ofLine line)[count + 1]? = some colour → s.stop < colour.offset

/-- The part of a line that is to blame for not understanding it. Every line follows the grammar. -/
def Reason.PointsAt (line : String) (s : Span) : Reason → Prop
  | unsplittable => False
  | blankLine => s.IsWhole line
  | unknownVerb _ => s.IsToken line 0
  | noCanvas => s.IsToken line 0
  | misfit _ (.wrongArity _ _) => s.IsWhole line
  | misfit _ (.expectedInteger position) => s.IsToken line (position + 1)
  | misfit _ (.expectedPixel position _) => s.IsToken line (position + 1)

/-- The part of a line that a diagnostic about it points at: what is to blame for not understanding
it, or the coordinates that the canvas refuses. An error of the sink is not about any part of a
line. -/
def ScriptError.PointsAt (line : String) (s : Span) : ScriptError → Prop
  | invalid reason _ _ => reason.PointsAt line s
  | outOfBounds _ _ _ => s.IsCoordinates line
  | stream _ => False

variable {line : String} {s : Span}

theorem Span.isWhole_whole (l : SourceLine) : l.whole.IsWhole l.text :=
  ⟨rfl, covers_whole l.text⟩

/-- The span of a token is the span of the token with its number, and covers its characters. -/
theorem Span.isToken_span {number : Nat} {t : Token} (h : (Token.ofLine line)[number]? = some t) :
    t.span.IsToken line number :=
  ⟨t, h, rfl, Token.covers_of_mem_ofLine (List.mem_of_getElem? h)⟩

theorem Span.IsToken.exists_covers {number : Nat} (h : s.IsToken line number) :
    ∃ part, s.Covers line part := by
  obtain ⟨t, -, -, hcovers⟩ := h
  exact ⟨t.chars, hcovers⟩

/-- What is to blame for not understanding a line is a part of the line, whatever the reason is. -/
theorem Reason.PointsAt.exists_covers {reason : Reason} (h : reason.PointsAt line s) :
    ∃ part, s.Covers line part := by
  cases reason with
  | unsplittable => cases h
  | blankLine => exact ⟨_, h.2⟩
  | unknownVerb word => exact Span.IsToken.exists_covers h
  | noCanvas => exact Span.IsToken.exists_covers h
  | misfit verb error =>
    cases error with
    | wrongArity verb found => exact ⟨_, h.2⟩
    | expectedInteger position => exact Span.IsToken.exists_covers h
    | expectedPixel position found => exact Span.IsToken.exists_covers h

/-- What is pointed at is a part of the line. -/
theorem ScriptError.PointsAt.exists_covers {e : ScriptError} (h : e.PointsAt line s) :
    ∃ part, s.Covers line part := by
  cases e with
  | invalid reason source span => exact Reason.PointsAt.exists_covers h
  | outOfBounds cause source span =>
    obtain ⟨verb, count, first, last, gap, -, -, -, -, -, -, hcovers, -⟩ := h
    exact ⟨_, hcovers⟩
  | stream cause => cases h

/-! ## Lines that are not understood

A line is objected to by its words, but pointed at by its tokens. So the checks are gone through
once more, now with the record, and the argument that does not fit is traced back to the token that
it was made from. -/

namespace Record

variable {clamp : Nat → Nat} {t : Token} {rest : List Token}

theorem getElem?_arguments_ofTokens {i : Nat} {u : Token} (hu : rest[i]? = some u) :
    (ofTokens clamp (t :: rest)).arguments[i]? = some (u.argument clamp) := by
  show (rest.map (Token.argument clamp))[i]? = some (u.argument clamp)
  rw [List.getElem?_map, hu]
  rfl

/-- A misfit in a place is reported at the token that stands there, whether a number or a colour was
expected. -/
theorem misfit_ofTokens {i : Nat} {v : Value}
    (hv : (ofTokens clamp (t :: rest)).values[i]? = some v) (place : Place) (source : SourceLine) :
    ∃ u, rest[i]? = some u ∧
      (ofTokens clamp (t :: rest)).misfit source (place.misfit i v) = u.span := by
  rw [values_ofTokens_cons, List.map_map, List.getElem?_map, Option.map_eq_some_iff] at hv
  obtain ⟨u, hu, -⟩ := hv
  have hargument := @getElem?_arguments_ofTokens clamp t rest i u hu
  refine ⟨u, hu, ?_⟩
  cases place with
  | number =>
    simp only [Place.misfit, misfit, hargument]
    rfl
  | colour =>
    simp only [Place.misfit, misfit, hargument]
    rfl

/-- Arguments that do not fit their verb are reported as a whole if their number is wrong, and one by
one if it is right. -/
theorem pointsAt_misfit {source : SourceLine} (htokens : Token.ofLine source.text = t :: rest)
    {verb : Verb} {e : BindError}
    (h : Command.bind verb (ofTokens clamp (t :: rest)).values = .error e) :
    (Reason.misfit verb e).PointsAt source.text
      ((ofTokens clamp (t :: rest)).misfit source e) := by
  by_cases hlen : (ofTokens clamp (t :: rest)).values.length = verb.arity
  · obtain ⟨i, v, place, hv, rfl⟩ := fill_eq_error ((bind_eq_error_iff hlen).1 h)
    rw [Nat.zero_add]
    obtain ⟨u, hu, hmisfit⟩ := misfit_ofTokens hv place source
    have htoken : u.span.IsToken source.text (i + 1) := by
      apply Span.isToken_span
      rw [htokens, List.getElem?_cons_succ, hu]
    rw [hmisfit]
    cases place <;> exact htoken
  · rw [Command.bind_of_length_ne hlen, Except.error.injEq] at h
    rw [← h]
    exact Span.isWhole_whole source

end Record

namespace Request

variable {hasCanvas : Bool} {source : SourceLine} {request : Request} {e : ScriptError} {t : Token}
  {rest : List Token}

/-- A line without tokens is blank, and that is what is said about the whole of it. -/
theorem ofRecord_of_blank (htokens : Token.ofLine source.text = []) :
    ofRecord hasCanvas source (Record.read? source.text) =
      .error (.invalid .blankLine source source.whole) := by
  rw [Record.read?, Record.readWith?_eq, htokens]
  rfl

/-- The checks that a line goes through, in terms of its tokens. -/
theorem ofRecord_of_tokens (htokens : Token.ofLine source.text = t :: rest) :
    ofRecord hasCanvas source (Record.read? source.text) =
      match Verb.ofWord? (String.ofList t.chars) with
      | none => .error (.invalid (.unknownVerb (String.ofList t.chars)) source t.span)
      | some verb =>
        if verb ≠ .create ∧ hasCanvas = false then .error (.invalid .noCanvas source t.span)
        else
          match Command.bind verb (Record.ofTokens Number.clamp (t :: rest)).values with
          | .error e =>
            .error (.invalid (.misfit verb e) source
              ((Record.ofTokens Number.clamp (t :: rest)).misfit source e))
          | .ok command =>
            .ok ⟨source, t.word, Record.ofTokens Number.clamp (t :: rest), command⟩ := by
  rw [Record.read?, Record.readWith?_eq, htokens]
  rfl

/-- A line that is not understood is reported with the part of it that is to blame. -/
theorem pointsAt_of_ofRecord
    (h : ofRecord hasCanvas source (Record.read? source.text) = .error e) :
    ∃ reason span, e = .invalid reason source span ∧ reason.PointsAt source.text span := by
  cases htokens : Token.ofLine source.text with
  | nil =>
    rw [ofRecord_of_blank htokens] at h
    cases h
    exact ⟨_, _, rfl, Span.isWhole_whole source⟩
  | cons t rest =>
    have hword : t.span.IsToken source.text 0 := Span.isToken_span (by rw [htokens]; rfl)
    -- one case for each check that the line can fail
    rw [ofRecord_of_tokens htokens] at h
    split at h
    · cases h
      exact ⟨_, _, rfl, hword⟩
    · split at h
      · cases h
        exact ⟨_, _, rfl, hword⟩
      · split at h
        · next e' hbind =>
          cases h
          exact ⟨_, _, rfl, Record.pointsAt_misfit htokens hbind⟩
        · cases h

/-! ## Lines that are understood

The other way around, an understood line tells which tokens it has: the letter, and one for each
argument. With their number it is also clear which of them are coordinates. -/

/-- The request is what a line says whose tokens are `t` and then `rest`: it has the letter of its verb
and as many arguments as the verb takes, and there is a canvas unless the verb creates one. -/
structure Understood (hasCanvas : Bool) (source : SourceLine) (t : Token) (rest : List Token)
    (request : Request) : Prop where
  tokens_eq : Token.ofLine source.text = t :: rest
  source_eq : request.source = source
  word_eq : request.word = t.word
  record_eq : request.record = Record.ofTokens Number.clamp (t :: rest)
  letter_eq : t.chars = request.command.verb.letter.toList
  length_eq : rest.length = request.command.verb.arity
  allowed : hasCanvas = true ∨ request.command.verb = .create

/-- An understood line has tokens that say just what was understood. The record kept in the request
is the one of these tokens, so spans can be read off either. -/
theorem exists_understood
    (h : ofRecord hasCanvas source (Record.read? source.text) = .ok request) :
    ∃ t rest, Understood hasCanvas source t rest request := by
  cases htokens : Token.ofLine source.text with
  | nil =>
    rw [ofRecord_of_blank htokens] at h
    cases h
  | cons t rest =>
    rw [ofRecord_of_tokens htokens] at h
    split at h
    · cases h
    · -- the word of the first token names a verb
      next verb hverb =>
      split at h
      · cases h
      · next hguard =>
        split at h
        · cases h
        · next command hbind =>
          cases h
          obtain ⟨rfl, hall⟩ := bind_eq_ok_iff.1 hbind
          refine ⟨t, rest, htokens, rfl, rfl, rfl, ?_, ?_, ?_⟩
          · rw [← Verb.ofWord?_eq_some_iff.1 hverb]
            exact String.toList_ofList.symm
          · have hlen := hall.length_eq
            rw [← List.length_map Field.place, Command.map_place_fields, Verb.length_places,
              Record.values_ofTokens_cons, List.length_map, List.length_map] at hlen
            exact hlen
          · cases hasCanvas with
            | true => exact .inl rfl
            | false => exact .inr (Decidable.byContradiction fun hcreate => hguard ⟨hcreate, rfl⟩)

end Request

/-- The coordinates reach from the first argument to the last one that names a side or a coordinate,
if there are as many arguments as that. -/
theorem Record.coordinates?_ofTokens {clamp : Nat → Nat} {t first last : Token} {rest : List Token}
    {verb : Verb} {count : Nat} (hcount : coordinateCount verb = count + 1)
    (hfirst : rest[0]? = some first) (hlast : rest[count]? = some last) :
    (ofTokens clamp (t :: rest)).coordinates? verb = some (first.span.to last.span) := by
  simp only [coordinates?, hcount, List.head?_eq_getElem?, getElem?_arguments_ofTokens hfirst,
    getElem?_arguments_ofTokens hlast]
  rfl

namespace Request

variable {hasCanvas : Bool} {source : SourceLine} {request : Request}

/-- A request with coordinates has the tokens that name the first and the last of them. -/
theorem coordinateTokens_of_ofRecord
    (h : ofRecord hasCanvas source (Record.read? source.text) = .ok request)
    (hclear : request.command.verb ≠ .clear) (hprint : request.command.verb ≠ .print) :
    ∃ t rest count first last, Understood hasCanvas source t rest request ∧
      (count + 1 = 2 ∧ request.command.verb ∈ [.create, .paint, .fill] ∨
        count + 1 = 3 ∧ request.command.verb ∈ [.vertical, .horizontal]) ∧
      Record.coordinateCount request.command.verb = count + 1 ∧
      rest[0]? = some first ∧ rest[count]? = some last ∧
      Token.Precedes 0 source.text.toList first last := by
  obtain ⟨t, rest, hunderstood⟩ := exists_understood h
  -- two coordinates or three, by the verb, and never more than it takes arguments
  have hcount : ∃ count, Record.coordinateCount request.command.verb = count + 1 ∧ 0 < count ∧
      count < request.command.verb.arity ∧
      (count + 1 = 2 ∧ request.command.verb ∈ [.create, .paint, .fill] ∨
        count + 1 = 3 ∧ request.command.verb ∈ [.vertical, .horizontal]) := by
    cases hverb : request.command.verb with
    | clear => exact absurd hverb hclear
    | print => exact absurd hverb hprint
    | create | paint | fill => exact ⟨1, rfl, by decide, by decide, by decide⟩
    | vertical | horizontal => exact ⟨2, rfl, by decide, by decide, by decide⟩
  obtain ⟨count, hcount, hpos, hlt, hverbs⟩ := hcount
  rw [← hunderstood.length_eq] at hlt
  have hfirst : rest[0]? = some rest[0] := List.getElem?_eq_getElem (by omega)
  have hlast : rest[count]? = some rest[count] := List.getElem?_eq_getElem hlt
  have hprecedes : Token.Precedes 0 source.text.toList rest[0] rest[count] := by
    apply Token.precedes_of_lt (Nat.succ_lt_succ hpos)
    · rw [hunderstood.tokens_eq, List.getElem?_cons_succ, hfirst]
    · rw [hunderstood.tokens_eq, List.getElem?_cons_succ, hlast]
  exact ⟨t, rest, count, rest[0], rest[count], hunderstood, hverbs, hcount, hfirst, hlast,
    hprecedes⟩

/-- A request with coordinates is pointed at where its line names them. -/
theorem isCoordinates_coordinates
    (h : ofRecord hasCanvas source (Record.read? source.text) = .ok request)
    (hclear : request.command.verb ≠ .clear) (hprint : request.command.verb ≠ .print) :
    request.coordinates.IsCoordinates source.text := by
  obtain ⟨t, rest, count, first, last, hunderstood, hverbs, hcount, hfirst, hlast, hprecedes⟩ :=
    coordinateTokens_of_ofRecord h hclear hprint
  have htoken (i : Nat) : (Token.ofLine source.text)[i + 1]? = rest[i]? := by
    rw [hunderstood.tokens_eq, List.getElem?_cons_succ]
  have hspan : request.coordinates = first.span.to last.span := by
    rw [coordinates, hunderstood.record_eq, Record.coordinates?_ofTokens hcount hfirst hlast]
    rfl
  have hstop : (first.span.to last.span).stop = last.span.stop := Span.stop_to hprecedes.offset_le
  obtain ⟨gap, hcovers⟩ := hprecedes.covers_to
  rw [hspan]
  refine ⟨request.command.verb, count + 1, first, last, gap, ?_, hverbs,
    by rw [htoken, hfirst], by rw [htoken, hlast], rfl, hstop, hcovers, ?_⟩
  · rw [words, hunderstood.tokens_eq, ← hunderstood.letter_eq]
    rfl
  · -- the colour comes after the last coordinate, so it begins behind the end of that
    intro colour hcolour
    rw [hstop]
    exact (Token.precedes_of_lt (Nat.lt_succ_self (count + 1))
      (by rw [htoken, hlast]) hcolour).stop_lt

end Request

end Script

namespace Interpreter

open Script

/-! ## Carrying out a line

A line that fails was not understood, or its command was refused. The first kind points at a part
that is to blame and the second at the coordinates, with the letter in place of them when there is
no canvas. -/

/-- A line that fails is quoted, and the diagnostic points at one part of it. -/
theorem pointsAt_executeLine {s t : Interpreter} {text : String} {e : ScriptError}
    (h : s.executeLine text = (.error e, t)) (hkind : e.kind ≠ .stream) :
    e.source? = some (s.source text) ∧
      ∃ span label, e.labels = [(span, label)] ∧ e.PointsAt text span := by
  simp only [executeLine, executeRecord] at h
  cases hrequest : Request.ofRecord s.canvas.isSome (s.source text) (Record.read? text) with
  | error e' =>
    simp only [source] at hrequest
    simp only [hrequest] at h
    cases h
    obtain ⟨reason, span, rfl, hpoints⟩ := Request.pointsAt_of_ofRecord hrequest
    exact ⟨rfl, span, reason.label, rfl, hpoints⟩
  | ok request =>
    obtain ⟨token, rest, hunderstood⟩ := Request.exists_understood hrequest
    have hsource := hunderstood.source_eq
    have hcoordinates := Request.isCoordinates_coordinates hrequest
    simp only [source] at hrequest
    simp only [hrequest] at h
    cases hdispatch : s.advanced.dispatch request.command with
    | mk result u =>
      simp only [advanced] at hdispatch
      simp only [hdispatch] at h
      cases result with
      | ok => cases h
      | error failure =>
        cases h
        -- no canvas is blamed on the letter, a refusal on the coordinates, and the sink is ruled
        -- out
        rcases failure_of_dispatch hdispatch with
          ⟨rfl, -, -⟩ | ⟨cause, rfl, hclear, hprint⟩ | ⟨cause, rfl, -⟩
        · refine ⟨congrArg some hsource, request.word.span, _, rfl, ?_⟩
          have hfirst : (Token.ofLine text)[0]? = some token := by
            rw [show Token.ofLine text = token :: rest from hunderstood.tokens_eq]
            rfl
          rw [hunderstood.word_eq]
          exact Span.isToken_span hfirst
        · exact ⟨congrArg some hsource, request.coordinates, _, rfl, hcoordinates hclear hprint⟩
        · exact absurd rfl hkind

end Interpreter

end PixelScript
