import PixelScript.Proofs.Interpreter.Labels
import PixelScript.Proofs.Interpreter.Printing

/-!
# Sessions

In a session an interpreter is given lines one at a time, in runs, or as the bytes of a script, and
may be renamed or set up anew in between (`Move`). However lines are given, they are handed to
`Interpreter.executeLine` one after the other; `Interpreter.calls` lists them. The line counter counts
them over the whole session, so that every diagnostic names its line (`Interpreter.diagnostic_of_session`).
-/

namespace PixelScript

open Script

/-- What can be done with an interpreter: it is given a line, several lines or the bytes of a
script, or its name or its options are changed. -/
inductive Move where
  | line (text : String)
  | run (texts : List String)
  | bytes (script : ByteArray)
  | rename (name : String)
  | configure (options : Options)

/-- The lines that a move gives to the interpreter. One that could not be decoded is `none`. -/
def Move.lines : Move → List (Option String)
  | line text => [some text]
  | run texts => texts.map some
  | bytes script => (Text.byteLines script).map String.fromUTF8?
  | rename _ => []
  | configure _ => []

namespace Interpreter

/-! ## One move

A move is a run of the lines that it gives, with the lines that could not be decoded marked. What
such a run leaves is what the lines leave that it hands over, one by one. -/

/-- Makes one move. Renaming and setting up always succeed. -/
def perform (s : Interpreter) : Move → Outcome ScriptError
  | .line text => s.executeLine text
  | .run texts => s.run texts
  | .bytes script => s.runBytes script
  | .rename name => (.ok (), { s with name := name })
  | .configure options => (.ok (), { s with options := options })

/-- The lines that are handed to `executeLine`: all up to the first one that fails or could not be
decoded. The former is handed over, the latter is not. -/
def calls (s : Interpreter) : List (Option String) → List String
  | [] => []
  | none :: _ => []
  | some text :: rest =>
    text ::
      match s.executeLine text with
      | (.ok (), t) => t.calls rest
      | (.error _, _) => []

theorem line_executeLine (s : Interpreter) (text : String) :
    (s.executeLine text).2.line = s.line + 1 := by
  have hexecutes := s.executes_executeLine text
  generalize s.executeLine text = outcome at hexecutes ⊢
  cases hexecutes <;> rfl

theorem line_after (s : Interpreter) (texts : List String) :
    (s.after texts).line = s.line + texts.length := by
  induction texts generalizing s with
  | nil => rfl
  | cons text rest ih =>
    show ((s.executeLine text).2.after rest).line = s.line + (rest.length + 1)
    rw [ih, line_executeLine]
    omega

section Runs

variable {s t : Interpreter} {text : String} {e : ScriptError}

theorem runDecoded_of_ok (h : s.executeLine text = (.ok (), t)) (rest : List (Option String)) :
    s.runDecoded (some text :: rest) = t.runDecoded rest := by
  have hdecoded : s.executeDecoded (some text) = (.ok (), t) := h
  exact runDecoded_cons_of_ok hdecoded rest

theorem runDecoded_of_error (h : s.executeLine text = (.error e, t)) (rest : List (Option String)) :
    s.runDecoded (some text :: rest) = (.error e, t) := by
  have hdecoded : s.executeDecoded (some text) = (.error e, t) := h
  exact runDecoded_cons_of_error hdecoded rest

theorem calls_of_ok (h : s.executeLine text = (.ok (), t)) (rest : List (Option String)) :
    s.calls (some text :: rest) = text :: t.calls rest := by
  simp only [calls, h]

theorem calls_of_error (h : s.executeLine text = (.error e, t)) (rest : List (Option String)) :
    s.calls (some text :: rest) = [text] := by
  simp only [calls, h]

end Runs

/-- A run leaves what its calls leave, one after the other. Induction on the lines: behind a
failure, and behind a line that could not be decoded, there are neither calls nor changes. -/
theorem runDecoded_eq_after (s : Interpreter) (lines : List (Option String)) :
    (s.runDecoded lines).2 = s.after (s.calls lines) := by
  induction lines generalizing s with
  | nil => rfl
  | cons line rest ih =>
    cases line with
    | none => rfl
    | some text =>
      cases hline : s.executeLine text with
      | mk result t =>
        -- the state that a line leaves is the one from which the rest is run
        have hstate : (s.executeLine text).2 = t := by rw [hline]
        cases result with
        | ok =>
          rw [runDecoded_of_ok hline, calls_of_ok hline, ih]
          show t.after _ = (s.executeLine text).2.after _
          rw [hstate]
        | error e =>
          rw [runDecoded_of_error hline, calls_of_error hline]
          show t = (s.executeLine text).2
          rw [hstate]

/-- A run that fails other than for the stream fails at the last line that it hands over. Induction
on the lines, where a line that succeeds is put in front of those that the rest of the run hands
over. -/
theorem calls_of_runDecoded_error {s : Interpreter} {lines : List (Option String)} {e : ScriptError}
    (h : (s.runDecoded lines).1 = .error e) (hkind : e.kind ≠ .stream) :
    ∃ earlier text, s.calls lines = earlier ++ [text] ∧
      ((s.after earlier).executeLine text).1 = .error e := by
  induction lines generalizing s with
  | nil => cases h
  | cons line rest ih =>
    cases line with
    | none =>
      -- what could not be decoded is a failure of the stream
      cases h
      exact absurd rfl hkind
    | some text =>
      cases hline : s.executeLine text with
      | mk result t =>
        have hstate : (s.executeLine text).2 = t := by rw [hline]
        cases result with
        | ok =>
          rw [runDecoded_of_ok hline] at h
          obtain ⟨earlier, last, hcalls, hlast⟩ := ih h
          refine ⟨text :: earlier, last, ?_, ?_⟩
          · rw [calls_of_ok hline, hcalls, List.cons_append]
          · show (((s.executeLine text).2.after earlier).executeLine last).1 = .error e
            rw [hstate, hlast]
        | error e' =>
          rw [runDecoded_of_error hline] at h
          refine ⟨[], text, calls_of_error hline rest, ?_⟩
          show (s.executeLine text).1 = .error e
          rw [hline, ← h]

/-- A move that gives lines runs them. Any other move succeeds and leaves the counter as it was. -/
theorem perform_cases (s : Interpreter) (move : Move) :
    s.perform move = s.runDecoded move.lines ∨
      move.lines = [] ∧ (s.perform move).1 = .ok () ∧ (s.perform move).2.line = s.line := by
  cases move with
  | line text =>
    left
    show s.executeLine text = s.runDecoded [some text]
    cases hline : s.executeLine text with
    | mk result t =>
      cases result with
      | ok => rw [runDecoded_of_ok hline, runDecoded]
      | error e => rw [runDecoded_of_error hline]
  | run texts => exact .inl rfl
  | bytes script => exact .inl rfl
  | rename name => exact .inr ⟨rfl, rfl, rfl⟩
  | configure options => exact .inr ⟨rfl, rfl, rfl⟩

theorem line_perform (s : Interpreter) (move : Move) :
    (s.perform move).2.line = s.line + (s.calls move.lines).length := by
  -- a move that gives lines counts its calls, and any other one counts nothing
  rcases s.perform_cases move with hrun | ⟨hlines, -, hline⟩
  · rw [hrun, runDecoded_eq_after, line_after]
  · rw [hline, hlines]
    rfl

/-! ## Whole sessions

The moves of a session are made one after the other, going on after failures. The calls of all of
them are counted by one counter, which no move sets back. -/

/-- The interpreter after moves, whether or not they succeeded. -/
def session (s : Interpreter) (moves : List Move) : Interpreter :=
  moves.foldl (fun s move => (s.perform move).2) s

/-- The lines that are handed to `executeLine` in the course of a session. -/
def sessionCalls (s : Interpreter) : List Move → List String
  | [] => []
  | move :: rest => s.calls move.lines ++ (s.perform move).2.sessionCalls rest

/-- The calls of one more move come behind those of the moves before it, and are made from the state
that these leave. -/
theorem sessionCalls_concat (s : Interpreter) (moves : List Move) (move : Move) :
    s.sessionCalls (moves ++ [move]) = s.sessionCalls moves ++ (s.session moves).calls move.lines := by
  induction moves generalizing s with
  | nil =>
    show s.calls move.lines ++ [] = s.calls move.lines
    rw [List.append_nil]
  | cons first rest ih =>
    show s.calls first.lines ++ (s.perform first).2.sessionCalls (rest ++ [move]) = _
    rw [ih, ← List.append_assoc]
    rfl

/-- The line counter of a session counts the calls, over all of its moves. -/
theorem line_session (s : Interpreter) (moves : List Move) :
    (s.session moves).line = s.line + (s.sessionCalls moves).length := by
  induction moves generalizing s with
  | nil => rfl
  | cons move rest ih =>
    show ((s.perform move).2.session rest).line = _
    rw [ih, line_perform, sessionCalls, List.length_append, Nat.add_assoc]

/-- A line that fails in a session of a new interpreter is quoted with the name of the script and the
number of calls that have been made, this one included. There is one label; it begins and ends between
two characters of the line, and covers the part to blame. -/
theorem diagnostic_of_session (sink : Sink) (moves : List Move) (move : Move) {e : ScriptError}
    (h : ((({ sink := sink } : Interpreter).session moves).perform move).1 = .error e)
    (hkind : e.kind ≠ .stream) :
    let s := ({ sink := sink } : Interpreter).session moves
    ∃ earlier text source span label,
      s.calls move.lines = earlier ++ [text] ∧
      (s.after earlier).executeLine text = (.error e, (s.perform move).2) ∧
      e.source? = some source ∧ e.labels = [(span, label)] ∧
      source.title = s.name ++ ":" ++
        toString (({ sink := sink } : Interpreter).sessionCalls (moves ++ [move])).length ∧
      source.text = text ∧
      span.offset + span.length ≤ text.utf8ByteSize ∧
      String.Pos.Raw.IsValid text ⟨span.offset⟩ ∧
      String.Pos.Raw.IsValid text ⟨span.offset + span.length⟩ ∧
      e.PointsAt text span := by
  intro s
  have hrun : s.perform move = s.runDecoded move.lines := by
    rcases s.perform_cases move with hrun | ⟨-, hok, -⟩
    · exact hrun
    · rw [h] at hok
      cases hok
  obtain ⟨earlier, text, hcalls, hlast⟩ := calls_of_runDecoded_error (hrun ▸ h) hkind
  have hexecute : (s.after earlier).executeLine text = (.error e, (s.perform move).2) := by
    rw [hrun, runDecoded_eq_after, hcalls, after_concat, ← hlast]
  obtain ⟨hsource, span, label, hlabels, hpoints⟩ := pointsAt_executeLine hexecute hkind
  obtain ⟨part, hcovers⟩ := hpoints.exists_covers
  refine ⟨earlier, text, _, span, label, hcalls, hexecute, hsource, hlabels, ?_, rfl,
    hcovers.stop_le, hcovers.isValid_offset, hcovers.isValid_stop, hpoints⟩
  -- lines do not rename the script, and the counter has counted every call before this one
  have hname : (s.after earlier).name = s.name := (s.sameSettings_after earlier).name
  have hnumber : (s.after earlier).line + 1 =
      (({ sink := sink } : Interpreter).sessionCalls (moves ++ [move])).length := by
    rw [line_after, line_session, sessionCalls_concat, hcalls, List.length_append,
      List.length_append]
    show 0 + _ + earlier.length + 1 = _ + (earlier.length + 1)
    omega
  show (s.after earlier).name ++ ":" ++ toString ((s.after earlier).line + 1) = _
  rw [hname, hnumber]

/-- Lines count that failed before, and those of runs, but not the lines behind a failure. -/
theorem diagnostic_of_session_mixed :
    let s := ({} : Interpreter).session [.line "?", .rename "demo.bm", .run ["I 3 3", "", "S"]]
    let move : Move := .bytes "L 1 1 é\nV é 2 9 R\nS".toUTF8
    let e : ScriptError := .invalid (.misfit .vertical (.expectedInteger 0))
      ⟨"demo.bm", 5, "V é 2 9 R"⟩ ⟨2, 2⟩
    (s.perform move).1 = .error e ∧ e.kind ≠ .stream ∧
      ∃ text source span label, e.source? = some source ∧ e.labels = [(span, label)] ∧
        source.title = "demo.bm:5" ∧ source.text = text ∧ e.PointsAt text span := by
  intro s move e
  have herror : (s.perform move).1 = .error e := by decide +kernel
  have hkind : e.kind ≠ .stream := by decide
  obtain ⟨earlier, text, source, span, label, -, -, hsource, hlabels, htitle, htext, -, -, -, hpoints⟩ :=
    diagnostic_of_session {} _ move herror hkind
  refine ⟨herror, hkind, text, source, span, label, hsource, hlabels, ?_, htext, hpoints⟩
  rw [htitle]
  decide +kernel

end Interpreter

end PixelScript
