import PixelScript.Proofs.Interpreter.Reachable
import PixelScript.Proofs.Text.Lines

/-!
# Scripts in parts

A script in bytes that ends a line can be run apart from what follows it: the rest is run if the
first part succeeds, and is not looked at otherwise (`Interpreter.runBytes_append`). So the lines
before the first failure are carried out as if they were given one by one, whether the failure is one
of a command or a line that is not UTF-8 (`Interpreter.runDecoded_of_first_error`).
-/

namespace PixelScript

open Script Text

namespace Interpreter

/-! ## Two parts

Bytes are cut into lines before any line is decoded. A cut behind a line feed is a cut between two
lines, so the lines of both parts are those of the whole. -/

/-- A script that ends a line is run before what follows it. What follows is run in the state that
the first part leaves, and only if that part succeeds. -/
theorem runBytes_append (s : Interpreter) {first : ByteArray}
    (hends : LineMarks.bytes.EndsLine first.data.toList) (second : ByteArray) :
    s.runBytes (first ++ second) =
      match s.runBytes first with
      | (.ok (), t) => t.runBytes second
      | (.error e, t) => (.error e, t) := by
  -- the cut is behind a line feed, so no line reaches over it
  have hlines : byteLines (first ++ second) = byteLines first ++ byteLines second := by
    rw [byteLines, ByteArray.data_append, Array.toList_append, LineMarks.lines_append hends,
      List.map_append]
    rfl
  rw [runBytes, hlines, List.map_append, runDecoded_append]
  rfl

/-! ## The first failure

A run is split at the first line that fails. The lines before it are described by `Succeeds`, which
speaks of each line in the state that it is carried out in, and so can be taken apart at the first
line. -/

/-- Each of the lines succeeds when those before it have been carried out. -/
def Succeeds (s : Interpreter) (lines : List String) : Prop :=
  ∀ before line later, lines = before ++ line :: later →
    ((s.after before).executeLine line).1 = .ok ()

theorem succeeds_nil (s : Interpreter) : s.Succeeds [] := by
  intro before line later hnil
  cases before <;> cases hnil

/-- The first line succeeds, and so do the others when they start from the state that it leaves. -/
theorem succeeds_cons_iff {s : Interpreter} {line : String} {rest : List String} :
    s.Succeeds (line :: rest) ↔
      (s.executeLine line).1 = .ok () ∧ (s.executeLine line).2.Succeeds rest := by
  constructor
  · intro h
    refine ⟨h [] line rest rfl, ?_⟩
    intro before next later hrest
    exact h (line :: before) next later (by rw [hrest, List.cons_append])
  · intro h before next later hsplit
    obtain ⟨hline, hrest⟩ := h
    cases before with
    | nil =>
      cases hsplit
      exact hline
    | cons first before =>
      cases hsplit
      exact hrest before next later rfl

theorem run_of_succeeds {s : Interpreter} {lines : List String} (h : s.Succeeds lines) :
    s.run lines = (.ok (), s.after lines) := by
  induction lines generalizing s with
  | nil => rfl
  | cons line rest ih =>
    obtain ⟨hline, hrest⟩ := succeeds_cons_iff.1 h
    rw [run_cons_of_ok (Prod.ext hline rfl), ih hrest]
    rfl

/-- The first failure ends the run, and what comes later does not matter. -/
theorem runDecoded_of_first_error {s t : Interpreter} {earlier : List String} {line : Option String}
    {e : ScriptError} (hearlier : s.Succeeds earlier)
    (hline : (s.after earlier).executeDecoded line = (.error e, t)) (later : List (Option String)) :
    s.runDecoded (earlier.map some ++ line :: later) = (.error e, t) := by
  have hrun : s.runDecoded (earlier.map some) = (.ok (), s.after earlier) := run_of_succeeds hearlier
  -- the earlier lines are run as a part of their own, and the failure is the first of the rest
  rw [runDecoded_append, hrun]
  exact runDecoded_cons_of_error hline later

/-- How a run of lines ends: they all succeed, or one of them is the first that fails. -/
theorem run_cases (s : Interpreter) (lines : List String) :
    (s.Succeeds lines ∧ s.run lines = (.ok (), s.after lines)) ∨
      ∃ before line later e, lines = before ++ line :: later ∧ s.Succeeds before ∧
        ((s.after before).executeLine line).1 = .error e ∧
        s.run lines = (.error e, s.after (before ++ [line])) := by
  induction lines generalizing s with
  | nil => exact .inl ⟨s.succeeds_nil, rfl⟩
  | cons line rest ih =>
    cases hresult : (s.executeLine line).1 with
    | error e =>
      have hrun : s.run (line :: rest) = (.error e, (s.executeLine line).2) :=
        run_cons_of_error (Prod.ext hresult rfl) rest
      exact .inr ⟨[], line, rest, e, rfl, s.succeeds_nil, hresult, hrun⟩
    | ok =>
      have hrun : s.run (line :: rest) = (s.executeLine line).2.run rest :=
        run_cons_of_ok (Prod.ext hresult rfl) rest
      rw [hrun]
      rcases ih (s.executeLine line).2 with
        ⟨hrest, hrun⟩ | ⟨before, bad, later, e, rfl, hbefore, hbad, hrun⟩
      · exact .inl ⟨succeeds_cons_iff.2 ⟨hresult, hrest⟩, hrun⟩
      · exact .inr ⟨line :: before, bad, later, e, rfl, succeeds_cons_iff.2 ⟨hresult, hbefore⟩,
          hbad, hrun⟩

/-! ## Scripts in bytes

For bytes there is one more way to fail: a line that is not UTF-8 ends the run where it stands,
after the lines before it have been carried out. -/

/-- Where a script is cut between two lines makes no difference, and only what stands before the
first failure matters. A line that is not UTF-8 is such a failure, and it is not even counted. -/
theorem runBytes_in_parts (s : Interpreter) :
    (∀ first second : ByteArray, LineMarks.bytes.EndsLine first.data.toList →
      (∀ t, s.runBytes first = (.ok (), t) → s.runBytes (first ++ second) = t.runBytes second) ∧
      ∀ e t, s.runBytes first = (.error e, t) → s.runBytes (first ++ second) = (.error e, t)) ∧
    ∀ (script : ByteArray) (earlier : List String) (bad : ByteArray) (later : List ByteArray),
      byteLines script = earlier.map String.toUTF8 ++ bad :: later →
        String.fromUTF8? bad = none → s.Succeeds earlier →
          s.runBytes script = (.error (.stream .invalidText), s.after earlier) := by
  refine ⟨?_, ?_⟩
  · intro first second hends
    refine ⟨?_, ?_⟩
    · intro t hfirst
      rw [s.runBytes_append hends, hfirst]
    · intro e t hfirst
      rw [s.runBytes_append hends, hfirst]
  · -- the line cannot be decoded, which is a failure of the stream and not of a command
    intro script earlier bad later hscript hbad hearlier
    have hline : (s.after earlier).executeDecoded (String.fromUTF8? bad) =
        (.error (.stream .invalidText), s.after earlier) := by
      rw [hbad]
      rfl
    rw [runBytes, hscript, List.map_append, Utf8.map_fromUTF8?_toUTF8, List.map_cons]
    exact runDecoded_of_first_error hearlier hline _

/-- A script that succeeds, one that fails, and one whose third line is no text. -/
theorem runBytes_in_parts_of_bytes :
    (∃ t, ({} : Interpreter).runBytes "I 2 1\n".toUTF8 = (.ok (), t) ∧
      ({} : Interpreter).runBytes ("I 2 1\n".toUTF8 ++ "S".toUTF8) = t.runBytes "S".toUTF8) ∧
    (∃ e t, ({} : Interpreter).runBytes "S\n".toUTF8 = (.error e, t) ∧
      ({} : Interpreter).runBytes ("S\n".toUTF8 ++ ⟨#[0xff]⟩) = (.error e, t)) ∧
    ({} : Interpreter).runBytes ("I 2 1\r\nS\n".toUTF8 ++ ⟨#[0xff, 10, 83]⟩) =
      (.error (.stream .invalidText), ({} : Interpreter).after ["I 2 1", "S"]) := by
  obtain ⟨hparts, hbad⟩ := runBytes_in_parts {}
  have hends : ∀ text : String, text.toUTF8.data.toList.getLast? = some 10 →
      LineMarks.bytes.EndsLine text.toUTF8.data.toList := by
    intro text hlast
    obtain ⟨before, hbefore⟩ := List.getLast?_eq_some_iff.1 hlast
    exact .inr ⟨before, hbefore⟩
  refine ⟨?_, ?_, ?_⟩
  · have hrun : (({} : Interpreter).runBytes "I 2 1\n".toUTF8).1 = .ok () := by decide +kernel
    exact ⟨_, Prod.ext hrun rfl, (hparts _ _ (hends _ (by decide +kernel))).1 _ (Prod.ext hrun rfl)⟩
  · have hrun : (({} : Interpreter).runBytes "S\n".toUTF8).1 =
        .error (.invalid .noCanvas ⟨"<input>", 1, "S"⟩ ⟨0, 1⟩) := by decide +kernel
    exact ⟨_, _, Prod.ext hrun rfl,
      (hparts _ _ (hends _ (by decide +kernel))).2 _ _ (Prod.ext hrun rfl)⟩
  · apply hbad _ ["I 2 1", "S"] ⟨#[0xff]⟩ [⟨#[83]⟩]
    · decide +kernel
    · decide +kernel
    · have hsecond : (({} : Interpreter).executeLine "I 2 1").2.Succeeds ["S"] :=
        succeeds_cons_iff.2 ⟨by decide +kernel, succeeds_nil _⟩
      exact succeeds_cons_iff.2 ⟨by decide +kernel, hsecond⟩

end Interpreter

end PixelScript
