import PixelScript.Proofs.Host

/-!
# Layout

Only the words of a line count. Lines with the same words, however many blanks stand around them, have
the same effect on an interpreter, and what is said of them differs in the line that is quoted and in the
place of the label alone (`Interpreter.executeLine_of_words_eq`, `Interpreter.run_of_words_eq`). A
carriage return is a blank, so the two ways to end a line do not differ, and neither does a last line that
is not ended (`Interpreter.layout_run`).
-/

namespace PixelScript

open Script

namespace Script

/-! ## Words before a blank

Line ends come down to a blank behind the last word: a carriage return that stays at the end of a
line is a blank like any other, and a blank there is no part of a word. -/

theorem Token.split_concat_blank {c : Char} (hc : Text.isBlank c) (offset : Nat) (cs : List Char) :
    split offset (cs ++ [c]) = split offset cs := by
  rw [split_append_blank hc, split_blank hc, split_nil, List.append_nil]

theorem words_concat_blank {c : Char} (hc : Text.isBlank c) (cs : List Char) :
    words (String.ofList (cs ++ [c])) = words (String.ofList cs) := by
  rw [words_ofList, words_ofList, Token.split_concat_blank hc]

open Text (LineMarks)

/-- A carriage return at the end of a line makes no difference to its words. -/
theorem words_of_sameButReturn {line line' : List Char}
    (h : LineMarks.chars.SameButReturn line line') :
    words (String.ofList line') = words (String.ofList line) := by
  rcases h with rfl | rfl
  · rfl
  · exact words_concat_blank (by decide) line

/-- Line by line, lists of lines that differ in carriage returns at the ends have the same words.
Induction on the pairs of lines. -/
theorem map_words_of_sameButReturn {lines lines' : List (List Char)}
    (h : List.Forall₂ LineMarks.chars.SameButReturn lines lines') :
    (lines'.map String.ofList).map words = (lines.map String.ofList).map words := by
  induction h with
  | nil => rfl
  | cons hline _ ih =>
    simp only [List.map_cons, words_of_sameButReturn hline, ih]

/-! ## Diagnostics of other lines

Lines with the same words can have them at different places. What is compared of their diagnostics
is therefore everything but the text that is quoted and the spans in it. -/

/-- Two diagnostics say the same of lines of the same number, and may differ in the text of the line and
in the part of it that they point out. -/
structure ScriptError.SaysAlike (e f : ScriptError) : Prop where
  kind : e.kind = f.kind
  message : e.message = f.message
  code : e.code = f.code
  help : e.help = f.help
  cause : e.cause? = f.cause?
  labels : e.labels.map Prod.snd = f.labels.map Prod.snd
  name : e.source?.map SourceLine.name = f.source?.map SourceLine.name
  number : e.source?.map SourceLine.number = f.source?.map SourceLine.number

/-- Both succeed with the same value, or fail and say the same. -/
def SameButLayout {α : Type} : Except ScriptError α → Except ScriptError α → Prop
  | .ok a, .ok b => a = b
  | .error e, .error f => e.SaysAlike f
  | _, _ => False

/-- Objections for the same reason say the same, wherever they point. -/
theorem ScriptError.saysAlike_invalid {reason : Reason} {source source' : SourceLine}
    {span span' : Span} (hname : source.name = source'.name)
    (hnumber : source.number = source'.number) :
    (invalid reason source span).SaysAlike (invalid reason source' span') :=
  ⟨rfl, rfl, rfl, rfl, rfl, rfl, congrArg some hname, congrArg some hnumber⟩

theorem ScriptError.saysAlike_outOfBounds {cause : CanvasError} {source source' : SourceLine}
    {span span' : Span} (hname : source.name = source'.name)
    (hnumber : source.number = source'.number) :
    (outOfBounds cause source span).SaysAlike (outOfBounds cause source' span') :=
  ⟨rfl, rfl, rfl, rfl, rfl, rfl, congrArg some hname, congrArg some hnumber⟩

end Script

namespace Interpreter

open Text (LineMarks)

/-! ## Lines with the same words

Whether a line is carried out, and as what, depends on its words (`objection?`,
`Command.SpelledBy`). Two lines with the same words therefore take the same way to their end, and
only the requests that they make differ. -/

/-- Failures of the same kind are explained alike for requests from lines of the same name and
number. -/
theorem explain_saysAlike {request request' : Request}
    (hname : request.source.name = request'.source.name)
    (hnumber : request.source.number = request'.source.number) (failure : Failure) :
    (explain request failure).SaysAlike (explain request' failure) := by
  cases failure with
  | noCanvas => exact ScriptError.saysAlike_invalid hname hnumber
  | canvas cause => exact ScriptError.saysAlike_outOfBounds hname hnumber
  | stream cause => exact ⟨rfl, rfl, rfl, rfl, rfl, rfl, rfl, rfl⟩

/-- A line has the effect that its words have, and says the same in the same words. -/
theorem executeLine_of_words_eq (s : Interpreter) {text text' : String}
    (h : words text' = words text) :
    (s.executeLine text').2 = (s.executeLine text).2 ∧
      SameButLayout (s.executeLine text).1 (s.executeLine text').1 := by
  cases hobjection : objection? s.canvas.isSome (words text) with
  | some reason =>
    obtain ⟨span, hline⟩ := executeLine_of_objection hobjection
    obtain ⟨span', hline'⟩ := executeLine_of_objection (h ▸ hobjection)
    rw [hline, hline']
    exact ⟨rfl, ScriptError.saysAlike_invalid rfl rfl⟩
  | none =>
    -- both lines spell the same command, and only their requests differ
    obtain ⟨command, hspelled, hallowed⟩ := exists_spelledBy (fun _ => words_ne_nil) hobjection
    obtain ⟨request, hsource, hline⟩ := executeLine_of_spelledBy hspelled hallowed
    obtain ⟨request', hsource', hline'⟩ := executeLine_of_spelledBy (h ▸ hspelled) hallowed
    rw [hline, hline']
    cases s.advanced.dispatch command with
    | mk result t =>
      cases result with
      | ok => exact ⟨rfl, rfl⟩
      | error failure =>
        exact ⟨rfl, explain_saysAlike (by rw [hsource, hsource']; rfl)
          (by rw [hsource, hsource']; rfl) failure⟩

/-- A run has the effect that the words of its lines have. Induction on the lines: both runs are in
the same state before each of them, so they also stop at the same line. -/
theorem run_of_words_eq (s : Interpreter) {lines lines' : List String}
    (h : lines'.map words = lines.map words) :
    (s.run lines').2 = (s.run lines).2 ∧ SameButLayout (s.run lines).1 (s.run lines').1 := by
  induction lines generalizing s lines' with
  | nil =>
    obtain rfl := List.map_eq_nil_iff.1 h
    exact ⟨rfl, rfl⟩
  | cons line rest ih =>
    obtain ⟨line', rest', rfl, hline, hrest⟩ := List.map_eq_cons_iff.1 h
    obtain ⟨hstate, hresult⟩ := s.executeLine_of_words_eq hline
    cases hfirst : s.executeLine line with
    | mk result t =>
      cases hfirst' : s.executeLine line' with
      | mk result' t' =>
        rw [hfirst, hfirst'] at hstate hresult
        obtain rfl : t' = t := hstate
        -- one of the lines cannot fail without the other
        cases result with
        | ok =>
          cases result' with
          | ok =>
            rw [run_cons_of_ok hfirst, run_cons_of_ok hfirst']
            exact ih t' hrest
          | error e' => cases hresult
        | error e =>
          cases result' with
          | ok => cases hresult
          | error e' =>
            rw [run_cons_of_error hfirst, run_cons_of_error hfirst']
            exact ⟨rfl, hresult⟩

/-! ## Scripts with the same words

A text is cut into lines before it is run, so whatever changes its lines by blanks alone does not
change the run. The two changes considered are those that editors make to line ends. -/

/-- Texts whose lines have the same words are given back alike, or fail alike. -/
theorem execute_of_words_eq (options : Options) {source source' : String}
    (h : (Text.lines source').map words = (Text.lines source).map words) :
    SameButLayout (Host.execute options source) (Host.execute options source') := by
  obtain ⟨hstate, hresult⟩ := run_of_words_eq { options := options } h
  rw [Host.execute, Host.execute]
  cases hrun : ({ options := options } : Interpreter).run (Text.lines source) with
  | mk result t =>
    cases hrun' : ({ options := options } : Interpreter).run (Text.lines source') with
    | mk result' t' =>
      rw [hrun, hrun'] at hstate hresult
      obtain rfl : t' = t := hstate
      -- the two sinks are one, so two successes give back the same text
      cases result with
      | ok => cases result' with
        | ok => rfl
        | error e' => cases hresult
      | error e => cases result' with
        | ok => cases hresult
        | error e' => exact hresult

/-- The text with other line ends: a carriage return before every line feed, or a line feed at the end of
a last line that was not ended. -/
inductive Relaid (source : String) : String → Prop where
  | returns : Relaid source (String.ofList (LineMarks.chars.withReturns source.toList))
  | ended (hne : source.toList ≠ []) (hlast : source.toList.getLast? ≠ some '\n') :
      Relaid source (source ++ "\n")

/-- Other line ends leave the words of every line as they are, and leave the number of the lines as
it is. -/
theorem Relaid.map_words {source source' : String} (h : Relaid source source') :
    (Text.lines source').map words = (Text.lines source).map words := by
  cases h with
  | returns =>
    rw [Text.lines, Text.lines, String.toList_ofList]
    exact map_words_of_sameButReturn (LineMarks.lines_withReturns (by decide) source.toList)
  | ended hne hlast =>
    rw [Text.lines, Text.lines, String.toList_append]
    exact (map_words_of_sameButReturn (LineMarks.lines_concat_lineFeed hne hlast)).symm

/-- Scripts whose lines have the same words have the same effect, and end in success or in failures that
say the same of lines of the same number. Texts that differ in their line ends are such scripts. -/
theorem layout_run (s : Interpreter) :
    (∀ lines lines' : List String, lines'.map words = lines.map words →
      (s.run lines').2 = (s.run lines).2 ∧ SameButLayout (s.run lines).1 (s.run lines').1) ∧
    ∀ source source' : String, Relaid source source' →
      (Text.lines source').map words = (Text.lines source).map words ∧
      (∀ options, SameButLayout (Host.execute options source) (Host.execute options source')) ∧
      (s.runBytes source'.toUTF8).2 = (s.runBytes source.toUTF8).2 ∧
      SameButLayout (s.runBytes source.toUTF8).1 (s.runBytes source'.toUTF8).1 := by
  refine ⟨fun lines lines' hwords => s.run_of_words_eq hwords, ?_⟩
  intro source source' hrelaid
  have hwords := hrelaid.map_words
  obtain ⟨hstate, hresult⟩ := s.run_of_words_eq hwords
  rw [← runBytes_toUTF8, ← runBytes_toUTF8] at hstate hresult
  exact ⟨hwords, fun options => execute_of_words_eq options hwords, hstate, hresult⟩

/-- A point off the canvas, with tabulators and more than one blank around its words, and a text with
carriage returns. -/
theorem layout_run_spaced :
    ["I\t2 \x0b1\r", "  L  3 1  é"].map words = ["I 2 1", "L 3 1 é"].map words ∧
      Relaid "I 2 1\nS" "I 2 1\r\nS" ∧
      SameButLayout (({} : Interpreter).run ["I 2 1", "L 3 1 é"]).1
        (({} : Interpreter).run ["I\t2 \x0b1\r", "  L  3 1  é"]).1 ∧
      SameButLayout (Host.execute {} "I 2 1\nS") (Host.execute {} "I 2 1\r\nS") := by
  have hwords : ["I\t2 \x0b1\r", "  L  3 1  é"].map words = ["I 2 1", "L 3 1 é"].map words := by
    decide +kernel
  have hreturns :
      String.ofList (LineMarks.chars.withReturns "I 2 1\nS".toList) = "I 2 1\r\nS" := by
    decide
  have hrelaid : Relaid "I 2 1\nS" "I 2 1\r\nS" := hreturns ▸ Relaid.returns
  obtain ⟨hlines, hsources⟩ := layout_run {}
  exact ⟨hwords, hrelaid, (hlines _ _ hwords).2, (hsources _ _ hrelaid).2.1 {}⟩

end Interpreter

end PixelScript
