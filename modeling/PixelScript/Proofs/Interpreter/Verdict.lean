import PixelScript.Proofs.Canvas.Clamping
import PixelScript.Proofs.Interpreter.Line

/-!
# Which lines succeed

On a sink that takes everything, the words of a line and the dimensions of the canvas decide between
success and every kind of failure (`executeLine_verdict`). The checks have a fixed order: what
`objection?` says comes first, and only then the limits on sizes and points (`limit?`). Numbers are
compared at their exact values, whatever their size, and are clamped where they are quoted.
-/

namespace PixelScript

namespace Script

open Text.Digits (value)

/-! ## Limits

The numbers here are those written down in the line, of any size. What is compared is exact and what
is quoted is clamped, and the lemmas show that an interpreter that only ever sees clamped numbers
decides the same. -/

/-- What is said of a point, given by numbers of any size, that does not lie on a canvas. -/
def offCanvas? (d : Dimensions) (col row : Nat) : Option CanvasError :=
  if (⟨col, row⟩ : Point) ∈ d then none
  else some (.outOfBounds ⟨Number.clamp col, Number.clamp row⟩ d)

/-- What is said of a size given by numbers of any size. -/
def offLimits? (width height : Nat) : Option CanvasError :=
  if 250 < width ∨ 250 < height then some (.tooLarge (Number.clamp width) (Number.clamp height))
  else if width = 0 ∨ height = 0 then some (.tooSmall (Number.clamp width) (Number.clamp height))
  else none

/-- What a canvas of the given dimensions refuses of the words of a line. A segment is refused for its
lower end, or else for its first point past the edge. -/
def limit? (size : Option Dimensions) : List (List Char) → Option CanvasError
  | [['I'], width, height] => offLimits? (value width) (value height)
  | [['L'], col, row, _] | [['F'], col, row, _] =>
    size.bind fun d => offCanvas? d (value col) (value row)
  | [['V'], col, a, b, _] =>
    size.bind fun d =>
      (offCanvas? d (value col) (min (value a) (value b))).or
        (if max (value a) (value b) ≤ d.height then none
        else some (.outOfBounds ⟨value col, d.height + 1⟩ d))
  | [['H'], a, b, row, _] =>
    size.bind fun d =>
      (offCanvas? d (min (value a) (value b)) (value row)).or
        (if max (value a) (value b) ≤ d.width then none
        else some (.outOfBounds ⟨d.width + 1, value row⟩ d))
  | _ => none

theorem offCanvas?_eq (d : Dimensions) (col row : Nat) :
    offCanvas? d col row =
      if (⟨Number.clamp col, Number.clamp row⟩ : Point) ∈ d then none
      else some (.outOfBounds ⟨Number.clamp col, Number.clamp row⟩ d) := by
  rw [offCanvas?]
  simp only [Dimensions.clamp_mem_iff]

theorem offLimits?_eq (width height : Nat) (size : Option Dimensions) :
    offLimits? width height =
      (Command.create (Number.clamp width) (Number.clamp height)).refusal? size := by
  have hlarge : maxSide < Number.largest := by decide
  have hsmall : minSide ≤ Number.largest := by decide
  rw [offLimits?, Command.refusal?]
  simp only [Number.lt_clamp_iff hlarge, Number.clamp_lt_iff hsmall]
  simp only [maxSide, minSide, Nat.lt_one_iff]

/-- The first point of a segment is looked at before its last. This is the shape of both kinds of
segments: the two errors may be written down in different ways, as long as they are the same where
the first point is on the canvas. -/
theorem offCanvas?_or {d : Dimensions} {col row high last : Nat} {e e' : CanvasError}
    (hlast : last < Number.largest) (he : (⟨col, row⟩ : Point) ∈ d → e = e') :
    (offCanvas? d col row).or (if high ≤ last then none else some e) =
      if (⟨Number.clamp col, Number.clamp row⟩ : Point) ∉ d then
        some (.outOfBounds ⟨Number.clamp col, Number.clamp row⟩ d)
      else if Number.clamp high ≤ last then none else some e' := by
  rw [offCanvas?_eq]
  by_cases hmem : (⟨Number.clamp col, Number.clamp row⟩ : Point) ∈ d
  · rw [if_pos hmem, Option.none_or, if_neg (not_not_intro hmem), he (Dimensions.clamp_mem_iff.1 hmem)]
    simp only [Number.clamp_le_iff hlast]
  · rw [if_neg hmem, if_pos hmem]
    rfl

/-- Words are refused for what the command that they spell is refused for, with one case for each
verb. -/
theorem limit?_of_spelledBy {command : Command} {ws : List (List Char)} (size : Option Dimensions)
    (hspelled : command.SpelledBy ws) : limit? size ws = command.refusal? size := by
  obtain ⟨arguments, rfl, hall⟩ := hspelled
  rw [Verb.toList_letter]
  -- in each case the fields are the clamped numbers of the words
  cases command with
  | clear | print =>
    cases hall
    rfl
  | create width height =>
    rcases hall with _ | ⟨⟨-, rfl⟩, _ | ⟨⟨-, rfl⟩, _ | _⟩⟩
    show limit? size [['I'], _, _] = _
    exact offLimits?_eq _ _ size
  | paint p k | fill p k =>
    obtain ⟨col, row⟩ := p
    rcases hall with _ | ⟨⟨-, rfl⟩, _ | ⟨⟨-, rfl⟩, _ | ⟨-, _ | _⟩⟩⟩
    simp only [Command.verb, Verb.initial, limit?, offCanvas?_eq]
    rfl
  | vertical col a b k =>
    rcases hall with _ | ⟨⟨-, rfl⟩, _ | ⟨⟨-, rfl⟩, _ | ⟨⟨-, rfl⟩, _ | ⟨-, _ | _⟩⟩⟩⟩
    show limit? size [['V'], _, _, _, _] = _
    rw [limit?, Command.refusal?]
    congr 1
    funext d
    rw [← Number.clamp_min, ← Number.clamp_max]
    apply offCanvas?_or d.height_lt_largest
    intro hmem
    rw [(Dimensions.clamp_eq_of_mem hmem).1]
  | horizontal a b row k =>
    rcases hall with _ | ⟨⟨-, rfl⟩, _ | ⟨⟨-, rfl⟩, _ | ⟨⟨-, rfl⟩, _ | ⟨-, _ | _⟩⟩⟩⟩
    show limit? size [['H'], _, _, _, _] = _
    rw [limit?, Command.refusal?]
    congr 1
    funext d
    rw [← Number.clamp_min, ← Number.clamp_max]
    apply offCanvas?_or d.width_lt_largest
    intro hmem
    rw [(Dimensions.clamp_eq_of_mem hmem).2]

theorem refusal?_create_sides (d : Dimensions) (size : Option Dimensions) :
    (Command.create d.width d.height).refusal? size = none := by
  have := d.width_pos
  have := d.width_le
  have := d.height_pos
  have := d.height_le
  rw [Command.refusal?, if_neg (by omega), if_neg (by omega)]

/-! ## Verdicts

Both kinds of objections together decide about a line. They are computed from its words and the
dimensions alone, so the verdict can be told without carrying anything out. -/

/-- Why a line fails on a sink that takes everything. -/
inductive Refusal where
  /-- The line is not a command that can be carried out. -/
  | invalid (reason : Reason)
  /-- The canvas refuses what the command asks for. -/
  | outOfBounds (cause : CanvasError)
deriving DecidableEq

/-- What is decided about the words of a line where there is a canvas of the given dimensions, or
none. -/
def verdict? (size : Option Dimensions) (ws : List (List Char)) : Option Refusal :=
  match objection? size.isSome ws with
  | some reason => some (.invalid reason)
  | none => (limit? size ws).map .outOfBounds

end Script

open Script

/-- A line succeeds if nothing is said against its words, and fails with what is said otherwise. The
sink is asked to take everything, since it could be the reason for a failure that the words do not
tell. -/
theorem Interpreter.executeLine_verdict {s : Interpreter}
    (hsink : ∀ bytes, (s.sink.emit bytes).1 = .ok ()) (text : String) :
    match verdict? (s.canvas.map Canvas.dimensions) (words text) with
    | none => (s.executeLine text).1 = .ok ()
    | some (.invalid reason) =>
      ∃ span, (s.executeLine text).1 = .error (.invalid reason (s.source text) span)
    | some (.outOfBounds cause) =>
      ∃ span, (s.executeLine text).1 = .error (.outOfBounds cause (s.source text) span) := by
  cases hobjection : objection? s.canvas.isSome (words text) with
  | some reason =>
    obtain ⟨span, hline⟩ := executeLine_of_objection hobjection
    simp only [verdict?, Option.isSome_map, hobjection]
    exact ⟨span, by rw [hline]⟩
  | none =>
    simp only [verdict?, Option.isSome_map, hobjection]
    have hexecutes := s.executes_executeLine text
    generalize s.executeLine text = outcome at hexecutes ⊢
    -- each way to end has its own reason, and the verdict is compared with it
    cases hexecutes with
    | objected h =>
      -- nothing was said against the words
      rw [hobjection] at h
      cases h
    | created hspelled =>
      rw [limit?_of_spelledBy _ hspelled, refusal?_create_sides]
      rfl
    | notCreated hspelled hrefusal =>
      rw [limit?_of_spelledBy _ hspelled, hrefusal]
      exact ⟨_, rfl⟩
    | @drawn c command hcanvas hdraws hspelled hresult =>
      rw [limit?_of_spelledBy _ hspelled, hcanvas, Option.map_some]
      rw [Canvas.draw_result c hdraws] at hresult
      cases hrefusal : command.refusal? (some c.dimensions) with
      | none => rfl
      | some cause =>
        rw [hrefusal] at hresult
        cases hresult
    | @notDrawn c command cause span hcanvas hdraws hspelled hresult =>
      rw [limit?_of_spelledBy _ hspelled, hcanvas, Option.map_some]
      rw [Canvas.draw_result c hdraws] at hresult
      cases hrefusal : command.refusal? (some c.dimensions) with
      | none =>
        rw [hrefusal] at hresult
        cases hresult
      | some cause' =>
        rw [hrefusal] at hresult
        cases hresult
        exact ⟨span, rfl⟩
    | printed hcanvas hspelled hresult =>
      rw [limit?_of_spelledBy _ hspelled]
      rfl
    | notPrinted hcanvas hspelled hresult =>
      -- a print fails with its sink only
      rw [Canvas.render, hsink] at hresult
      cases hresult

/-- A segment with a column too large to be named, given from below and clipped at the edge. -/
theorem Interpreter.executeLine_verdict_segment :
    let d : Dimensions := ⟨3, 3, by decide, by decide, by decide, by decide⟩
    let s : Interpreter := { canvas := some (Canvas.blank d) }
    (∀ bytes, (s.sink.emit bytes).1 = .ok ()) ∧
      ∃ span, (s.executeLine "V 4294967297 9 2 07").1 =
        .error (.outOfBounds (.outOfBounds ⟨4294967295, 2⟩ d)
          (s.source "V 4294967297 9 2 07") span) := by
  intro d s
  have hsink : ∀ bytes, (s.sink.emit bytes).1 = .ok () := by
    intro bytes
    rw [Sink.emit, Sink.write_of_limit_eq_none rfl]
    rfl
  have hwords : words "V 4294967297 9 2 07" =
      [['V'], "4294967297".toList, ['9'], ['2'], ['0', '7']] := by
    have h := @words_intercalate [['V'], "4294967297".toList, ['9'], ['2'], ['0', '7']]
      (by simp [IsWord, Text.isBlank])
    simpa using h
  have hverdict : verdict? (s.canvas.map Canvas.dimensions)
      [['V'], "4294967297".toList, ['9'], ['2'], ['0', '7']] =
        some (.outOfBounds (.outOfBounds ⟨4294967295, 2⟩ d)) := by
    show verdict? (some d) _ = _
    decide
  have hline := executeLine_verdict hsink "V 4294967297 9 2 07"
  rw [hwords, hverdict] at hline
  exact ⟨hsink, hline⟩

end PixelScript
