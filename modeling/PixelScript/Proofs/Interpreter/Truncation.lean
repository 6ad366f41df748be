import PixelScript.Proofs.Interpreter.Redirection

/-!
# Sinks with a limit

A sink with a limit only cuts off what is printed. Lines that are carried out over such a sink and over
one that takes everything (`Sink.Truncates`, `Interpreter.Truncates`) leave the same canvases, and the
first sink holds as much of what the second one holds as there is room for. Whether a print succeeds
depends on how much the second sink holds after it (`Interpreter.limited_run`).
-/

namespace PixelScript

open Script

/-! ## One write

The sink with the limit is described by what the other one holds, not by what was written to it. So
one write can follow another without a record of those that were cut off. -/

/-- Only as many bytes are taken from the beginning as there are. -/
theorem extract_zero_eq {bytes : ByteArray} {m n : Nat} (h : min m bytes.size = min n bytes.size) :
    bytes.extract 0 m = bytes.extract 0 n := by
  apply ByteArray.ext
  rw [ByteArray.data_extract, ByteArray.data_extract, Array.extract_eq_extract_right]
  exact h

namespace Sink

/-- One sink takes everything. The other one holds the first bytes of that, as many as its limit
allows. -/
structure Truncates (limit : Nat) (full cut : Sink) : Prop where
  full_limit : full.limit = none
  full_flushFails : full.flushFails = false
  cut_limit : cut.limit = some limit
  written : cut.written = full.written.extract 0 limit

variable {limit : Nat} {full cut : Sink}

theorem Truncates.emit_full (h : Truncates limit full cut) (bytes : ByteArray) :
    full.emit bytes = (.ok (), { full with
      written := full.written ++ bytes, flushes := full.flushes + 1 }) := by
  rw [emit_of_limit_eq_none h.full_limit, h.full_flushFails]
  rfl

/-- There is room for what the limit allows beyond the bytes that the other sink holds. -/
theorem Truncates.room_eq (h : Truncates limit full cut) (size : Nat) :
    cut.room size = min size (limit - full.written.size) := by
  simp only [room, h.cut_limit, h.written, ByteArray.size_extract]
  omega

/-- The part of the bytes that there is room for is what the limit allows of the whole. -/
theorem Truncates.written_append (h : Truncates limit full cut) (bytes : ByteArray) :
    cut.written ++ bytes.extract 0 (cut.room bytes.size) =
      (full.written ++ bytes).extract 0 limit := by
  have hroom : bytes.extract 0 (cut.room bytes.size) =
      bytes.extract 0 (limit - full.written.size) := by
    apply extract_zero_eq
    rw [h.room_eq]
    omega
  rw [ByteArray.extract_append, Nat.zero_sub, ← hroom, ← h.written]

/-- A print into the sink with the limit fails if the whole comes to more than the limit, and is flushed
otherwise. -/
theorem Truncates.emit (h : Truncates limit full cut) {bytes : ByteArray} (hsize : 0 < bytes.size) :
    (cut.emit bytes).1 =
        (if limit < (full.emit bytes).2.written.size then .error .writeZero
        else if cut.flushFails then .error .flushFailed else .ok ()) ∧
      (cut.emit bytes).2.flushes =
        cut.flushes + (if (full.emit bytes).2.written.size ≤ limit then 1 else 0) ∧
      Truncates limit (full.emit bytes).2 (cut.emit bytes).2 := by
  have hwritten := h.written_append bytes
  rw [h.emit_full]
  simp only [ByteArray.size_append]
  -- whether the bytes fit is a question of the whole, because what is missing is missing from then
  -- on
  by_cases hfits : full.written.size + bytes.size ≤ limit
  · have hroom : cut.room bytes.size = bytes.size := by
      rw [h.room_eq]
      omega
    rw [hroom, ByteArray.extract_zero_size] at hwritten
    rw [Sink.emit, write, if_pos hroom, if_neg (Nat.not_lt.2 hfits), if_pos hfits]
    exact ⟨rfl, rfl, h.full_limit, h.full_flushFails, h.cut_limit, hwritten⟩
  · -- some of the bytes are left over, and the sink is not flushed
    have hroom : cut.room bytes.size ≠ bytes.size := by
      rw [h.room_eq]
      omega
    rw [Sink.emit, write, if_neg hroom, if_pos (Nat.not_le.1 hfits), if_neg hfits]
    exact ⟨rfl, rfl, h.full_limit, h.full_flushFails, h.cut_limit, hwritten⟩

end Sink

/-- A print is never empty, so a sink that is full fails with every further print. -/
theorem Canvas.rendering_size_pos (c : Canvas) (options : Options) :
    0 < (c.rendering options).toUTF8.size := by
  have htext : 0 < c.text.utf8ByteSize :=
    Nat.pos_of_ne_zero fun h => c.text_ne_empty (String.utf8ByteSize_eq_zero_iff.1 h)
  show 0 < (c.rendering options).utf8ByteSize
  rw [rendering]
  split
  · rw [String.utf8ByteSize_append]
    omega
  · exact htext

/-! ## One line

A line that does not print does the same over both sinks. A line that prints writes the same text to
both, and what becomes of it is said by the write. -/

namespace Interpreter

/-- Two interpreters that differ in their sinks only, one of which has a limit. -/
structure Truncates (limit : Nat) (full cut : Interpreter) : Prop where
  redirects : Redirects full cut
  options : cut.options = full.options
  sink : full.sink.Truncates limit cut.sink

variable {limit : Nat} {full cut : Interpreter}

/-- A line comes to the same over both sinks, unless it prints. A print fails over the sink with the
limit when the whole output has outgrown it by then, and otherwise if the sink cannot be flushed. -/
theorem Truncates.executeLine (h : Truncates limit full cut) (text : String) :
    (cut.executeLine text).1 =
        (if full.Prints text then
          if limit < (full.executeLine text).2.sink.written.size then .error (.stream .writeZero)
          else if cut.sink.flushFails then .error (.stream .flushFailed) else .ok ()
        else (full.executeLine text).1) ∧
      (cut.executeLine text).2.sink.flushes = cut.sink.flushes +
        (if full.Prints text ∧ (full.executeLine text).2.sink.written.size ≤ limit then 1 else 0) ∧
      Truncates limit (full.executeLine text).2 (cut.executeLine text).2 := by
  have hoptions : (cut.executeLine text).2.options = (full.executeLine text).2.options := by
    rw [(cut.sameSettings_executeLine text).options, (full.sameSettings_executeLine text).options,
      h.options]
  cases hshown : full.shown? text with
  | none =>
    have hnot : ¬full.Prints text := not_prints_of_shown?_eq_none hshown
    obtain ⟨hresult, hfull, hcut⟩ := h.redirects.executeLine_of_shown?_eq_none hshown
    rw [if_neg hnot, if_neg fun both => hnot both.1]
    refine ⟨hresult, congrArg Sink.flushes hcut, h.redirects.executeLine text, hoptions, ?_⟩
    rw [hfull, hcut]
    exact h.sink
  | some c =>
    have hfull := executeLine_of_shown? hshown
    have hcut := executeLine_of_shown? ((h.redirects.shown?_eq text).trans hshown)
    rw [h.options] at hcut
    obtain ⟨hresult, hflushes, hsink⟩ := h.sink.emit (c.rendering_size_pos full.options)
    have hprints : full.Prints text :=
      prints_iff.2 ⟨c, hshown, by rw [Canvas.render, h.sink.emit_full]⟩
    have hafter := h.redirects.executeLine text
    rw [hfull, hcut] at hafter hoptions ⊢
    simp only [hprints, if_true, true_and]
    refine ⟨?_, hflushes, hafter, hoptions, hsink⟩
    show Except.mapError _ (cut.sink.emit _).1 = _
    rw [hresult]
    simp only [apply_ite (Except.mapError ScriptError.stream)]
    rfl

/-! ## Any number of lines

Lines go on after prints that failed, on the same canvas. The flushes are counted along the lines
over the sink that takes everything, since the results there decide which prints would have fitted.
-/

/-- How many of the lines print with success and leave no more bytes than the limit in the sink. -/
def fittingPrints (limit : Nat) (s : Interpreter) : List String → Nat
  | [] => 0
  | line :: rest =>
    (if s.Prints line ∧ (s.executeLine line).2.sink.written.size ≤ limit then 1 else 0) +
      (s.executeLine line).2.fittingPrints limit rest

/-- After any lines the one sink still holds the first bytes of the other, and was flushed once for
every print that fitted. Induction on the lines, for any two interpreters that differ in this way.
-/
theorem Truncates.after (h : Truncates limit full cut) (lines : List String) :
    (cut.after lines).sink.flushes = cut.sink.flushes + full.fittingPrints limit lines ∧
      Truncates limit (full.after lines) (cut.after lines) := by
  induction lines generalizing full cut with
  | nil => exact ⟨rfl, h⟩
  | cons line rest ih =>
    obtain ⟨-, hflushes, hline⟩ := h.executeLine line
    obtain ⟨hrest, hafter⟩ := ih hline
    refine ⟨?_, hafter⟩
    rw [fittingPrints, ← Nat.add_assoc, ← hflushes]
    exact hrest

/-- A limit on the sink, and a sink that cannot be flushed, only cut off what is printed: whatever the
lines are, the canvas is the same as over a sink that takes everything, and the sink holds the first bytes
of what that one holds. The results differ for prints alone. -/
theorem limited_run (limit : Nat) (flushFails : Bool) (options : Options) (name : String)
    (lines : List String) (line : String) :
    let fresh (sink : Sink) : Interpreter := { sink := sink, options := options, name := name }
    let full := (fresh {}).after lines
    let cut := (fresh { limit := some limit, flushFails := flushFails }).after lines
    let size := (full.executeLine line).2.sink.written.size
    cut.canvas = full.canvas ∧
      cut.sink.written = full.sink.written.extract 0 (min limit full.sink.written.size) ∧
      cut.sink.flushes = (fresh {}).fittingPrints limit lines ∧
      (cut.executeLine line).1 =
        if full.Prints line then
          if limit < size then .error (.stream .writeZero)
          else if flushFails then .error (.stream .flushFailed) else .ok ()
        else (full.executeLine line).1 := by
  intro fresh full cut size
  have hempty : ByteArray.empty = ByteArray.empty.extract 0 limit := by
    rw [extract_zero_eq (n := 0) (by rw [ByteArray.size_empty, Nat.min_zero, Nat.min_zero])]
    rfl
  have hfresh : Truncates limit (fresh {}) (fresh { limit := some limit, flushFails := flushFails }) :=
    ⟨rfl, rfl, rfl, rfl, rfl, hempty⟩
  obtain ⟨hflushes, hafter⟩ := hfresh.after lines
  obtain ⟨hresult, -, -⟩ := hafter.executeLine line
  have hfails : cut.sink.flushFails = flushFails := (sameSettings_after _ lines).flushFails
  have hbytes : cut.sink.written = full.sink.written.extract 0 limit := hafter.sink.written
  refine ⟨hafter.redirects.canvas_eq, ?_, ?_, ?_⟩
  · rw [hbytes]
    exact extract_zero_eq (by omega)
  · rw [hflushes]
    exact Nat.zero_add _
  · rw [hresult, hfails]

end Interpreter

end PixelScript
