import PixelScript.Stream.Error

/-!
# Sinks

A sink collects the bytes that are written to it. It may have room for a limited number of bytes,
and it may refuse to be flushed. A write that does not fit leaves as much as does fit and fails.
-/

namespace PixelScript

/-- What has been written so far, and how the sink behaves when more is written to it. -/
structure Sink where
  written : ByteArray := ByteArray.empty
  /-- How many bytes there is room for in all, if that is limited. -/
  limit : Option Nat := none
  flushFails : Bool := false
  /-- How often the sink has been flushed, with or without success. -/
  flushes : Nat := 0

namespace Sink

/-- How many of the next `size` bytes there is room for. -/
def room (s : Sink) (size : Nat) : Nat :=
  match s.limit with
  | some limit => min size (limit - s.written.size)
  | none => size

/-- Writes bytes, or as many of them as there is room for. -/
def write (s : Sink) (bytes : ByteArray) : Except StreamError Unit × Sink :=
  let taken := s.room bytes.size
  if taken = bytes.size then (.ok (), { s with written := s.written ++ bytes })
  else (.error .writeZero, { s with written := s.written ++ bytes.extract 0 taken })

/-- Passes on what has been written so far. -/
def flush (s : Sink) : Except StreamError Unit × Sink :=
  (if s.flushFails then .error .flushFailed else .ok (), { s with flushes := s.flushes + 1 })

/-- Writes bytes and then, if they all fitted, flushes. -/
def emit (s : Sink) (bytes : ByteArray) : Except StreamError Unit × Sink :=
  match s.write bytes with
  | (.ok (), s) => s.flush
  | (.error e, s) => (.error e, s)

/-- What is written to a sink without a limit arrives, so only a flush can still fail. -/
theorem write_of_limit_eq_none {s : Sink} (h : s.limit = none) (bytes : ByteArray) :
    s.write bytes = (.ok (), { s with written := s.written ++ bytes }) := by
  simp [write, room, h]

/-- Without a limit, everything is written and the one flush is counted whether or not it fails. The
bytes stay written if it does. -/
theorem emit_of_limit_eq_none {s : Sink} (h : s.limit = none) (bytes : ByteArray) :
    s.emit bytes =
      (if s.flushFails then .error .flushFailed else .ok (),
        { s with written := s.written ++ bytes, flushes := s.flushes + 1 }) := by
  rw [emit, write_of_limit_eq_none h]
  rfl

end Sink

end PixelScript
