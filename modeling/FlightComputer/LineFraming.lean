import FlightComputer.Library.Ascii
import FlightComputer.Library.Segments

/-!
# The line protocol

What a receiver of newline-delimited messages is for: the stream is cut at its
line feeds, a segment within the length limit is delivered without one trailing
carriage return, and a longer one is reported and not delivered. Both receivers
of the repository are compared with this description.
-/

set_option autoImplicit false

namespace FlightComputer

open Library

/-- What a completed segment amounts to. -/
inductive FramingEvent where
  | line (content : Bytes)
  | tooLong
  deriving DecidableEq

/-- The delivered line of an event, if it delivers one. -/
def FramingEvent.delivered : FramingEvent → Option Bytes
  | .line content => some content
  | .tooLong => none

/-- Whether a byte ends a line. -/
def endsLine (byte : UInt8) : Bool := byte == lineFeed

/-- A text without its last byte when that is a carriage return. -/
def withoutTrailingReturn (text : Bytes) : Bytes :=
  if text.getLast? = some carriageReturn then text.dropLast else text

/-- The event of one completed segment. -/
def frameSegment (limit : Nat) (segment : Bytes) : FramingEvent :=
  if segment.length ≤ limit then .line (withoutTrailingReturn segment) else .tooLong

/-- The events of a stream, in the order of its segments. -/
def framingEvents (limit : Nat) (stream : Bytes) : List FramingEvent :=
  (segments endsLine stream).map fun piece => frameSegment limit piece.1

/-- The lines a stream delivers. -/
def framedLines (limit : Nat) (stream : Bytes) : List Bytes :=
  (framingEvents limit stream).filterMap FramingEvent.delivered

/-- How many completed segments of a stream are too long. -/
def oversizedCount (limit : Nat) (stream : Bytes) : Nat :=
  (framingEvents limit stream).count .tooLong

/-- The bytes after the last line feed. -/
def unfinished (stream : Bytes) : Bytes := rest endsLine stream

@[simp] theorem endsLine_lineFeed : endsLine lineFeed = true := by decide

theorem endsLine_eq_true_iff {byte : UInt8} : endsLine byte = true ↔ byte = lineFeed := by
  simp [endsLine]

section Extension

variable (limit : Nat) (stream : Bytes)

@[simp] theorem framingEvents_nil : framingEvents limit [] = [] := rfl

@[simp] theorem framedLines_nil : framedLines limit [] = [] := rfl

@[simp] theorem oversizedCount_nil : oversizedCount limit [] = 0 := rfl

@[simp] theorem unfinished_nil : unfinished [] = [] := rfl

theorem framingEvents_concat_lineFeed :
    framingEvents limit (stream ++ [lineFeed]) =
      framingEvents limit stream ++ [frameSegment limit (unfinished stream)] := by
  simp [framingEvents, segments_concat, unfinished]

theorem unfinished_concat_lineFeed : unfinished (stream ++ [lineFeed]) = [] := by
  simp [unfinished, rest_concat]

variable {byte : UInt8}

theorem framingEvents_concat (other : byte ≠ lineFeed) :
    framingEvents limit (stream ++ [byte]) = framingEvents limit stream := by
  simp [framingEvents, segments_concat, endsLine_eq_true_iff, other]

theorem unfinished_concat (other : byte ≠ lineFeed) :
    unfinished (stream ++ [byte]) = unfinished stream ++ [byte] := by
  simp [unfinished, rest_concat, endsLine_eq_true_iff, other]

theorem framedLines_concat_lineFeed :
    framedLines limit (stream ++ [lineFeed]) =
      framedLines limit stream ++
        (frameSegment limit (unfinished stream)).delivered.toList := by
  rw [framedLines, framingEvents_concat_lineFeed, List.filterMap_append, framedLines]
  cases frameSegment limit (unfinished stream) <;> rfl

theorem framedLines_concat (other : byte ≠ lineFeed) :
    framedLines limit (stream ++ [byte]) = framedLines limit stream := by
  rw [framedLines, framingEvents_concat limit stream other, framedLines]

theorem oversizedCount_concat_lineFeed :
    oversizedCount limit (stream ++ [lineFeed]) =
      oversizedCount limit stream + if limit < (unfinished stream).length then 1 else 0 := by
  rw [oversizedCount, framingEvents_concat_lineFeed, List.count_append, oversizedCount]
  congr 1
  by_cases long : limit < (unfinished stream).length
  · simp [frameSegment, long, Nat.not_le.mpr long]
  · simp [frameSegment, long, Nat.not_lt.mp long]

theorem oversizedCount_concat (other : byte ≠ lineFeed) :
    oversizedCount limit (stream ++ [byte]) = oversizedCount limit stream := by
  rw [oversizedCount, framingEvents_concat limit stream other, oversizedCount]

end Extension

end FlightComputer
