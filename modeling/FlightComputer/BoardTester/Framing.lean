import FlightComputer.LineFraming

/-!
# The tester's newline framer

`NewlineFramer` assembles received chunks into lines. Completed lines and the
errors of oversized ones wait in one queue, in the order of their segments;
`pop_line` takes the next one.

Whatever calls are made, the results taken and the results waiting are together
the events of the stream that was fed (`NewlineFramer.Follows.runFramerCalls`).
-/

set_option autoImplicit false

namespace FlightComputer.BoardTester

open Library

/-- `MAX_LINE_LENGTH` -/
def maxLineLength : Nat := 4096

/-- `FramingError` and its subclass `LineTooLongError`, with their messages. -/
inductive FramingError where
  | framingError (message : String)
  | lineTooLongError (message : String)
  deriving DecidableEq

/-- The error `feed` queues for an oversized line. -/
def incomingLineTooLong (limit : Nat) : FramingError :=
  .lineTooLongError ("incoming line exceeds " ++ toString limit ++ " bytes")

/-- `NewlineFramer`: the line under assembly, the queue of completed lines and
errors, and whether the current line is being discarded. -/
structure NewlineFramer where
  maxLineLength : Nat
  line : Bytes
  events : List (Except FramingError Bytes)
  discarding : Bool

/-- A framer that has been fed nothing. -/
def NewlineFramer.fresh (limit : Nat) : NewlineFramer where
  maxLineLength := limit
  line := []
  events := []
  discarding := false

/-- `NewlineFramer.__init__`, with the text of its `ValueError`. -/
def newlineFramer (limit : Nat) : Except String NewlineFramer :=
  if limit < 1 then .error "max_line_length must be positive" else .ok (.fresh limit)

/-- The body of the loop of `NewlineFramer.feed`, for one byte. -/
def NewlineFramer.feedByte (framer : NewlineFramer) (byte : UInt8) : NewlineFramer :=
  if framer.discarding then
    if byte = lineFeed then
      { framer with
        discarding := false
        events := framer.events ++ [.error (incomingLineTooLong framer.maxLineLength)] }
    else framer
  else if byte = lineFeed then
    { framer with
      events := framer.events ++ [.ok (withoutTrailingReturn framer.line)]
      line := [] }
  else if framer.line.length = framer.maxLineLength then
    { framer with line := [], discarding := true }
  else
    { framer with line := framer.line ++ [byte] }

/-- `NewlineFramer.feed` -/
def NewlineFramer.feed (framer : NewlineFramer) (data : Bytes) : NewlineFramer :=
  data.foldl NewlineFramer.feedByte framer

/-- `NewlineFramer.pop_line`: `None`, a line, or the raised error. -/
def NewlineFramer.popLine (framer : NewlineFramer) :
    NewlineFramer × Except FramingError (Option Bytes) :=
  match framer.events with
  | [] => (framer, .ok none)
  | .ok line :: events => ({ framer with events := events }, .ok (some line))
  | .error error :: events => ({ framer with events := events }, .error error)

/-- The calls a framer receives. -/
inductive FramerCall where
  | feed (chunk : Bytes)
  | popLine
  deriving DecidableEq

/-- What a result of the framer says about the stream. -/
def eventOf : Except FramingError Bytes → FramingEvent
  | .ok line => .line line
  | .error _ => .tooLong

/-- The event a call of `pop_line` reports, if it reports one. -/
def reported : Except FramingError (Option Bytes) → Option FramingEvent
  | .ok none => none
  | .ok (some line) => some (.line line)
  | .error _ => some .tooLong

/-- One call, with the events reported so far. -/
def framerCall (state : NewlineFramer × List FramingEvent) :
    FramerCall → NewlineFramer × List FramingEvent
  | .feed chunk => (state.1.feed chunk, state.2)
  | .popLine => (state.1.popLine.1, state.2 ++ (reported state.1.popLine.2).toList)

/-- A sequence of calls on a fresh framer, and the events it reports. -/
def runFramerCalls (limit : Nat) (calls : List FramerCall) : NewlineFramer × List FramingEvent :=
  calls.foldl framerCall (.fresh limit, [])

/-- The bytes a sequence of calls feeds. -/
def fedBytes : List FramerCall → Bytes
  | [] => []
  | .feed chunk :: calls => chunk ++ fedBytes calls
  | .popLine :: calls => fedBytes calls

theorem fedBytes_append (first second : List FramerCall) :
    fedBytes (first ++ second) = fedBytes first ++ fedBytes second := by
  induction first with
  | nil => rfl
  | cons call calls ih => cases call <;> simp [fedBytes, ih]

namespace NewlineFramer

/-- The framer, together with the events reported so far, is where the line
protocol is after a stream. -/
structure Follows (framer : NewlineFramer) (limit : Nat) (taken : List FramingEvent)
    (stream : Bytes) : Prop where
  limit_eq : framer.maxLineLength = limit
  discarding_eq : framer.discarding = decide (limit < (unfinished stream).length)
  line_eq : framer.line = if framer.discarding then [] else unfinished stream
  events_eq : taken ++ framer.events.map eventOf = framingEvents limit stream

theorem fresh_follows (limit : Nat) : (fresh limit).Follows limit [] [] where
  limit_eq := rfl
  discarding_eq := by simp [fresh]
  line_eq := rfl
  events_eq := rfl

namespace Follows

variable {framer : NewlineFramer} {limit : Nat} {taken : List FramingEvent} {stream : Bytes}

/-- **One byte keeps the framer in step with the line protocol.** -/
theorem feedByte (h : framer.Follows limit taken stream) (byte : UInt8) :
    (framer.feedByte byte).Follows limit taken (stream ++ [byte]) := by
  obtain ⟨sameLimit, mode, held, queued⟩ := h
  subst sameLimit
  by_cases ended : byte = lineFeed
  · subst ended
    cases discarding : framer.discarding with
    | true =>
        rw [discarding, eq_comm, decide_eq_true_iff] at mode
        simp only [discarding, if_true] at held
        have result : framer.feedByte lineFeed =
            { framer with
              discarding := false
              events := framer.events ++ [.error (incomingLineTooLong framer.maxLineLength)] } := by
          simp [NewlineFramer.feedByte, discarding]
        rw [result]
        refine ⟨rfl, by rw [unfinished_concat_lineFeed]; rfl,
          by rw [unfinished_concat_lineFeed]; exact held, ?_⟩
        rw [framingEvents_concat_lineFeed, ← queued, frameSegment, if_neg (Nat.not_le.mpr mode)]
        simp [eventOf]
    | false =>
        rw [discarding, eq_comm, decide_eq_false_iff_not, Nat.not_lt] at mode
        simp only [discarding, Bool.false_eq_true, if_false] at held
        have result : framer.feedByte lineFeed =
            { framer with
              events := framer.events ++ [.ok (withoutTrailingReturn framer.line)]
              line := [] } := by
          simp [NewlineFramer.feedByte, discarding]
        rw [result]
        refine ⟨rfl, by rw [unfinished_concat_lineFeed]; exact discarding,
          by rw [unfinished_concat_lineFeed, ite_self], ?_⟩
        rw [framingEvents_concat_lineFeed, ← queued, frameSegment, if_pos mode, ← held]
        simp [eventOf]
  · have grown := unfinished_concat stream ended
    have longer : (unfinished (stream ++ [byte])).length = (unfinished stream).length + 1 := by
      rw [grown, List.length_append, List.length_singleton]
    have sameEvents := framingEvents_concat framer.maxLineLength stream ended
    cases discarding : framer.discarding with
    | true =>
        rw [discarding, eq_comm, decide_eq_true_iff] at mode
        have result : framer.feedByte byte = framer := by
          simp [NewlineFramer.feedByte, discarding, ended]
        rw [result]
        refine ⟨rfl, ?_, by simpa [discarding] using held, queued.trans sameEvents.symm⟩
        rw [discarding, longer, eq_comm, decide_eq_true_iff]
        omega
    | false =>
        rw [discarding, eq_comm, decide_eq_false_iff_not, Nat.not_lt] at mode
        simp only [discarding, Bool.false_eq_true, if_false] at held
        by_cases full : framer.line.length = framer.maxLineLength
        · have result : framer.feedByte byte = { framer with line := [], discarding := true } := by
            simp [NewlineFramer.feedByte, discarding, ended, full]
          rw [result]
          refine ⟨rfl, ?_, rfl, queued.trans sameEvents.symm⟩
          rw [longer, ← held, full]
          exact (decide_eq_true (Nat.lt_succ_self _)).symm
        · have result : framer.feedByte byte = { framer with line := framer.line ++ [byte] } := by
            simp [NewlineFramer.feedByte, discarding, ended, full]
          rw [result]
          refine ⟨rfl, ?_, ?_, queued.trans sameEvents.symm⟩
          · show framer.discarding = _
            rw [discarding, longer, eq_comm, decide_eq_false_iff_not]
            rw [← held] at mode ⊢
            omega
          · show framer.line ++ [byte] = if framer.discarding then [] else _
            rw [discarding, grown, held]
            rfl

theorem feed (h : framer.Follows limit taken stream) (data : Bytes) :
    (framer.feed data).Follows limit taken (stream ++ data) := by
  induction data using List.reverseRecOn with
  | nil => simpa [NewlineFramer.feed] using h
  | append_singleton data byte ih =>
      have last : framer.feed (data ++ [byte]) = (framer.feed data).feedByte byte := by
        simp [NewlineFramer.feed]
      rw [last, ← List.append_assoc]
      exact ih.feedByte byte

/-- Taking a result moves it from the queue to the reported events. -/
theorem popLine (h : framer.Follows limit taken stream) :
    framer.popLine.1.Follows limit (taken ++ (reported framer.popLine.2).toList) stream := by
  obtain ⟨sameLimit, mode, held, queued⟩ := h
  unfold NewlineFramer.popLine
  split
  · next empty => exact ⟨sameLimit, mode, held, by simpa [reported, empty] using queued⟩
  · next line events waiting =>
      exact ⟨sameLimit, mode, held, by simpa [reported, waiting, eventOf] using queued⟩
  · next error events waiting =>
      exact ⟨sameLimit, mode, held, by simpa [reported, waiting, eventOf] using queued⟩

/-- **Whatever calls are made, the events reported and the events waiting are
those of the stream that was fed.** -/
theorem runFramerCalls (limit : Nat) (calls : List FramerCall) :
    (runFramerCalls limit calls).1.Follows limit (runFramerCalls limit calls).2
      (fedBytes calls) := by
  induction calls using List.reverseRecOn with
  | nil => exact fresh_follows limit
  | append_singleton calls call ih =>
      have last : BoardTester.runFramerCalls limit (calls ++ [call]) =
          framerCall (BoardTester.runFramerCalls limit calls) call := by
        simp [BoardTester.runFramerCalls]
      rw [last, fedBytes_append]
      cases call with
      | feed chunk => simpa [framerCall, fedBytes] using ih.feed chunk
      | popLine => simpa [framerCall, fedBytes] using ih.popLine

end Follows

end NewlineFramer

/-- The text `encode_line` raises for an oversized payload. -/
def outgoingLineTooLong (limit : Nat) : FramingError :=
  .lineTooLongError ("outgoing line exceeds " ++ toString limit ++ " bytes")

/-- `encode_line` -/
def encodeLine (payload : Bytes) (limit : Nat) : Except FramingError Bytes :=
  if limit < payload.length then .error (outgoingLineTooLong limit)
  else if lineFeed ∈ payload ∨ carriageReturn ∈ payload then
    .error (.framingError "outgoing payload must not contain CR or LF bytes")
  else .ok (payload ++ [lineFeed])

end FlightComputer.BoardTester
