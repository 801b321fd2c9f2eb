import FlightComputer.LineFraming

/-!
# The firmware's newline framer

`newline_framer_t` collects the bytes of the current line and hands every
completed line to a callback. A line that outgrows the buffer is discarded
through its line feed and counted.

Fed from reset, the framer delivers exactly the lines the line protocol delivers
(`newlineFramerConsume_initialize`): its buffer is the unfinished segment while
that fits, and it is discarding exactly while the unfinished segment does not
fit (`NewlineFramer.Follows`).
-/

set_option autoImplicit false

namespace FlightComputer.Firmware

open Library

/-- `NEWLINE_FRAMER_MAX_LINE_LENGTH` -/
def newlineFramerMaxLineLength : Nat := 4096

/-- `newline_framer_t`: the first `length` bytes of the line buffer, the count
of discarded lines, and whether the current line is being discarded. -/
structure NewlineFramer where
  line : Bytes
  overflowCount : UInt32
  discarding : Bool
  length_le : line.length ≤ newlineFramerMaxLineLength

/-- `newline_framer_initialize` -/
def newlineFramerInitialize : NewlineFramer where
  line := []
  overflowCount := 0
  discarding := false
  length_le := Nat.zero_le _

/-- `newline_framer_discard_current_line` -/
def newlineFramerDiscardCurrentLine (framer : NewlineFramer) : NewlineFramer where
  line := []
  overflowCount := framer.overflowCount + 1
  discarding := true
  length_le := Nat.zero_le _

section Consume

variable {κ : Type} (lineCallback : Bytes → κ → κ)

/-- The body of the loop of `newline_framer_consume`, for one byte. -/
def newlineFramerConsumeByte (state : NewlineFramer × κ) (byte : UInt8) : NewlineFramer × κ :=
  let framer := state.1
  let callbackContext := state.2
  if framer.discarding then
    if byte = lineFeed then ({ framer with discarding := false }, callbackContext)
    else (framer, callbackContext)
  else if byte = lineFeed then
    ({ framer with line := [], length_le := Nat.zero_le _ },
      lineCallback (withoutTrailingReturn framer.line) callbackContext)
  else if full : framer.line.length = newlineFramerMaxLineLength then
    (newlineFramerDiscardCurrentLine framer, callbackContext)
  else
    ({ framer with
        line := framer.line ++ [byte]
        length_le := by
          have := framer.length_le
          simp only [List.length_append, List.length_singleton]
          omega },
      callbackContext)

/-- `newline_framer_consume` -/
def newlineFramerConsume (framer : NewlineFramer) (data : Bytes) (callbackContext : κ) :
    NewlineFramer × κ :=
  data.foldl (newlineFramerConsumeByte lineCallback) (framer, callbackContext)

end Consume

/-- The callback of the framer's own tests: it appends the line to a list. -/
def captureLine (line : Bytes) (captured : List Bytes) : List Bytes := captured ++ [line]

/-- The lines the framer hands to its callback for one byte. -/
def completedBy (framer : NewlineFramer) (byte : UInt8) : List Bytes :=
  if framer.discarding then []
  else if byte = lineFeed then [withoutTrailingReturn framer.line] else []

/-- The framer after one byte; no callback can influence it. -/
def framerAfter (framer : NewlineFramer) (byte : UInt8) : NewlineFramer :=
  (newlineFramerConsumeByte (fun _ (_ : Unit) => ()) (framer, ()) byte).1

section OneByte

variable {κ : Type} (lineCallback : Bytes → κ → κ) (framer : NewlineFramer) (context : κ)
  {byte : UInt8}

/-- One byte changes the framer independently of the callback, and calls the
callback on the line it completes. -/
theorem newlineFramerConsumeByte_eq (byte : UInt8) :
    newlineFramerConsumeByte lineCallback (framer, context) byte =
      (framerAfter framer byte,
        (completedBy framer byte).foldl (fun context line => lineCallback line context)
          context) := by
  unfold framerAfter newlineFramerConsumeByte completedBy
  dsimp only
  split_ifs <;> rfl

theorem framerAfter_discarding (discarding : framer.discarding = true) (byte : UInt8) :
    (framerAfter framer byte).line = framer.line ∧
      (framerAfter framer byte).overflowCount = framer.overflowCount ∧
      (framerAfter framer byte).discarding = decide (byte ≠ lineFeed) := by
  unfold framerAfter newlineFramerConsumeByte
  by_cases ended : byte = lineFeed <;> simp [discarding, ended]

theorem framerAfter_lineFeed (framing : framer.discarding = false) :
    (framerAfter framer lineFeed).line = [] ∧
      (framerAfter framer lineFeed).overflowCount = framer.overflowCount ∧
      (framerAfter framer lineFeed).discarding = false := by
  unfold framerAfter newlineFramerConsumeByte
  simp [framing]

theorem framerAfter_full (framing : framer.discarding = false) (other : byte ≠ lineFeed)
    (full : framer.line.length = newlineFramerMaxLineLength) :
    framerAfter framer byte = newlineFramerDiscardCurrentLine framer := by
  unfold framerAfter newlineFramerConsumeByte
  simp [framing, other, full]

theorem framerAfter_append (framing : framer.discarding = false) (other : byte ≠ lineFeed)
    (room : framer.line.length ≠ newlineFramerMaxLineLength) :
    (framerAfter framer byte).line = framer.line ++ [byte] ∧
      (framerAfter framer byte).overflowCount = framer.overflowCount ∧
      (framerAfter framer byte).discarding = false := by
  unfold framerAfter newlineFramerConsumeByte
  simp [framing, other, room]

end OneByte

/-- The framer is where the line protocol is after a stream: the unfinished
segment is in its buffer, or too long and being discarded. -/
structure NewlineFramer.Follows (framer : NewlineFramer) (stream : Bytes) : Prop where
  discarding_eq :
    framer.discarding = decide (newlineFramerMaxLineLength < (unfinished stream).length)
  line_eq : framer.line = if framer.discarding then [] else unfinished stream
  overflowCount_eq :
    framer.overflowCount =
      UInt32.ofNat (oversizedCount newlineFramerMaxLineLength stream +
        if framer.discarding then 1 else 0)

theorem newlineFramerInitialize_follows : newlineFramerInitialize.Follows [] where
  discarding_eq := rfl
  line_eq := rfl
  overflowCount_eq := rfl

namespace NewlineFramer.Follows

variable {framer : NewlineFramer} {stream : Bytes}

theorem fits_iff (h : framer.Follows stream) :
    framer.discarding = false ↔ (unfinished stream).length ≤ newlineFramerMaxLineLength := by
  rw [h.discarding_eq, decide_eq_false_iff_not, Nat.not_lt]

theorem long_iff (h : framer.Follows stream) :
    framer.discarding = true ↔ newlineFramerMaxLineLength < (unfinished stream).length := by
  rw [h.discarding_eq, decide_eq_true_iff]

/-- **One byte keeps the framer in step with the line protocol.** -/
theorem framerAfter (h : framer.Follows stream) (byte : UInt8) :
    (Firmware.framerAfter framer byte).Follows (stream ++ [byte]) := by
  by_cases ended : byte = lineFeed
  · subst ended
    cases discarding : framer.discarding with
    | true =>
        obtain ⟨line, count, mode⟩ := framerAfter_discarding framer discarding lineFeed
        have long := h.long_iff.mp discarding
        have counted := h.overflowCount_eq
        have emptied := h.line_eq
        simp only [discarding, if_true] at counted emptied
        refine ⟨by rw [mode, unfinished_concat_lineFeed]; rfl, ?_, ?_⟩
        · rw [line, emptied, unfinished_concat_lineFeed, ite_self]
        · rw [count, counted, mode, oversizedCount_concat_lineFeed, if_pos long]
          rfl
    | false =>
        obtain ⟨line, count, mode⟩ := framerAfter_lineFeed framer discarding
        have fits := h.fits_iff.mp discarding
        have counted := h.overflowCount_eq
        simp only [discarding] at counted
        refine ⟨by rw [mode, unfinished_concat_lineFeed]; rfl, ?_, ?_⟩
        · rw [line, unfinished_concat_lineFeed, ite_self]
        · rw [count, counted, mode, oversizedCount_concat_lineFeed, if_neg (Nat.not_lt.mpr fits)]
          rfl
  · have grown := unfinished_concat stream ended
    have sameCount := oversizedCount_concat newlineFramerMaxLineLength stream ended
    cases discarding : framer.discarding with
    | true =>
        obtain ⟨line, count, mode⟩ := framerAfter_discarding framer discarding byte
        have long := h.long_iff.mp discarding
        have counted := h.overflowCount_eq
        have emptied := h.line_eq
        simp only [discarding, if_true] at counted emptied
        have still : (Firmware.framerAfter framer byte).discarding = true := by
          simpa [ended] using mode
        refine ⟨?_, by rw [line, emptied, still]; rfl, by rw [count, counted, still, sameCount]; rfl⟩
        rw [still, grown, List.length_append, List.length_singleton, eq_comm, decide_eq_true_iff]
        omega
    | false =>
        have fits := h.fits_iff.mp discarding
        have counted := h.overflowCount_eq
        have held := h.line_eq
        simp only [discarding] at counted held
        simp only [Bool.false_eq_true, if_false, Nat.add_zero] at counted held
        by_cases full : framer.line.length = newlineFramerMaxLineLength
        · rw [framerAfter_full framer discarding ended full]
          refine ⟨?_, rfl, ?_⟩
          · rw [grown, List.length_append, List.length_singleton, ← held, full]
            exact (decide_eq_true (Nat.lt_succ_self _)).symm
          · show framer.overflowCount + 1 = _
            rw [counted, sameCount]
            exact (UInt32.ofNat_add _ 1).symm
        · obtain ⟨line, count, mode⟩ := framerAfter_append framer discarding ended full
          refine ⟨?_, by rw [line, held, mode, grown]; rfl, by rw [count, counted, mode, sameCount]; rfl⟩
          rw [mode, grown, List.length_append, List.length_singleton, eq_comm,
            decide_eq_false_iff_not]
          rw [← held] at fits ⊢
          omega

/-- The lines completed by one byte are the ones the line protocol delivers. -/
theorem framedLines_concat (h : framer.Follows stream) (byte : UInt8) :
    framedLines newlineFramerMaxLineLength (stream ++ [byte]) =
      framedLines newlineFramerMaxLineLength stream ++ completedBy framer byte := by
  by_cases ended : byte = lineFeed
  · subst ended
    rw [framedLines_concat_lineFeed]
    congr 1
    cases discarding : framer.discarding with
    | true =>
        have long := h.long_iff.mp discarding
        simp [completedBy, discarding, frameSegment, Nat.not_le.mpr long, FramingEvent.delivered]
    | false =>
        have fits := h.fits_iff.mp discarding
        have held := h.line_eq
        simp only [discarding, Bool.false_eq_true, if_false] at held
        simp [completedBy, discarding, frameSegment, fits, FramingEvent.delivered, held]
  · rw [FlightComputer.framedLines_concat _ _ ended]
    simp [completedBy, ended]

end NewlineFramer.Follows

/-- Consuming a stream from a framer in step with the line protocol keeps it in
step and calls the callback on exactly the lines the protocol adds. -/
theorem newlineFramerConsume_follows {κ : Type} (lineCallback : Bytes → κ → κ)
    {framer : NewlineFramer} {stream : Bytes} (h : framer.Follows stream) (data : Bytes)
    (context : κ) :
    (newlineFramerConsume lineCallback framer data context).1.Follows (stream ++ data) ∧
      ∃ added, framedLines newlineFramerMaxLineLength (stream ++ data) =
          framedLines newlineFramerMaxLineLength stream ++ added ∧
        (newlineFramerConsume lineCallback framer data context).2 =
          added.foldl (fun context line => lineCallback line context) context := by
  induction data using List.reverseRecOn with
  | nil => exact ⟨by simpa [newlineFramerConsume] using h, [], by simp, rfl⟩
  | append_singleton data byte ih =>
      obtain ⟨follows, added, lines, called⟩ := ih
      have last : newlineFramerConsume lineCallback framer (data ++ [byte]) context =
          newlineFramerConsumeByte lineCallback
            (newlineFramerConsume lineCallback framer data context) byte := by
        simp [newlineFramerConsume]
      rw [last, newlineFramerConsumeByte_eq, ← List.append_assoc]
      refine ⟨follows.framerAfter byte,
        added ++ completedBy (newlineFramerConsume lineCallback framer data context).1 byte, ?_, ?_⟩
      · rw [follows.framedLines_concat byte, lines, List.append_assoc]
      · rw [called, List.foldl_append]

/-- Bytes that fit and end no line join the line buffer. -/
theorem newlineFramerConsume_joins {κ : Type} (lineCallback : Bytes → κ → κ)
    (framer : NewlineFramer) (framing : framer.discarding = false) (context : κ) (data : Bytes)
    (noFeed : lineFeed ∉ data)
    (fits : framer.line.length + data.length ≤ newlineFramerMaxLineLength) :
    (newlineFramerConsume lineCallback framer data context).2 = context ∧
      (newlineFramerConsume lineCallback framer data context).1.line = framer.line ++ data ∧
      (newlineFramerConsume lineCallback framer data context).1.discarding = false := by
  induction data generalizing framer with
  | nil => exact ⟨rfl, (List.append_nil _).symm, framing⟩
  | cons byte data ih =>
      have other : byte ≠ lineFeed := fun same => noFeed (same ▸ List.mem_cons_self)
      have room : framer.line.length ≠ newlineFramerMaxLineLength := by
        rw [List.length_cons] at fits
        omega
      obtain ⟨line, _, mode⟩ := framerAfter_append framer framing other room
      have first : newlineFramerConsumeByte lineCallback (framer, context) byte =
          (framerAfter framer byte, context) := by
        rw [newlineFramerConsumeByte_eq]
        simp [completedBy, other]
      rw [newlineFramerConsume, List.foldl_cons, first]
      obtain ⟨same, joined, mode'⟩ := ih _ mode (fun member => noFeed (List.mem_cons_of_mem _ member))
        (by rw [line, List.length_append, List.length_singleton]; rw [List.length_cons] at fits; omega)
      exact ⟨same, by rw [← newlineFramerConsume, joined, line, List.append_assoc]; rfl, mode'⟩

/-- Capturing a list of lines appends it. -/
theorem foldl_captureLine (lines captured : List Bytes) :
    lines.foldl (fun captured line => captureLine line captured) captured = captured ++ lines := by
  induction lines generalizing captured with
  | nil => simp
  | cons line lines ih =>
      rw [List.foldl_cons, ih, captureLine, List.append_assoc]
      rfl

/-- **Fed from reset, the framer delivers the lines of the stream.** -/
theorem newlineFramerConsume_initialize (stream : Bytes) :
    (newlineFramerConsume captureLine newlineFramerInitialize stream []).1.Follows stream ∧
      (newlineFramerConsume captureLine newlineFramerInitialize stream []).2 =
        framedLines newlineFramerMaxLineLength stream := by
  obtain ⟨follows, added, lines, called⟩ :=
    newlineFramerConsume_follows captureLine newlineFramerInitialize_follows stream []
  refine ⟨by simpa using follows, ?_⟩
  rw [called, foldl_captureLine]
  simpa using lines.symm

/-- Cutting the stream into chunks does not change what the framer does. -/
theorem foldl_newlineFramerConsume {κ : Type} (lineCallback : Bytes → κ → κ)
    (framer : NewlineFramer) (context : κ) (chunks : List Bytes) :
    chunks.foldl (fun state chunk => newlineFramerConsume lineCallback state.1 chunk state.2)
        (framer, context) =
      newlineFramerConsume lineCallback framer chunks.flatten context := by
  induction chunks using List.reverseRecOn with
  | nil => rfl
  | append_singleton chunks chunk ih =>
      rw [List.foldl_append, ih, List.flatten_append]
      simp [newlineFramerConsume]

end FlightComputer.Firmware
