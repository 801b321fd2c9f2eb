import FlightComputer.Firmware.UsbCdcTransport
import FlightComputer.Library.Runs

/-!
# The receive path under interrupts

The steps of the receive path, at the granularity at which they interleave: the
interrupt `cdc_receive` may come at any moment, also between a pop and the
framing of the popped byte, while the main loop pops, frames, reads completed
lines and serves the transmit side. Beside the transport the system records what
can be observed: every byte the host sent and whether the ring had room for it,
the bytes framed, the lines handed to `completed_line` and whether the line
queue then held two lines, and the lines read.

In every run the ring and the line queue are FIFO (`ReceiveSystem.Fifo.of_run`).
A call of `process_received_bytes` that no interrupt enters is a run of these
steps; it empties the ring and frames its bytes as one chunk
(`ReceiveSystem.processReceivedBytes_run`).
-/

set_option autoImplicit false

namespace FlightComputer.Firmware

open Library

/-- A byte of the host's stream, and whether it entered the raw ring. -/
abbrev HostByte : Type := UInt8 × Bool

/-- A line handed to `completed_line`, and whether the queue then held two. -/
abbrev Completion : Type := Bytes × Bool

/-- The transport, the position of the main loop in the loop body of
`process_received_bytes`, and what has been observed. -/
structure ReceiveSystem where
  transport : UsbCdcTransport
  popped : Option (UInt8 × Bool)
  history : List HostByte
  framed : Bytes
  completions : List Completion
  returned : List Bytes

/-- The system after a reset. -/
def ReceiveSystem.initial : ReceiveSystem where
  transport := resetTransportState
  popped := none
  history := []
  framed := []
  completions := []
  returned := []

/-- What happens next: an interrupt with a packet, a pop, the framing of the
popped byte, a call of `usb_cdc_transport_read_line`, or the transmit part of
`usb_cdc_transport_process`. -/
inductive ReceiveEvent where
  | packet (bytes : Bytes)
  | pop
  | frame
  | readLine (capacity : Nat)
  | transmit (usb : UsbdAnswers)
  deriving DecidableEq

namespace ReceiveSystem

/-- One byte of a packet arrives. -/
def receiveByte (s : ReceiveSystem) (byte : UInt8) : ReceiveSystem :=
  { s with
    transport := cdcReceiveByte s.transport byte
    history := s.history ++ [(byte, rawReceiveHasRoom s.transport)] }

/-- A packet arrives. -/
def receive (s : ReceiveSystem) (packet : Bytes) : ReceiveSystem := packet.foldl receiveByte s

/-- The lines that framing a byte completes, and what the queue held then. -/
def completionsOf (byte : UInt8) (overflowed : Bool) (transport : UsbCdcTransport) :
    List Completion :=
  (completedBy (discardIfOverflowed overflowed transport).receiveFramer byte).map fun line =>
    (line, decide (transport.receivedLines.count = usbCdcLineQueueDepth))

/-- The popped byte is framed. -/
def frame (s : ReceiveSystem) (byte : UInt8) (overflowed : Bool) : ReceiveSystem :=
  { s with
    transport := frameReceivedByte byte overflowed s.transport
    popped := none
    framed := s.framed ++ [byte]
    completions := s.completions ++ completionsOf byte overflowed s.transport }

/-- The session layer reads a line. -/
def readLine (s : ReceiveSystem) (capacity : Nat) : ReceiveSystem :=
  { s with
    transport := (usbCdcTransportReadLine capacity s.transport).1
    returned := s.returned ++
      match (usbCdcTransportReadLine capacity s.transport).2 with
      | .available line => [line]
      | .unavailable | .bufferTooSmall => [] }

/-- The transmit part of `usb_cdc_transport_process`. -/
def transmit (s : ReceiveSystem) (usb : UsbdAnswers) : ReceiveSystem :=
  { s with
    transport := (startPendingTransmission usb (finishCompletedTransmission s.transport)).1 }

end ReceiveSystem

/-- The steps of the receive path. Only the interrupt can come between a pop and
the framing of the popped byte. -/
inductive ReceiveStep : ReceiveSystem → ReceiveEvent → ReceiveSystem → Prop where
  | packet (s : ReceiveSystem) (bytes : Bytes) : ReceiveStep s (.packet bytes) (s.receive bytes)
  | pop {s : ReceiveSystem} {popped : UsbCdcTransport} {byte : UInt8} {overflowed : Bool}
      (idle : s.popped = none)
      (taken : popReceivedByte s.transport = (popped, some byte, overflowed)) :
      ReceiveStep s .pop { s with transport := popped, popped := some (byte, overflowed) }
  | popEmpty {s : ReceiveSystem} {popped : UsbCdcTransport} {overflowed : Bool}
      (idle : s.popped = none)
      (taken : popReceivedByte s.transport = (popped, none, overflowed)) :
      ReceiveStep s .pop { s with transport := discardIfOverflowed overflowed popped }
  | frame {s : ReceiveSystem} {byte : UInt8} {overflowed : Bool}
      (taken : s.popped = some (byte, overflowed)) :
      ReceiveStep s .frame (s.frame byte overflowed)
  | readLine {s : ReceiveSystem} (idle : s.popped = none) (capacity : Nat) :
      ReceiveStep s (.readLine capacity) (s.readLine capacity)
  | transmit {s : ReceiveSystem} (idle : s.popped = none) (usb : UsbdAnswers) :
      ReceiveStep s (.transmit usb) (s.transmit usb)

/-! ## What the operations of the main loop change -/

/-- `completed_line` touches the line queue and its statistics only. -/
theorem completedLine_eq (line : Bytes) (transport : UsbCdcTransport) :
    completedLine line transport =
      { transport with
        receivedLines :=
          if transport.receivedLines.count = usbCdcLineQueueDepth then transport.receivedLines
          else transport.receivedLines.push line
        completedLinesDropped :=
          if transport.receivedLines.count = usbCdcLineQueueDepth then
            transport.completedLinesDropped + 1
          else transport.completedLinesDropped } := by
  unfold completedLine
  split_ifs <;> rfl

/-- Framing a byte hands the lines it completes to `completed_line`. -/
theorem frameReceivedByte_eq (byte : UInt8) (overflowed : Bool) (transport : UsbCdcTransport) :
    frameReceivedByte byte overflowed transport =
      { (completedBy (discardIfOverflowed overflowed transport).receiveFramer byte).foldl
          (fun transport line => completedLine line transport)
          (discardIfOverflowed overflowed transport) with
        receiveFramer :=
          framerAfter (discardIfOverflowed overflowed transport).receiveFramer byte } := by
  unfold frameReceivedByte newlineFramerConsume
  simp only [List.foldl_cons, List.foldl_nil, newlineFramerConsumeByte_eq]

/-- A byte completes at most one line. -/
theorem completedBy_cases (framer : NewlineFramer) (byte : UInt8) :
    completedBy framer byte = [] ∨
      completedBy framer byte = [withoutTrailingReturn framer.line] := by
  unfold completedBy
  split_ifs
  · exact .inl rfl
  · exact .inr rfl
  · exact .inl rfl

theorem discardIfOverflowed_receivedLines (overflowed : Bool) (transport : UsbCdcTransport) :
    (discardIfOverflowed overflowed transport).receivedLines = transport.receivedLines := by
  unfold discardIfOverflowed
  split_ifs <;> rfl

theorem discardIfOverflowed_receiveFramer (overflowed : Bool) (transport : UsbCdcTransport) :
    (discardIfOverflowed overflowed transport).receiveFramer =
      if overflowed then newlineFramerDiscardCurrentLine transport.receiveFramer
      else transport.receiveFramer := by
  unfold discardIfOverflowed
  split_ifs <;> rfl

/-- Everything but the framer, the line queue and its statistics is unchanged. -/
structure SameExceptLines (before after : UsbCdcTransport) : Prop where
  rawReceiveBuffer : after.rawReceiveBuffer = before.rawReceiveBuffer
  rawReceiveHead : after.rawReceiveHead = before.rawReceiveHead
  rawReceiveTail : after.rawReceiveTail = before.rawReceiveTail
  receiveOverflowPending : after.receiveOverflowPending = before.receiveOverflowPending
  transmitLines : after.transmitLines = before.transmitLines
  transmitActive : after.transmitActive = before.transmitActive
  transmitCompleted : after.transmitCompleted = before.transmitCompleted
  transmittedLinesDropped : after.transmittedLinesDropped = before.transmittedLinesDropped

namespace SameExceptLines

variable {before after : UsbCdcTransport}

theorem buffered (h : SameExceptLines before after) : after.buffered = before.buffered := by
  simp only [UsbCdcTransport.buffered, UsbCdcTransport.rawReceive, rawReceiveCount,
    h.rawReceiveBuffer, h.rawReceiveHead, h.rawReceiveTail]

theorem rawIndices (h : SameExceptLines before after) (indices : before.RawIndices) :
    after.RawIndices :=
  ⟨h.rawReceiveHead ▸ indices.head_lt, h.rawReceiveTail ▸ indices.tail_lt⟩

end SameExceptLines

theorem discardIfOverflowed_same (overflowed : Bool) (transport : UsbCdcTransport) :
    SameExceptLines transport (discardIfOverflowed overflowed transport) := by
  unfold discardIfOverflowed
  split_ifs <;> exact ⟨rfl, rfl, rfl, rfl, rfl, rfl, rfl, rfl⟩

theorem frameReceivedByte_same (byte : UInt8) (overflowed : Bool) (transport : UsbCdcTransport) :
    SameExceptLines transport (frameReceivedByte byte overflowed transport) := by
  have marked := discardIfOverflowed_same overflowed transport
  rw [frameReceivedByte_eq]
  rcases completedBy_cases (discardIfOverflowed overflowed transport).receiveFramer byte
    with none | one
  · rw [none]
    exact ⟨marked.1, marked.2, marked.3, marked.4, marked.5, marked.6, marked.7, marked.8⟩
  · rw [one, List.foldl_cons, List.foldl_nil, completedLine_eq]
    exact ⟨marked.1, marked.2, marked.3, marked.4, marked.5, marked.6, marked.7, marked.8⟩

@[simp] theorem frameReceivedByte_receiveFramer (byte : UInt8) (overflowed : Bool)
    (transport : UsbCdcTransport) :
    (frameReceivedByte byte overflowed transport).receiveFramer =
      framerAfter (discardIfOverflowed overflowed transport).receiveFramer byte := by
  rw [frameReceivedByte_eq]

/-- The line queue and its statistics agree with the completions: those that
found the queue full were counted, modulo 2^32, and dropped. -/
structure LineQueue (transport : UsbCdcTransport) (completions : List Completion)
    (returned : List Bytes) : Prop where
  consistent : transport.receivedLines.Consistent
  lines_eq : returned ++ transport.receivedLines.contents =
    (completions.filter fun completion => !completion.2).map Prod.fst
  dropped_eq : transport.completedLinesDropped =
    UInt32.ofNat (completions.countP fun completion => completion.2)

namespace LineQueue

variable {transport : UsbCdcTransport} {completions : List Completion} {returned : List Bytes}

theorem reset : LineQueue resetTransportState [] [] where
  consistent := CircularBuffer.consistent_empty (by decide) _
  lines_eq := rfl
  dropped_eq := rfl

/-- The queue depends on the two fields it is about. -/
theorem congr (h : LineQueue transport completions returned) {after : UsbCdcTransport}
    (lines : after.receivedLines = transport.receivedLines)
    (dropped : after.completedLinesDropped = transport.completedLinesDropped) :
    LineQueue after completions returned :=
  ⟨lines ▸ h.consistent, lines ▸ h.lines_eq, dropped ▸ h.dropped_eq⟩

/-- A completed line is queued, or dropped and counted when two lines wait. -/
theorem completedLine (h : LineQueue transport completions returned) (line : Bytes) :
    LineQueue (completedLine line transport)
      (completions ++ [(line, decide (transport.receivedLines.count = usbCdcLineQueueDepth))])
      returned := by
  rw [completedLine_eq]
  by_cases full : transport.receivedLines.count = usbCdcLineQueueDepth
  · refine ⟨by simpa [full] using h.consistent, by simpa [full] using h.lines_eq, ?_⟩
    have counted := h.dropped_eq
    simp only [full, if_true, decide_true, List.countP_append, List.countP_singleton]
    rw [counted]
    exact (UInt32.ofNat_add _ 1).symm
  · have room : transport.receivedLines.count < usbCdcLineQueueDepth :=
      Nat.lt_of_le_of_ne h.consistent.count_le full
    refine ⟨?_, ?_, by simpa [full] using h.dropped_eq⟩
    · simpa only [if_neg full] using h.consistent.push room line
    · simp only [if_neg full]
      rw [h.consistent.contents_push room, ← List.append_assoc, h.lines_eq]
      simp [full]

/-- Framing a byte extends the completions by the lines it completes. -/
theorem frame (h : LineQueue transport completions returned) (byte : UInt8)
    (overflowed : Bool) :
    LineQueue (frameReceivedByte byte overflowed transport)
      (completions ++ ReceiveSystem.completionsOf byte overflowed transport) returned := by
  have same := discardIfOverflowed_receivedLines overflowed transport
  have marked : LineQueue (discardIfOverflowed overflowed transport) completions returned :=
    h.congr same (by unfold discardIfOverflowed; split_ifs <;> rfl)
  rw [frameReceivedByte_eq, ReceiveSystem.completionsOf]
  rcases completedBy_cases (discardIfOverflowed overflowed transport).receiveFramer byte
    with none | one
  · rw [none, List.map_nil, List.append_nil]
    exact marked.congr rfl rfl
  · rw [one]
    have added := marked.completedLine
      (withoutTrailingReturn (discardIfOverflowed overflowed transport).receiveFramer.line)
    rw [same] at added
    exact added.congr rfl rfl

/-- Reading a line moves it from the queue to the lines returned. -/
theorem readLine (h : LineQueue transport completions returned) (capacity : Nat) :
    LineQueue (usbCdcTransportReadLine capacity transport).1 completions
      (returned ++ match (usbCdcTransportReadLine capacity transport).2 with
        | .available line => [line]
        | .unavailable | .bufferTooSmall => []) := by
  unfold usbCdcTransportReadLine
  by_cases empty : transport.receivedLines.count = 0
  · simpa [empty] using h
  by_cases small : capacity ≤ transport.receivedLines.front.length
  · simpa [empty, small] using h
  · simp only [empty, if_false, small]
    refine ⟨h.consistent.pop (Nat.pos_of_ne_zero empty), ?_, h.dropped_eq⟩
    rw [List.append_assoc, ← h.lines_eq]
    exact congrArg (returned ++ ·)
      (h.consistent.contents_eq_cons (Nat.pos_of_ne_zero empty)).symm

end LineQueue

/-! ## Invariants of every run -/

/-- The bytes of a history that entered the ring. -/
def acceptedBytes (history : List HostByte) : Bytes :=
  (history.filter fun entry => entry.2).map Prod.fst

theorem acceptedBytes_append (first second : List HostByte) :
    acceptedBytes (first ++ second) = acceptedBytes first ++ acceptedBytes second := by
  simp [acceptedBytes]

namespace ReceiveSystem

/-- The ring and the line queue are FIFO: the accepted bytes are those framed,
the one popped and those buffered, and the line queue holds the completions
that found room and were not read yet. -/
structure Fifo (s : ReceiveSystem) : Prop where
  indices : s.transport.RawIndices
  bytes_eq : acceptedBytes s.history =
    s.framed ++ s.popped.toList.map Prod.fst ++ s.transport.buffered
  lines : LineQueue s.transport s.completions s.returned

theorem initial_fifo : initial.Fifo where
  indices := ⟨by decide, by decide⟩
  bytes_eq := rfl
  lines := .reset

theorem Fifo.receiveByte {s : ReceiveSystem} (h : s.Fifo) (byte : UInt8) :
    (s.receiveByte byte).Fifo := by
  obtain ⟨indices, bytes, lines⟩ := h
  cases room : rawReceiveHasRoom s.transport with
  | true =>
      obtain ⟨indices', buffered, _, same⟩ := cdcReceiveByte_room indices byte room
      refine ⟨indices', ?_, lines.congr same.receivedLines same.completedLinesDropped⟩
      simp only [ReceiveSystem.receiveByte, room, acceptedBytes_append, bytes, buffered]
      simp [acceptedBytes]
  | false =>
      obtain ⟨indices', buffered, _, same⟩ := cdcReceiveByte_full indices byte room
      refine ⟨indices', ?_, lines.congr same.receivedLines same.completedLinesDropped⟩
      simp only [ReceiveSystem.receiveByte, room, acceptedBytes_append, bytes, buffered]
      simp [acceptedBytes]

theorem Fifo.receive {s : ReceiveSystem} (h : s.Fifo) (packet : Bytes) :
    (s.receive packet).Fifo := by
  induction packet generalizing s with
  | nil => exact h
  | cons byte packet ih => exact ih (h.receiveByte byte)

/-- A packet for which the ring has room enters it whole. -/
theorem Fifo.receive_fits {s : ReceiveSystem} (h : s.Fifo) (packet : Bytes)
    (room : s.transport.buffered.length + packet.length ≤ usbCdcRawReceiveCapacity - 1) :
    (s.receive packet).transport.buffered = s.transport.buffered ++ packet ∧
      (s.receive packet).history = s.history ++ packet.map (fun byte => (byte, true)) ∧
      (s.receive packet).transport.receiveOverflowPending =
        s.transport.receiveOverflowPending ∧
      (s.receive packet).transport.receiveFramer = s.transport.receiveFramer ∧
      (s.receive packet).completions = s.completions ∧
      (s.receive packet).popped = s.popped := by
  induction packet generalizing s with
  | nil => simp [ReceiveSystem.receive]
  | cons byte packet ih =>
      rw [List.length_cons] at room
      have free : rawReceiveHasRoom s.transport = true := by
        rw [rawReceiveHasRoom, decide_eq_true_iff, Ne, ← h.indices.length_buffered_eq_iff]
        omega
      obtain ⟨_, buffered, flag, same⟩ := cdcReceiveByte_room h.indices byte free
      have next : (s.receiveByte byte).transport.buffered = s.transport.buffered ++ [byte] :=
        buffered
      obtain ⟨buffered', history', flag', framer', completions', popped'⟩ :=
        ih (h.receiveByte byte) (by rw [next, List.length_append, List.length_singleton]; omega)
      refine ⟨?_, ?_, flag'.trans flag, framer'.trans same.receiveFramer, completions', popped'⟩
      · rw [next, ← List.append_cons] at buffered'
        exact buffered'
      · rw [show (s.receiveByte byte).history = s.history ++ [(byte, true)] by
          rw [ReceiveSystem.receiveByte, free], ← List.append_cons] at history'
        exact history'

/-- The transmit part leaves the receive side alone. -/
theorem transmit_same (usb : UsbdAnswers) (transport : UsbCdcTransport) :
    let after := (startPendingTransmission usb (finishCompletedTransmission transport)).1
    after.rawReceiveBuffer = transport.rawReceiveBuffer ∧
      after.rawReceiveHead = transport.rawReceiveHead ∧
      after.rawReceiveTail = transport.rawReceiveTail ∧
      after.receiveOverflowPending = transport.receiveOverflowPending ∧
      after.receiveFramer = transport.receiveFramer ∧
      after.receivedLines = transport.receivedLines ∧
      after.completedLinesDropped = transport.completedLinesDropped := by
  unfold startPendingTransmission finishCompletedTransmission
  dsimp only
  split_ifs <;> exact ⟨rfl, rfl, rfl, rfl, rfl, rfl, rfl⟩

/-- **Every step keeps the buffers FIFO.** -/
theorem Fifo.step {s t : ReceiveSystem} {event : ReceiveEvent} (h : s.Fifo)
    (step : ReceiveStep s event t) : t.Fifo := by
  cases step with
  | packet bytes => exact h.receive bytes
  | @pop popped byte overflowed idle taken =>
      obtain ⟨indices, bytes, lines⟩ := h
      cases held : s.transport.buffered with
      | nil =>
          rw [popReceivedByte_empty indices held] at taken
          simp at taken
      | cons first others =>
          obtain ⟨popped', result, indices', buffered, _, same⟩ :=
            popReceivedByte_cons indices held
          rw [result] at taken
          simp only [Prod.mk.injEq, Option.some.injEq] at taken
          obtain ⟨rfl, rfl, -⟩ := taken
          refine ⟨indices', ?_, lines.congr same.receivedLines same.completedLinesDropped⟩
          simp only [bytes, idle, held, buffered]
          simp
  | @popEmpty popped overflowed idle taken =>
      obtain ⟨indices, bytes, lines⟩ := h
      have unchanged : popped = { s.transport with receiveOverflowPending := false } := by
        unfold popReceivedByte at taken
        dsimp only at taken
        split_ifs at taken
        · exact (Prod.mk.inj taken).1.symm
        · simp at taken
      have same := discardIfOverflowed_same overflowed popped
      have lines' : LineQueue (discardIfOverflowed overflowed popped) s.completions s.returned :=
        lines.congr (by rw [discardIfOverflowed_receivedLines, unchanged])
          (by unfold discardIfOverflowed; rw [unchanged]; split_ifs <;> rfl)
      refine ⟨same.rawIndices (unchanged ▸ ⟨indices.head_lt, indices.tail_lt⟩), ?_, lines'⟩
      rw [same.buffered, unchanged]
      exact bytes
  | @frame byte overflowed taken =>
      obtain ⟨indices, bytes, lines⟩ := h
      have same := frameReceivedByte_same byte overflowed s.transport
      refine ⟨same.rawIndices indices, ?_, lines.frame byte overflowed⟩
      simp only [ReceiveSystem.frame, same.buffered, bytes, taken]
      simp
  | readLine idle capacity =>
      obtain ⟨indices, bytes, lines⟩ := h
      have same : ∀ after, after = (usbCdcTransportReadLine capacity s.transport).1 →
          after.rawReceiveBuffer = s.transport.rawReceiveBuffer ∧
          after.rawReceiveHead = s.transport.rawReceiveHead ∧
          after.rawReceiveTail = s.transport.rawReceiveTail := by
        rintro _ rfl
        unfold usbCdcTransportReadLine
        dsimp only
        split_ifs <;> exact ⟨rfl, rfl, rfl⟩
      obtain ⟨buffer, head, tail⟩ := same _ rfl
      refine ⟨⟨head ▸ indices.head_lt, tail ▸ indices.tail_lt⟩, ?_, lines.readLine capacity⟩
      simp only [ReceiveSystem.readLine, UsbCdcTransport.buffered, UsbCdcTransport.rawReceive,
        rawReceiveCount, buffer, head, tail]
      exact bytes
  | transmit idle usb =>
      obtain ⟨indices, bytes, lines⟩ := h
      obtain ⟨buffer, head, tail, _, _, queue, dropped⟩ := transmit_same usb s.transport
      refine ⟨⟨head ▸ indices.head_lt, tail ▸ indices.tail_lt⟩, ?_, lines.congr queue dropped⟩
      simp only [ReceiveSystem.transmit, UsbCdcTransport.buffered, UsbCdcTransport.rawReceive,
        rawReceiveCount, buffer, head, tail]
      exact bytes

/-- **In every run the ring and the line queue are FIFO.** -/
theorem Fifo.of_run {s : ReceiveSystem} {events : List ReceiveEvent}
    (run : Run ReceiveStep initial events s) : s.Fifo :=
  run.invariant (fun _ _ _ h step => h.step step) initial_fifo

/-! ## Uninterrupted processing -/

/-- What an uninterrupted call of `process_received_bytes` leads to. -/
structure Processed (s t : ReceiveSystem) : Prop where
  transport_eq : t.transport = processReceivedBytes s.transport
  idle : t.popped = none
  emptied : t.transport.buffered = []
  unflagged : t.transport.receiveOverflowPending = false
  history_eq : t.history = s.history
  framed_eq : t.framed = s.framed ++ s.transport.buffered
  framing_eq : (t.transport.receiveFramer, t.completions.map Prod.fst) =
    newlineFramerConsume captureLine
      (discardIfOverflowed s.transport.receiveOverflowPending s.transport).receiveFramer
      s.transport.buffered (s.completions.map Prod.fst)
  returned_eq : t.returned = s.returned

/-- **An uninterrupted call of `process_received_bytes` is a run** that frames
the whole content of the ring. Only its first pop may find the overflow flag set. -/
theorem processReceivedBytes_restrictedRun {condition : ReceiveSystem → ReceiveEvent → Prop}
    (frames : ∀ s, condition s .frame)
    (pops : ∀ s : ReceiveSystem, s.transport.receiveOverflowPending = false → condition s .pop)
    {s : ReceiveSystem} (h : s.Fifo) (idle : s.popped = none) (start : condition s .pop) :
    ∃ events t, Run (Restricted ReceiveStep condition) s events t ∧ Processed s t := by
  have count : rawReceiveCount s.transport = s.transport.buffered.length :=
    (CircularBuffer.length_contents s.transport.rawReceive).symm
  generalize held : s.transport.buffered = bytes at count
  induction bytes generalizing s with
  | nil =>
      have taken := popReceivedByte_empty h.indices held
      refine ⟨_, _, .single ⟨.popEmpty idle taken, start⟩, ?_, idle, ?_, ?_, rfl, ?_, ?_, rfl⟩
      · simp only [processReceivedBytes, processReceivedBytesLoop, taken]
      · rw [(discardIfOverflowed_same _ _).buffered]
        exact held
      · exact (discardIfOverflowed_same _ _).receiveOverflowPending
      · rw [held, List.append_nil]
      · rw [held]
        cases overflowed : s.transport.receiveOverflowPending <;> rfl
  | cons byte bytes ih =>
      obtain ⟨popped, taken, indices, buffered, unflagged, same⟩ :=
        popReceivedByte_cons h.indices held
      let middle : ReceiveSystem :=
        { s with
          transport := popped
          popped := some (byte, s.transport.receiveOverflowPending) }
      let next := middle.frame byte s.transport.receiveOverflowPending
      have first : ReceiveStep s .pop middle := .pop idle taken
      have second : ReceiveStep middle .frame next := .frame rfl
      have kept := frameReceivedByte_same byte s.transport.receiveOverflowPending popped
      have nextBuffered : next.transport.buffered = bytes := kept.buffered.trans buffered
      have nextUnflagged : next.transport.receiveOverflowPending = false :=
        kept.receiveOverflowPending.trans unflagged
      have nextCount : rawReceiveCount next.transport = bytes.length := by
        rw [← nextBuffered]
        exact (CircularBuffer.length_contents next.transport.rawReceive).symm
      obtain ⟨events, t, run, transport, idle', emptied, unflagged', history, framed, framing,
        returned⟩ := ih ((h.step first).step second) rfl (pops next nextUnflagged) nextBuffered
          nextCount
      refine ⟨_, t, .head ⟨first, start⟩ (.head ⟨second, frames middle⟩ run), ?_, idle', emptied,
        unflagged', history, ?_, ?_, returned⟩
      · rw [transport]
        simp only [processReceivedBytes, count, nextCount, List.length_cons]
        conv_rhs => rw [processReceivedBytesLoop, taken]
        rfl
      · rw [framed, nextBuffered, held]
        simp [next, middle, ReceiveSystem.frame]
      · rw [framing, nextUnflagged, nextBuffered, held]
        have framers : (discardIfOverflowed s.transport.receiveOverflowPending
            popped).receiveFramer =
            (discardIfOverflowed s.transport.receiveOverflowPending
              s.transport).receiveFramer := by
          simp only [discardIfOverflowed_receiveFramer, same.receiveFramer]
        have one : newlineFramerConsumeByte captureLine
            ((discardIfOverflowed s.transport.receiveOverflowPending s.transport).receiveFramer,
              s.completions.map Prod.fst) byte =
            (next.transport.receiveFramer, next.completions.map Prod.fst) := by
          rw [newlineFramerConsumeByte_eq, foldl_captureLine, ← framers]
          simp [next, middle, ReceiveSystem.frame, completionsOf, Function.comp_def]
        rw [newlineFramerConsume, newlineFramerConsume, List.foldl_cons, one]
        rfl

theorem processReceivedBytes_run {s : ReceiveSystem} (h : s.Fifo) (idle : s.popped = none) :
    ∃ events t, Run ReceiveStep s events t ∧ Processed s t := by
  obtain ⟨events, t, run, processed⟩ := @processReceivedBytes_restrictedRun
    (fun _ _ => True) (fun _ => trivial) (fun _ _ => trivial) s h idle trivial
  exact ⟨events, t, run.of_restricted, processed⟩

end ReceiveSystem

end FlightComputer.Firmware
