import FlightComputer.Firmware.NewlineFramer
import FlightComputer.Library.CircularBuffer

/-!
# The USB CDC transport

`usb_cdc_transport.c` moves bytes in interrupt context and lines in the main
loop. Received packets enter a 512-byte ring of raw bytes; the main loop pops
them one at a time, frames them, and queues up to two completed lines. Up to two
outgoing lines are queued until the USB stack has transferred them.

The USB device stack is not part of the repository. What its functions answer
during one call is a parameter (`UsbdAnswers`).

Each operation comes with the effect it has on the contents of the buffers, and
every operation keeps the indices and counts in agreement
(`UsbCdcTransport.RawIndices`).
-/

set_option autoImplicit false

namespace FlightComputer.Firmware

open Library

/-- `USB_CDC_RAW_RECEIVE_CAPACITY` -/
def usbCdcRawReceiveCapacity : Nat := 512

/-- `USB_CDC_LINE_QUEUE_DEPTH` -/
def usbCdcLineQueueDepth : Nat := 2

/-- `USB_CDC_TRANSMIT_QUEUE_DEPTH` -/
def usbCdcTransmitQueueDepth : Nat := 2

/-- The static state of the transport. A received line is its `length` bytes; a
transmit line is its bytes with the terminating line feed. -/
structure UsbCdcTransport where
  rawReceiveBuffer : Nat → UInt8
  rawReceiveHead : Nat
  rawReceiveTail : Nat
  receiveOverflowPending : Bool
  receiveFramer : NewlineFramer
  receivedLines : CircularBuffer Bytes usbCdcLineQueueDepth
  transmitLines : CircularBuffer Bytes usbCdcTransmitQueueDepth
  transmitActive : Bool
  transmitCompleted : Bool
  receivedBytesDropped : UInt32
  completedLinesDropped : UInt32
  transmittedLinesDropped : UInt32

/-- `reset_transport_state`, on static arrays that start zeroed. -/
def resetTransportState : UsbCdcTransport where
  rawReceiveBuffer := fun _ => 0
  rawReceiveHead := 0
  rawReceiveTail := 0
  receiveOverflowPending := false
  receiveFramer := newlineFramerInitialize
  receivedLines := .empty fun _ => []
  transmitLines := .empty fun _ => []
  transmitActive := false
  transmitCompleted := false
  receivedBytesDropped := 0
  completedLinesDropped := 0
  transmittedLinesDropped := 0

/-! ## Receiving -/

/-- `completed_line` -/
def completedLine (line : Bytes) (transport : UsbCdcTransport) : UsbCdcTransport :=
  if transport.receivedLines.count = usbCdcLineQueueDepth then
    { transport with completedLinesDropped := transport.completedLinesDropped + 1 }
  else
    { transport with receivedLines := transport.receivedLines.push line }

/-- `pop_received_byte`: the byte, if there is one, and the overflow flag it read
and cleared. -/
def popReceivedByte (transport : UsbCdcTransport) : UsbCdcTransport × Option UInt8 × Bool :=
  let overflowed := transport.receiveOverflowPending
  let cleared := { transport with receiveOverflowPending := false }
  if transport.rawReceiveTail = transport.rawReceiveHead then (cleared, none, overflowed)
  else
    ({ cleared with
        rawReceiveTail := (transport.rawReceiveTail + 1) % usbCdcRawReceiveCapacity },
      some (transport.rawReceiveBuffer transport.rawReceiveTail), overflowed)

/-- `newline_framer_discard_current_line(&receive_framer)` when a pop saw the
overflow flag. -/
def discardIfOverflowed (overflowed : Bool) (transport : UsbCdcTransport) : UsbCdcTransport :=
  if overflowed then
    { transport with receiveFramer := newlineFramerDiscardCurrentLine transport.receiveFramer }
  else transport

/-- The body of the loop of `process_received_bytes`, for one popped byte. -/
def frameReceivedByte (byte : UInt8) (overflowed : Bool) (transport : UsbCdcTransport) :
    UsbCdcTransport :=
  let marked := discardIfOverflowed overflowed transport
  let consumed := newlineFramerConsume completedLine marked.receiveFramer [byte] marked
  { consumed.2 with receiveFramer := consumed.1 }

/-- The loop of `process_received_bytes`, as long as its bound lasts. -/
def processReceivedBytesLoop : Nat → UsbCdcTransport → UsbCdcTransport
  | 0, transport => transport
  | bound + 1, transport =>
      match popReceivedByte transport with
      | (popped, none, overflowed) => discardIfOverflowed overflowed popped
      | (popped, some byte, overflowed) =>
          processReceivedBytesLoop bound (frameReceivedByte byte overflowed popped)

/-- How many bytes the raw ring holds. -/
def rawReceiveCount (transport : UsbCdcTransport) : Nat :=
  (transport.rawReceiveHead + usbCdcRawReceiveCapacity - transport.rawReceiveTail) %
    usbCdcRawReceiveCapacity

/-- `process_received_bytes`, when no interrupt adds bytes: each iteration but
the last takes one byte out of the ring. -/
def processReceivedBytes (transport : UsbCdcTransport) : UsbCdcTransport :=
  processReceivedBytesLoop (rawReceiveCount transport + 1) transport

/-- The body of the loop of `cdc_receive`, for one byte. -/
def cdcReceiveByte (transport : UsbCdcTransport) (byte : UInt8) : UsbCdcTransport :=
  let next := (transport.rawReceiveHead + 1) % usbCdcRawReceiveCapacity
  if next = transport.rawReceiveTail then
    { transport with
      receivedBytesDropped := transport.receivedBytesDropped + 1
      receiveOverflowPending := true }
  else
    { transport with
      rawReceiveBuffer :=
        Function.update transport.rawReceiveBuffer transport.rawReceiveHead byte
      rawReceiveHead := next }

/-- `cdc_receive`. The status it returns depends on the stack alone. -/
def cdcReceive (transport : UsbCdcTransport) (packet : Bytes) : UsbCdcTransport :=
  packet.foldl cdcReceiveByte transport

/-- `usb_cdc_line_result_t`, with the line an available result delivers. -/
inductive UsbCdcLineResult where
  | unavailable
  | available (line : Bytes)
  | bufferTooSmall
  deriving DecidableEq

/-- `usb_cdc_transport_read_line` -/
def usbCdcTransportReadLine (capacity : Nat) (transport : UsbCdcTransport) :
    UsbCdcTransport × UsbCdcLineResult :=
  if transport.receivedLines.count = 0 then (transport, .unavailable)
  else
    let line := transport.receivedLines.front
    if capacity ≤ line.length then (transport, .bufferTooSmall)
    else ({ transport with receivedLines := transport.receivedLines.pop }, .available line)

/-! ## Transmitting -/

/-- What the USB device stack answers during one call: whether the device is in
the configured state, and whether `USBD_CDC_SetTxBuffer` and
`USBD_CDC_TransmitPacket` return `USBD_OK`. -/
structure UsbdAnswers where
  configured : Bool
  setTxBufferOk : Bool
  transmitPacketOk : Bool
  deriving DecidableEq

/-- `finish_completed_transmission` -/
def finishCompletedTransmission (transport : UsbCdcTransport) : UsbCdcTransport :=
  let completed := transport.transmitCompleted
  let cleared := { transport with transmitCompleted := false }
  if !completed || !transport.transmitActive then cleared
  else
    { cleared with
      transmitActive := false
      transmitLines := transport.transmitLines.pop }

/-- `start_pending_transmission`, with the line the stack accepted, if any. -/
def startPendingTransmission (usb : UsbdAnswers) (transport : UsbCdcTransport) :
    UsbCdcTransport × Option Bytes :=
  if transport.transmitActive || transport.transmitLines.count == 0 || !usb.configured then
    (transport, none)
  else if !usb.setTxBufferOk || !usb.transmitPacketOk then
    ({ transport with transmitActive := false }, none)
  else
    ({ transport with transmitActive := true }, some transport.transmitLines.front)

/-- `usb_cdc_transport_process` -/
def usbCdcTransportProcess (usb : UsbdAnswers) (transport : UsbCdcTransport) :
    UsbCdcTransport × Option Bytes :=
  startPendingTransmission usb (finishCompletedTransmission (processReceivedBytes transport))

/-- `usb_cdc_transport_queue_line` -/
def usbCdcTransportQueueLine (line : Bytes) (transport : UsbCdcTransport) :
    UsbCdcTransport × Bool :=
  if newlineFramerMaxLineLength < line.length ∨
      transport.transmitLines.count = usbCdcTransmitQueueDepth ∨
      lineFeed ∈ line ∨ carriageReturn ∈ line then
    ({ transport with transmittedLinesDropped := transport.transmittedLinesDropped + 1 }, false)
  else
    ({ transport with transmitLines := transport.transmitLines.push (line ++ [lineFeed]) }, true)

/-- `usb_cdc_transport_can_queue_line` -/
def usbCdcTransportCanQueueLine (transport : UsbCdcTransport) : Bool :=
  decide (transport.transmitLines.count < usbCdcTransmitQueueDepth)

/-- `cdc_initialize`; its status depends on the stack alone. -/
def cdcInitialize (transport : UsbCdcTransport) : UsbCdcTransport :=
  { transport with transmitActive := false, transmitCompleted := false }

/-- `cdc_deinitialize` -/
def cdcDeinitialize (transport : UsbCdcTransport) : UsbCdcTransport :=
  { transport with transmitActive := false, transmitCompleted := false }

/-- `cdc_transmit_complete` -/
def cdcTransmitComplete (transport : UsbCdcTransport) : UsbCdcTransport :=
  { transport with transmitCompleted := true }

/-! ## The raw ring as a circular buffer -/

/-- The raw receive ring, with the number of bytes its indices stand for. -/
def UsbCdcTransport.rawReceive (transport : UsbCdcTransport) :
    CircularBuffer UInt8 usbCdcRawReceiveCapacity where
  slots := transport.rawReceiveBuffer
  head := transport.rawReceiveHead
  tail := transport.rawReceiveTail
  count := rawReceiveCount transport

/-- The bytes in the raw ring, oldest first. -/
def UsbCdcTransport.buffered (transport : UsbCdcTransport) : Bytes := transport.rawReceive.contents

/-- The indices of the raw ring address its array. -/
structure UsbCdcTransport.RawIndices (transport : UsbCdcTransport) : Prop where
  head_lt : transport.rawReceiveHead < usbCdcRawReceiveCapacity
  tail_lt : transport.rawReceiveTail < usbCdcRawReceiveCapacity

namespace UsbCdcTransport.RawIndices

variable {transport : UsbCdcTransport}

theorem count_lt (transport : UsbCdcTransport) :
    rawReceiveCount transport < usbCdcRawReceiveCapacity :=
  Nat.mod_lt _ (by decide)

theorem consistent (h : transport.RawIndices) : transport.rawReceive.Consistent where
  head_eq := by
    have := h.head_lt
    have := h.tail_lt
    simp only [UsbCdcTransport.rawReceive, rawReceiveCount, usbCdcRawReceiveCapacity] at *
    omega
  tail_lt := h.tail_lt
  count_le := (count_lt transport).le

/-- The ring is empty exactly when its indices meet. -/
theorem buffered_eq_nil_iff (h : transport.RawIndices) :
    transport.buffered = [] ↔ transport.rawReceiveTail = transport.rawReceiveHead := by
  rw [← List.length_eq_zero_iff, UsbCdcTransport.buffered, CircularBuffer.length_contents]
  have := h.head_lt
  have := h.tail_lt
  simp only [UsbCdcTransport.rawReceive, rawReceiveCount, usbCdcRawReceiveCapacity] at *
  omega

/-- The ring is full, with 511 bytes, exactly when the next write index is the
read index. -/
theorem length_buffered_eq_iff (h : transport.RawIndices) :
    transport.buffered.length = usbCdcRawReceiveCapacity - 1 ↔
      (transport.rawReceiveHead + 1) % usbCdcRawReceiveCapacity = transport.rawReceiveTail := by
  rw [UsbCdcTransport.buffered, CircularBuffer.length_contents]
  have := h.head_lt
  have := h.tail_lt
  simp only [UsbCdcTransport.rawReceive, rawReceiveCount, usbCdcRawReceiveCapacity] at *
  omega

theorem length_buffered_le (transport : UsbCdcTransport) :
    transport.buffered.length ≤ usbCdcRawReceiveCapacity - 1 := by
  rw [UsbCdcTransport.buffered, CircularBuffer.length_contents]
  exact Nat.le_sub_one_of_lt (count_lt transport)

end UsbCdcTransport.RawIndices

/-- Whether `cdc_receive` finds room for the next byte. -/
def rawReceiveHasRoom (transport : UsbCdcTransport) : Bool :=
  decide ((transport.rawReceiveHead + 1) % usbCdcRawReceiveCapacity ≠ transport.rawReceiveTail)

/-- The part of the transport that only the receive path of the main loop and
the transmit path touch is unchanged. -/
structure SameExceptRawRing (before after : UsbCdcTransport) : Prop where
  receiveFramer : after.receiveFramer = before.receiveFramer
  receivedLines : after.receivedLines = before.receivedLines
  transmitLines : after.transmitLines = before.transmitLines
  transmitActive : after.transmitActive = before.transmitActive
  transmitCompleted : after.transmitCompleted = before.transmitCompleted
  completedLinesDropped : after.completedLinesDropped = before.completedLinesDropped
  transmittedLinesDropped : after.transmittedLinesDropped = before.transmittedLinesDropped

section ReceiveByte

variable {transport : UsbCdcTransport} (h : transport.RawIndices) (byte : UInt8)
include h

/-- A byte that finds room is appended to the ring. -/
theorem cdcReceiveByte_room (room : rawReceiveHasRoom transport = true) :
    (cdcReceiveByte transport byte).RawIndices ∧
      (cdcReceiveByte transport byte).buffered = transport.buffered ++ [byte] ∧
      (cdcReceiveByte transport byte).receiveOverflowPending =
        transport.receiveOverflowPending ∧
      SameExceptRawRing transport (cdcReceiveByte transport byte) := by
  have free : (transport.rawReceiveHead + 1) % usbCdcRawReceiveCapacity ≠
      transport.rawReceiveTail := by simpa [rawReceiveHasRoom] using room
  have result : cdcReceiveByte transport byte =
      { transport with
        rawReceiveBuffer :=
          Function.update transport.rawReceiveBuffer transport.rawReceiveHead byte
        rawReceiveHead := (transport.rawReceiveHead + 1) % usbCdcRawReceiveCapacity } :=
    if_neg free
  rw [result]
  refine ⟨⟨Nat.mod_lt _ (by decide), h.tail_lt⟩, ?_, rfl, ⟨rfl, rfl, rfl, rfl, rfl, rfl, rfl⟩⟩
  have notFull : transport.rawReceive.count ≠ usbCdcRawReceiveCapacity - 1 := by
    intro full
    refine free (h.length_buffered_eq_iff.mp ?_)
    rw [UsbCdcTransport.buffered, CircularBuffer.length_contents, full]
  have below := UsbCdcTransport.RawIndices.count_lt transport
  have pushed := h.consistent.contents_push (Nat.lt_of_lt_of_le below (Nat.le_refl _)) byte
  rw [UsbCdcTransport.buffered, UsbCdcTransport.buffered, ← pushed]
  -- the count read off the indices is the count the push records
  congr 1
  simp only [UsbCdcTransport.rawReceive, CircularBuffer.push, CircularBuffer.mk.injEq, true_and]
  have := h.head_lt
  have := h.tail_lt
  simp only [UsbCdcTransport.rawReceive, rawReceiveCount, usbCdcRawReceiveCapacity] at *
  omega

/-- A byte that finds no room is dropped and sets the overflow flag. -/
theorem cdcReceiveByte_full (full : rawReceiveHasRoom transport = false) :
    (cdcReceiveByte transport byte).RawIndices ∧
      (cdcReceiveByte transport byte).buffered = transport.buffered ∧
      (cdcReceiveByte transport byte).receiveOverflowPending = true ∧
      SameExceptRawRing transport (cdcReceiveByte transport byte) := by
  have occupied : (transport.rawReceiveHead + 1) % usbCdcRawReceiveCapacity =
      transport.rawReceiveTail := by simpa [rawReceiveHasRoom] using full
  have result : cdcReceiveByte transport byte =
      { transport with
        receivedBytesDropped := transport.receivedBytesDropped + 1
        receiveOverflowPending := true } := if_pos occupied
  rw [result]
  exact ⟨⟨h.head_lt, h.tail_lt⟩, rfl, rfl, ⟨rfl, rfl, rfl, rfl, rfl, rfl, rfl⟩⟩

end ReceiveByte

section Pop

variable {transport : UsbCdcTransport} (h : transport.RawIndices)
include h

/-- Popping an empty ring only reads and clears the flag. -/
theorem popReceivedByte_empty (empty : transport.buffered = []) :
    popReceivedByte transport =
      ({ transport with receiveOverflowPending := false }, none,
        transport.receiveOverflowPending) := by
  simp [popReceivedByte, h.buffered_eq_nil_iff.mp empty]

/-- Popping takes the oldest byte, and reads and clears the flag. -/
theorem popReceivedByte_cons {byte : UInt8} {bytes : Bytes}
    (held : transport.buffered = byte :: bytes) :
    ∃ popped, popReceivedByte transport =
        (popped, some byte, transport.receiveOverflowPending) ∧
      popped.RawIndices ∧ popped.buffered = bytes ∧
      popped.receiveOverflowPending = false ∧ SameExceptRawRing transport popped := by
  have occupied : transport.rawReceiveTail ≠ transport.rawReceiveHead := by
    intro empty
    rw [h.buffered_eq_nil_iff.mpr empty] at held
    cases held
  have positive : 0 < transport.rawReceive.count := by
    rw [← CircularBuffer.length_contents]
    show 0 < transport.buffered.length
    rw [held]
    exact Nat.succ_pos _
  have parts := h.consistent.contents_eq_cons positive
  rw [← UsbCdcTransport.buffered, held] at parts
  obtain ⟨first, later⟩ := List.cons.inj parts
  refine ⟨{ transport with
      receiveOverflowPending := false
      rawReceiveTail := (transport.rawReceiveTail + 1) % usbCdcRawReceiveCapacity },
    ?_, ⟨h.head_lt, Nat.mod_lt _ (by decide)⟩, ?_, rfl, ⟨rfl, rfl, rfl, rfl, rfl, rfl, rfl⟩⟩
  · simp only [popReceivedByte, if_neg occupied, first]
    rfl
  · rw [later, UsbCdcTransport.buffered]
    congr 1
    simp only [UsbCdcTransport.rawReceive, CircularBuffer.pop, CircularBuffer.mk.injEq, true_and]
    have := h.head_lt
    have := h.tail_lt
    simp only [UsbCdcTransport.rawReceive, rawReceiveCount, usbCdcRawReceiveCapacity] at *
    omega

end Pop

end FlightComputer.Firmware
