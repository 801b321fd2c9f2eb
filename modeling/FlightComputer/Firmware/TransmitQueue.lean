import FlightComputer.Firmware.ReceivePath

/-!
# The transmit queue

The main loop queues lines and starts transfers; the USB stack finishes them and
calls back, and a re-enumeration aborts the transfer in flight. The stack is not
part of the repository: it calls `cdc_transmit_complete` once after a transfer it
accepted, and its other answers are arbitrary. That it accepts no second transfer
while one is in flight need not be assumed, since `transmit_active` keeps the main
loop from asking.

Every line leaves the queue after its own transfer, the slot of a transfer in
flight is not written, and the lines handed to the stack are the accepted ones
in order, the last of them again after a re-enumeration
(`transmit_queue_delivers`).
-/

set_option autoImplicit false

namespace FlightComputer.Firmware

open Library

/-- A transfer the stack accepted: the position of its line among the accepted
lines, the slot the stack reads, and the bytes it was given. -/
structure Transfer where
  index : Nat
  slot : Nat
  bytes : Bytes

/-- What the stack is told, in order. -/
inductive TransmitEntry where
  | handed (bytes : Bytes)
  | reenumerated
  deriving DecidableEq

/-- The transport with the transfer in flight, and what has been observed: the
lines `usb_cdc_transport_queue_line` accepted, how many of them left the queue,
the positions of those whose transfer completed, and the entries of the log. -/
structure TransmitSystem where
  transport : UsbCdcTransport
  inFlight : Option Transfer
  accepted : List Bytes
  left : Nat
  completed : List Nat
  log : List TransmitEntry

/-- The system after a reset. -/
def TransmitSystem.initial : TransmitSystem where
  transport := resetTransportState
  inFlight := none
  accepted := []
  left := 0
  completed := []
  log := []

/-- The calls of the main loop and the callbacks of the stack. -/
inductive TransmitEvent where
  | queueLine (line : Bytes)
  | process (usb : UsbdAnswers)
  | complete
  | deinit
  | init
  deriving DecidableEq

namespace TransmitSystem

/-- `usb_cdc_transport_queue_line` -/
def queueLine (s : TransmitSystem) (line : Bytes) : TransmitSystem :=
  { s with
    transport := (usbCdcTransportQueueLine line s.transport).1
    accepted := s.accepted ++ if (usbCdcTransportQueueLine line s.transport).2 then [line] else [] }

/-- The transport after the first two parts of `usb_cdc_transport_process`. -/
def finished (s : TransmitSystem) : UsbCdcTransport :=
  finishCompletedTransmission (processReceivedBytes s.transport)

/-- How many lines have left the queue once the completed transfer is finished. -/
def leftAfter (s : TransmitSystem) : Nat :=
  s.left + (s.transport.transmitLines.count - s.finished.transmitLines.count)

/-- `usb_cdc_transport_process` -/
def process (s : TransmitSystem) (usb : UsbdAnswers) : TransmitSystem :=
  match usbCdcTransportProcess usb s.transport with
  | (transport, none) => { s with transport := transport, left := s.leftAfter }
  | (transport, some bytes) =>
      { s with
        transport := transport
        left := s.leftAfter
        inFlight := some ⟨s.leftAfter, s.finished.transmitLines.tail, bytes⟩
        log := s.log ++ [.handed bytes] }

/-- The stack finishes a transfer and calls `cdc_transmit_complete`. -/
def complete (s : TransmitSystem) (transfer : Transfer) : TransmitSystem :=
  { s with
    transport := cdcTransmitComplete s.transport
    inFlight := none
    completed := s.completed ++ [transfer.index] }

/-- A re-enumeration aborts the transfer in flight and runs a callback. -/
def reenumerate (s : TransmitSystem) (callback : UsbCdcTransport → UsbCdcTransport) :
    TransmitSystem :=
  { s with
    transport := callback s.transport
    inFlight := none
    log := s.log ++ [.reenumerated] }

end TransmitSystem

/-- The steps of the transmit side. A completion needs a transfer in flight. -/
inductive TransmitStep : TransmitSystem → TransmitEvent → TransmitSystem → Prop where
  | queueLine (s : TransmitSystem) (line : Bytes) :
      TransmitStep s (.queueLine line) (s.queueLine line)
  | process (s : TransmitSystem) (usb : UsbdAnswers) :
      TransmitStep s (.process usb) (s.process usb)
  | complete {s : TransmitSystem} {transfer : Transfer} (running : s.inFlight = some transfer) :
      TransmitStep s .complete (s.complete transfer)
  | deinit (s : TransmitSystem) : TransmitStep s .deinit (s.reenumerate cdcDeinitialize)
  | init (s : TransmitSystem) : TransmitStep s .init (s.reenumerate cdcInitialize)

/-- A line as it is transmitted. -/
def transmitted (line : Bytes) : Bytes := line ++ [lineFeed]

/-- The hand-overs of a log are the first `count` accepted lines in order, where
the last of them may be repeated after a re-enumeration. The flag tells whether
there was one since the last hand-over. -/
inductive InOrder (accepted : List Bytes) : List TransmitEntry → Nat → Bool → Prop where
  | nothing : InOrder accepted [] 0 false
  | next {log : List TransmitEntry} {count : Nat} {again : Bool} {line : Bytes}
      (earlier : InOrder accepted log count again) (head : accepted[count]? = some line) :
      InOrder accepted (log ++ [.handed (transmitted line)]) (count + 1) false
  | again {log : List TransmitEntry} {count : Nat} {line : Bytes}
      (earlier : InOrder accepted log (count + 1) true) (head : accepted[count]? = some line) :
      InOrder accepted (log ++ [.handed (transmitted line)]) (count + 1) false
  | reenumerated {log : List TransmitEntry} {count : Nat} {again : Bool}
      (earlier : InOrder accepted log count again) :
      InOrder accepted (log ++ [.reenumerated]) count true

/-- The lines handed to the stack. -/
def handedOver (log : List TransmitEntry) : List Bytes :=
  log.filterMap fun
    | .handed bytes => some bytes
    | .reenumerated => none

namespace InOrder

variable {accepted : List Bytes} {log : List TransmitEntry} {count : Nat} {again : Bool}

/-- Accepting more lines changes nothing about those handed over. -/
theorem accept (h : InOrder accepted log count again) (more : List Bytes) :
    InOrder (accepted ++ more) log count again := by
  induction h with
  | nothing => exact .nothing
  | next _ head ih =>
      exact .next ih (List.getElem?_append_left (List.getElem?_eq_some_iff.mp head).1 ▸ head)
  | again _ head ih =>
      exact .again ih (List.getElem?_append_left (List.getElem?_eq_some_iff.mp head).1 ▸ head)
  | reenumerated _ ih => exact .reenumerated ih

/-- **Without re-enumeration the lines handed over are the accepted ones in
order.** -/
theorem handedOver_eq (h : InOrder accepted log count again)
    (never : TransmitEntry.reenumerated ∉ log) :
    handedOver log = (accepted.take count).map transmitted ∧ again = false := by
  induction h with
  | nothing => exact ⟨rfl, rfl⟩
  | @next log count again line earlier head ih =>
      obtain ⟨handed, _⟩ := ih fun member => never (List.mem_append_left _ member)
      refine ⟨?_, rfl⟩
      rw [handedOver, List.filterMap_append, ← handedOver, handed, List.take_add_one, head]
      simp
  | again earlier _ ih =>
      obtain ⟨_, absent⟩ := ih fun member => never (List.mem_append_left _ member)
      cases absent
  | reenumerated _ _ => exact absurd (List.mem_append_right _ List.mem_cons_self) never

end InOrder

/-! ## What the parts of `usb_cdc_transport_process` do to the transmit side -/

/-- Receiving leaves the transmit side alone. -/
theorem processReceivedBytesLoop_transmit (bound : Nat) (transport : UsbCdcTransport) :
    let after := processReceivedBytesLoop bound transport
    after.transmitLines = transport.transmitLines ∧
      after.transmitActive = transport.transmitActive ∧
      after.transmitCompleted = transport.transmitCompleted := by
  induction bound generalizing transport with
  | zero => exact ⟨rfl, rfl, rfl⟩
  | succ bound ih =>
      have popped : (popReceivedByte transport).1.transmitLines = transport.transmitLines ∧
          (popReceivedByte transport).1.transmitActive = transport.transmitActive ∧
          (popReceivedByte transport).1.transmitCompleted = transport.transmitCompleted := by
        unfold popReceivedByte
        dsimp only
        split_ifs <;> exact ⟨rfl, rfl, rfl⟩
      dsimp only
      rw [processReceivedBytesLoop]
      rcases taken : popReceivedByte transport with ⟨after, none | byte, overflowed⟩
      · have same := discardIfOverflowed_same overflowed after
        rw [taken] at popped
        exact ⟨same.transmitLines.trans popped.1, same.transmitActive.trans popped.2.1,
          same.transmitCompleted.trans popped.2.2⟩
      · have same := frameReceivedByte_same byte overflowed after
        rw [taken] at popped
        obtain ⟨lines, active, completed⟩ := ih (frameReceivedByte byte overflowed after)
        exact ⟨lines.trans (same.transmitLines.trans popped.1),
          active.trans (same.transmitActive.trans popped.2.1),
          completed.trans (same.transmitCompleted.trans popped.2.2)⟩

/-- Finishing a completed transmission removes its line, and starts nothing. -/
theorem finishCompletedTransmission_cases (transport : UsbCdcTransport) :
    (finishCompletedTransmission transport).transmitCompleted = false ∧
      (transport.transmitCompleted = true ∧ transport.transmitActive = true ∧
          (finishCompletedTransmission transport).transmitActive = false ∧
          (finishCompletedTransmission transport).transmitLines = transport.transmitLines.pop ∨
        (transport.transmitCompleted = false ∨ transport.transmitActive = false) ∧
          (finishCompletedTransmission transport).transmitActive = transport.transmitActive ∧
          (finishCompletedTransmission transport).transmitLines = transport.transmitLines) := by
  unfold finishCompletedTransmission
  cases completed : transport.transmitCompleted <;> cases active : transport.transmitActive <;>
    simp

/-- Starting hands the first queued line to the stack, when none is active, one
waits and the stack accepts it; otherwise it changes nothing. -/
theorem startPendingTransmission_cases (usb : UsbdAnswers) (transport : UsbCdcTransport) :
    startPendingTransmission usb transport = (transport, none) ∨
      startPendingTransmission usb transport =
          ({ transport with transmitActive := true }, some transport.transmitLines.front) ∧
        transport.transmitActive = false ∧ transport.transmitLines.count ≠ 0 := by
  unfold startPendingTransmission
  split_ifs with waiting refused
  · exact .inl rfl
  · simp only [Bool.or_eq_true, beq_iff_eq, not_or, Bool.not_eq_true] at waiting
    left
    rw [← waiting.1.1]
  · simp only [Bool.or_eq_true, beq_iff_eq, not_or, Bool.not_eq_true] at waiting
    exact .inr ⟨rfl, waiting.1.1, waiting.1.2⟩

/-! ## The invariant -/

namespace TransmitSystem

/-- The queue holds the accepted lines that did not leave it; they left it after
their transfers; and the transfer state says which line was handed over last.
While a transmission is active this is the line at the head, in flight or
completed. -/
structure Delivering (s : TransmitSystem) (count : Nat) (again : Bool) : Prop where
  consistent : s.transport.transmitLines.Consistent
  contents_eq : s.transport.transmitLines.contents = (s.accepted.drop s.left).map transmitted
  left_le : s.left ≤ s.accepted.length
  left_completed : ∀ index < s.left, index ∈ s.completed
  order : InOrder s.accepted s.log count again
  idle : s.transport.transmitActive = false →
    s.inFlight = none ∧ s.transport.transmitCompleted = false ∧
      (count = s.left ∨ count = s.left + 1 ∧ again = true)
  active : s.transport.transmitActive = true →
    count = s.left + 1 ∧ 0 < s.transport.transmitLines.count ∧
      (s.transport.transmitCompleted = true ∧ s.inFlight = none ∧ s.left ∈ s.completed ∨
        s.transport.transmitCompleted = false ∧ ∃ line,
          s.inFlight = some ⟨s.left, s.transport.transmitLines.tail, transmitted line⟩ ∧
          s.accepted[s.left]? = some line ∧ s.transport.transmitLines.front = transmitted line)

theorem initial_delivering : initial.Delivering 0 false where
  consistent := CircularBuffer.consistent_empty (by decide) _
  contents_eq := rfl
  left_le := Nat.le_refl 0
  left_completed := by simp [initial]
  order := .nothing
  idle := fun _ => ⟨rfl, rfl, .inl rfl⟩
  active := by
    intro active
    cases active

variable {s : TransmitSystem} {count : Nat} {again : Bool}

/-- The lines in the queue and those that left it are the accepted ones. -/
theorem Delivering.count_eq (h : s.Delivering count again) :
    s.transport.transmitLines.count = s.accepted.length - s.left := by
  rw [← CircularBuffer.length_contents, h.contents_eq, List.length_map, List.length_drop]

/-- The first line of a queue that is not empty is the oldest accepted line in
it. -/
theorem Delivering.front_eq (h : s.Delivering count again)
    (occupied : 0 < s.transport.transmitLines.count) :
    ∃ line, s.accepted[s.left]? = some line ∧
      s.transport.transmitLines.front = transmitted line ∧
      s.transport.transmitLines.pop.contents =
        (s.accepted.drop (s.left + 1)).map transmitted := by
  have within : s.left < s.accepted.length := by
    have := h.count_eq
    omega
  have parts := h.consistent.contents_eq_cons occupied
  rw [h.contents_eq, List.drop_eq_getElem_cons within, List.map_cons] at parts
  obtain ⟨front, later⟩ := List.cons.inj parts
  exact ⟨s.accepted[s.left], List.getElem?_eq_getElem within, front.symm, later.symm⟩

/-- Queuing a line writes no slot that holds one. -/
theorem Delivering.queueLine (h : s.Delivering count again) (line : Bytes) :
    (s.queueLine line).Delivering count again := by
  by_cases refused : newlineFramerMaxLineLength < line.length ∨
      s.transport.transmitLines.count = usbCdcTransmitQueueDepth ∨
      lineFeed ∈ line ∨ carriageReturn ∈ line
  · obtain ⟨consistent, contents, within, left, order, idle, active⟩ := h
    have result : s.queueLine line =
        { s with
          transport := { s.transport with
            transmittedLinesDropped := s.transport.transmittedLinesDropped + 1 } } := by
      simp [TransmitSystem.queueLine, usbCdcTransportQueueLine, refused]
    rw [result]
    exact ⟨consistent, contents, within, left, order, idle, active⟩
  · have result : s.queueLine line =
        { s with
          transport := { s.transport with
            transmitLines := s.transport.transmitLines.push (transmitted line) }
          accepted := s.accepted ++ [line] } := by
      simp [TransmitSystem.queueLine, usbCdcTransportQueueLine, refused, transmitted]
    have room : s.transport.transmitLines.count < usbCdcTransmitQueueDepth :=
      Nat.lt_of_le_of_ne h.consistent.count_le fun full => refused (.inr (.inl full))
    rw [result]
    refine ⟨h.consistent.push room _, ?_, ?_, h.left_completed, h.order.accept [line], h.idle, ?_⟩
    · rw [h.consistent.contents_push room, h.contents_eq,
        List.drop_append_of_le_length h.left_le]
      simp
    · rw [List.length_append]
      exact h.left_le.trans (Nat.le_add_right _ _)
    · intro active
      obtain ⟨last, occupied, state⟩ := h.active active
      refine ⟨last, Nat.succ_pos _, state.imp_right ?_⟩
      rintro ⟨flag, held, flight, head, front⟩
      refine ⟨flag, held, flight, ?_, ?_⟩
      · exact List.getElem?_append_left (List.getElem?_eq_some_iff.mp head).1 ▸ head
      · have other := h.consistent.head_ne_occupied room occupied
        rw [Nat.add_zero, Nat.mod_eq_of_lt h.consistent.tail_lt] at other
        exact (CircularBuffer.slots_push _ _ other).trans front

/-- The system once a completed transmission is finished. -/
def finish (s : TransmitSystem) : TransmitSystem :=
  { s with transport := s.finished, left := s.leftAfter }

/-- A line leaves the queue after its own transfer. -/
theorem Delivering.finish (h : s.Delivering count again) : s.finish.Delivering count again := by
  obtain ⟨lines, active, completed⟩ :=
    processReceivedBytesLoop_transmit (rawReceiveCount s.transport + 1) s.transport
  obtain ⟨cleared, finished⟩ :=
    finishCompletedTransmission_cases (processReceivedBytes s.transport)
  rw [processReceivedBytes, lines, active, completed] at finished
  rcases finished with ⟨wasCompleted, wasActive, nowActive, popped⟩ |
    ⟨waiting, sameActive, sameLines⟩
  · obtain ⟨last, occupied, state⟩ := h.active wasActive
    obtain ⟨line, head, front, contents⟩ := h.front_eq occupied
    have transferred : s.inFlight = none ∧ s.left ∈ s.completed := by
      rcases state with ⟨_, held, member⟩ | ⟨flag, _⟩
      · exact ⟨held, member⟩
      · rw [wasCompleted] at flag
        cases flag
    have leftEq : s.finish.left = s.left + 1 := by
      have gone : s.finished.transmitLines.count = s.transport.transmitLines.count - 1 :=
        congrArg CircularBuffer.count popped
      change s.left + (s.transport.transmitLines.count - s.finished.transmitLines.count) = _
      rw [gone]
      omega
    refine ⟨?_, ?_, ?_, ?_, h.order, ?_, ?_⟩
    · exact popped ▸ h.consistent.pop occupied
    · rw [leftEq]
      exact (congrArg CircularBuffer.contents popped).trans contents
    · rw [leftEq]
      exact (List.getElem?_eq_some_iff.mp head).1
    · rw [leftEq]
      intro index below
      rcases Nat.lt_succ_iff_lt_or_eq.mp below with earlier | rfl
      · exact h.left_completed index earlier
      · exact transferred.2
    · intro _
      exact ⟨transferred.1, cleared, .inl (last.trans leftEq.symm)⟩
    · intro active
      have : false = true := nowActive.symm.trans active
      cases this
  · have sameLines : s.finish.transport.transmitLines = s.transport.transmitLines := sameLines
    have leftEq : s.finish.left = s.left := by
      change s.left + (s.transport.transmitLines.count - s.finish.transport.transmitLines.count) = _
      rw [sameLines]
      omega
    refine ⟨?_, ?_, ?_, ?_, h.order, ?_, ?_⟩
    · rw [sameLines]
      exact h.consistent
    · rw [sameLines, leftEq]
      exact h.contents_eq
    · rw [leftEq]
      exact h.left_le
    · rw [leftEq]
      exact h.left_completed
    · rw [leftEq]
      intro active
      obtain ⟨held, _, last⟩ := h.idle (sameActive.symm.trans active)
      exact ⟨held, cleared, last⟩
    · rw [leftEq, sameLines]
      intro active
      have wasActive : s.transport.transmitActive = true := sameActive.symm.trans active
      obtain ⟨last, occupied, state⟩ := h.active wasActive
      refine ⟨last, occupied, .inr ⟨cleared, ?_⟩⟩
      rcases state with ⟨flag, _⟩ | ⟨_, transfer⟩
      · rcases waiting with notCompleted | notActive
        · rw [notCompleted] at flag
          cases flag
        · rw [notActive] at wasActive
          cases wasActive
      · exact transfer

/-- **Starting a transfer hands the line at the head to the stack.** -/
theorem Delivering.process (h : s.Delivering count again) (usb : UsbdAnswers) :
    ∃ count again, (s.process usb).Delivering count again := by
  have done := h.finish
  rcases startPendingTransmission_cases usb s.finished with nothing | ⟨started, idle, occupied⟩
  · refine ⟨count, again, ?_⟩
    rw [TransmitSystem.process, usbCdcTransportProcess, ← finished, nothing]
    exact done
  · obtain ⟨held, flag, last⟩ := done.idle idle
    obtain ⟨line, head, front, _⟩ := done.front_eq (Nat.pos_of_ne_zero occupied)
    have front' : s.finished.transmitLines.front = transmitted line := front
    refine ⟨s.finish.left + 1, false, ?_⟩
    rw [TransmitSystem.process, usbCdcTransportProcess, ← finished, started, front']
    refine ⟨done.consistent, done.contents_eq, done.left_le, done.left_completed, ?_, ?_, ?_⟩
    · rcases last with first | ⟨repeated, renewed⟩
      · rw [first] at done
        exact .next done.order head
      · rw [repeated, renewed] at done
        exact .again done.order head
    · rintro ⟨⟩
    · intro _
      exact ⟨rfl, Nat.pos_of_ne_zero occupied, .inr ⟨flag, line, rfl, head, front⟩⟩

/-- A completed transfer is that of the line at the head. -/
theorem Delivering.complete (h : s.Delivering count again) {transfer : Transfer}
    (running : s.inFlight = some transfer) : (s.complete transfer).Delivering count again := by
  cases active : s.transport.transmitActive with
  | false =>
      have held := (h.idle active).1
      rw [running] at held
      cases held
  | true =>
      obtain ⟨last, occupied, state⟩ := h.active active
      have index : transfer.index = s.left := by
        rcases state with ⟨_, held, _⟩ | ⟨_, line, held, _⟩ <;> rw [running] at held
        · cases held
        · rw [Option.some.inj held]
      refine ⟨h.consistent, h.contents_eq, h.left_le, ?_, h.order, ?_, ?_⟩
      · exact fun index below => List.mem_append_left _ (h.left_completed index below)
      · intro idle
        have : true = false := active.symm.trans idle
        cases this
      · intro _
        refine ⟨last, occupied, .inl ⟨rfl, rfl, List.mem_append_right _ ?_⟩⟩
        rw [index]
        exact List.mem_cons_self

/-- A re-enumeration forgets the transfer; its line stays at the head. -/
theorem Delivering.reenumerate (h : s.Delivering count again)
    {callback : UsbCdcTransport → UsbCdcTransport}
    (resets : ∀ transport, callback transport =
      { transport with transmitActive := false, transmitCompleted := false }) :
    (s.reenumerate callback).Delivering count true := by
  have last : count = s.left ∨ count = s.left + 1 ∧ true = true := by
    cases active : s.transport.transmitActive with
    | false => exact (h.idle active).2.2.imp_right fun last => ⟨last.1, rfl⟩
    | true => exact .inr ⟨(h.active active).1, rfl⟩
  rw [TransmitSystem.reenumerate, resets]
  refine ⟨h.consistent, h.contents_eq, h.left_le, h.left_completed, .reenumerated h.order, ?_, ?_⟩
  · exact fun _ => ⟨rfl, rfl, last⟩
  · rintro ⟨⟩

/-- **Every step keeps the invariant.** -/
theorem Delivering.step {t : TransmitSystem} {event : TransmitEvent}
    (h : s.Delivering count again) (step : TransmitStep s event t) :
    ∃ count again, t.Delivering count again := by
  cases step with
  | queueLine line => exact ⟨count, again, h.queueLine line⟩
  | process usb => exact h.process usb
  | complete running => exact ⟨count, again, h.complete running⟩
  | deinit => exact ⟨count, true, h.reenumerate fun _ => rfl⟩
  | init => exact ⟨count, true, h.reenumerate fun _ => rfl⟩

end TransmitSystem

/-- **The transmit queue delivers.** In every run the indices and the count of
the queue agree, a transmission is active only with a line to transmit, the slot
of a transfer in flight holds the whole accepted line it was handed over with,
and every line that left the queue did so after its own transfer. The lines
handed to the stack are the accepted ones in order, where only the last of them
may be repeated, after a re-enumeration; without one they are a prefix of the
accepted lines. -/
theorem transmit_queue_delivers {s : TransmitSystem} {events : List TransmitEvent}
    (run : Run TransmitStep .initial events s) :
    (s.transport.transmitLines.head =
          (s.transport.transmitLines.tail + s.transport.transmitLines.count) % 2 ∧
        s.transport.transmitLines.count ≤ 2) ∧
      (s.transport.transmitActive = true → 1 ≤ s.transport.transmitLines.count) ∧
      (∀ transfer, s.inFlight = some transfer →
        s.transport.transmitLines.slots transfer.slot = transfer.bytes ∧
          ∃ line, s.accepted[transfer.index]? = some line ∧ transfer.bytes = transmitted line) ∧
      (∀ index < s.left, index ∈ s.completed) ∧
      s.transport.transmitLines.contents = (s.accepted.drop s.left).map transmitted ∧
      (∃ count again, InOrder s.accepted s.log count again) ∧
      (TransmitEntry.reenumerated ∉ s.log →
        handedOver s.log <+: s.accepted.map transmitted) := by
  obtain ⟨count, again, h⟩ : ∃ count again, s.Delivering count again := by
    refine run.invariant (I := fun s => ∃ count again, s.Delivering count again) ?_
      ⟨0, false, TransmitSystem.initial_delivering⟩
    rintro s event t ⟨count, again, h⟩ step
    exact h.step step
  refine ⟨⟨h.consistent.head_eq, h.consistent.count_le⟩, fun active => (h.active active).2.1, ?_,
    h.left_completed, h.contents_eq, ⟨count, again, h.order⟩, ?_⟩
  · intro transfer running
    cases active : s.transport.transmitActive with
    | false =>
        have held := (h.idle active).1
        rw [running] at held
        cases held
    | true =>
        rcases (h.active active).2.2 with ⟨_, held, _⟩ | ⟨_, line, held, head, front⟩ <;>
          rw [running] at held
        · cases held
        · obtain rfl := Option.some.inj held
          exact ⟨front, line, head, rfl⟩
  · intro never
    rw [(h.order.handedOver_eq never).1, List.map_take]
    exact List.take_prefix _ _

/-- A line that is queued, transmitted, aborted by a re-enumeration and handed
over again. -/
theorem transmit_queue_delivers_aborted :
    ∃ events s, Run TransmitStep .initial events s ∧
      handedOver s.log = [[97, 10], [97, 10]] ∧
      ∃ count again, InOrder s.accepted s.log count again := by
  have run : Run TransmitStep .initial
      [.queueLine [97], .process ⟨true, true, true⟩, .deinit, .init,
        .process ⟨true, true, true⟩] _ :=
    .head (.queueLine _ _) (.head (.process _ _) (.head (.deinit _)
      (.head (.init _) (.single (.process _ _)))))
  exact ⟨_, _, run, by decide, (transmit_queue_delivers run).2.2.2.2.2.1⟩

end FlightComputer.Firmware
