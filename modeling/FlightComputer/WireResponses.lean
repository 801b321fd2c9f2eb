import FlightComputer.WireRequests

/-!
# Responses on the wire

What the firmware has told and the tester has not read is on the wire: lines that the connection of
the tester has made already, bytes that have been transferred, the rest of the transfer in flight, and
lines in the transmit queue of the transport (`Wire.Tells`). A line leaves the queue when its bytes
are gone, so that the bytes of the queue and those before it are always the told lines in order.
-/

set_option autoImplicit false

namespace FlightComputer

open Library Firmware BoardTester

variable {δ : Type}

/-! ## The transmit side -/

/-- The part of the transport that transmitting is about is unchanged. -/
structure SameTransmitSide (before after : UsbCdcTransport) : Prop where
  transmitLines : after.transmitLines = before.transmitLines
  transmitActive : after.transmitActive = before.transmitActive
  transmitCompleted : after.transmitCompleted = before.transmitCompleted

namespace SameTransmitSide

theorem refl (transport : UsbCdcTransport) : SameTransmitSide transport transport := ⟨rfl, rfl, rfl⟩

theorem trans {first second third : UsbCdcTransport} (before : SameTransmitSide first second)
    (after : SameTransmitSide second third) : SameTransmitSide first third where
  transmitLines := after.transmitLines.trans before.transmitLines
  transmitActive := after.transmitActive.trans before.transmitActive
  transmitCompleted := after.transmitCompleted.trans before.transmitCompleted

/-- A packet arrives. -/
theorem cdcReceive (transport : UsbCdcTransport) (packet : Bytes) :
    SameTransmitSide transport (cdcReceive transport packet) := by
  induction packet generalizing transport with
  | nil => exact .refl transport
  | cons byte packet ih =>
      refine .trans ?_ (ih (cdcReceiveByte transport byte))
      unfold cdcReceiveByte
      dsimp only
      split_ifs <;> exact ⟨rfl, rfl, rfl⟩

/-- A byte is popped, or there is none. -/
theorem popReceivedByte (transport : UsbCdcTransport) :
    SameTransmitSide transport (popReceivedByte transport).1 := by
  rw [Firmware.popReceivedByte]
  dsimp only
  split_ifs <;> exact ⟨rfl, rfl, rfl⟩

theorem discardIfOverflowed (overflowed : Bool) (transport : UsbCdcTransport) :
    SameTransmitSide transport (discardIfOverflowed overflowed transport) :=
  have same := discardIfOverflowed_same overflowed transport
  ⟨same.transmitLines, same.transmitActive, same.transmitCompleted⟩

theorem frameReceivedByte (byte : UInt8) (overflowed : Bool) (transport : UsbCdcTransport) :
    SameTransmitSide transport (frameReceivedByte byte overflowed transport) :=
  have same := frameReceivedByte_same byte overflowed transport
  ⟨same.transmitLines, same.transmitActive, same.transmitCompleted⟩

/-- A received line is read, or there is none. -/
theorem readLine (capacity : Nat) (transport : UsbCdcTransport) :
    SameTransmitSide transport (usbCdcTransportReadLine capacity transport).1 := by
  unfold usbCdcTransportReadLine
  dsimp only
  split_ifs <;> exact ⟨rfl, rfl, rfl⟩

end SameTransmitSide

/-! ## What has not been transferred -/

/-- **The bytes that have not been transferred**: nothing is in flight, or the rest of the first line
is, or the first line is gone and still in the queue. -/
inductive Untransferred (transport : UsbCdcTransport) : Option Bytes → Bytes → Prop where
  | idle (inactive : transport.transmitActive = false) (clear : transport.transmitCompleted = false) :
      Untransferred transport none transport.transmitLines.contents.flatten
  | running {sent left : Bytes} {later : List Bytes} (active : transport.transmitActive = true)
      (clear : transport.transmitCompleted = false)
      (lines : transport.transmitLines.contents = (sent ++ left) :: later) :
      Untransferred transport (some left) (left ++ later.flatten)
  | gone {line : Bytes} {later : List Bytes} (active : transport.transmitActive = true)
      (completed : transport.transmitCompleted = true)
      (lines : transport.transmitLines.contents = line :: later) :
      Untransferred transport none later.flatten

namespace Untransferred

variable {transport after : UsbCdcTransport} {inFlight : Option Bytes} {ahead : Bytes}

theorem congr (untransferred : Untransferred transport inFlight ahead)
    (same : SameTransmitSide transport after) : Untransferred after inFlight ahead := by
  cases untransferred with
  | idle inactive clear =>
      rw [← same.transmitLines]
      exact .idle (same.transmitActive.trans inactive) (same.transmitCompleted.trans clear)
  | running active clear lines =>
      exact .running (same.transmitActive.trans active) (same.transmitCompleted.trans clear)
        (same.transmitLines ▸ lines)
  | gone active completed lines =>
      exact .gone (same.transmitActive.trans active) (same.transmitCompleted.trans completed)
        (same.transmitLines ▸ lines)

/-- A line that is gone leaves the queue. -/
theorem finish (queued : transport.transmitLines.Consistent)
    (untransferred : Untransferred transport inFlight ahead) :
    (finishCompletedTransmission transport).transmitLines.Consistent ∧
      (finishCompletedTransmission transport).transmitCompleted = false ∧
      Untransferred (finishCompletedTransmission transport) inFlight ahead := by
  have finished : ∀ waiting : (!transport.transmitCompleted || !transport.transmitActive) = true,
      finishCompletedTransmission transport = { transport with transmitCompleted := false } :=
    fun waiting => if_pos waiting
  cases untransferred with
  | idle inactive clear =>
      rw [finished (by rw [clear]; rfl)]
      exact ⟨queued, rfl, .idle inactive rfl⟩
  | running active clear lines =>
      rw [finished (by rw [clear]; rfl)]
      exact ⟨queued, rfl, .running active rfl lines⟩
  | @gone line later active completed lines =>
      have popped : finishCompletedTransmission transport =
          { transport with
            transmitCompleted := false
            transmitActive := false
            transmitLines := transport.transmitLines.pop } :=
        if_neg (by rw [active, completed]; exact Bool.false_ne_true)
      have occupied : 0 < transport.transmitLines.count := by
        rw [← CircularBuffer.length_contents, lines]
        exact Nat.succ_pos _
      have parts := queued.contents_eq_cons occupied
      rw [lines] at parts
      obtain ⟨_, rfl⟩ := List.cons.inj parts
      rw [popped]
      exact ⟨queued.pop occupied, rfl, .idle rfl rfl⟩

/-- A transfer that is started is that of the first line. -/
theorem start (usb : UsbdAnswers) (queued : transport.transmitLines.Consistent)
    (clear : transport.transmitCompleted = false)
    (untransferred : Untransferred transport inFlight ahead) :
    (startPendingTransmission usb transport).1.transmitLines.Consistent ∧
      Untransferred (startPendingTransmission usb transport).1
        (inFlightAfter (startPendingTransmission usb transport).2 inFlight) ahead := by
  rcases startPendingTransmission_cases usb transport with nothing | ⟨started, inactive, occupied⟩
  · rw [nothing]
    exact ⟨queued, untransferred⟩
  · rw [started]
    refine ⟨queued, ?_⟩
    cases untransferred with
    | idle _ _ =>
        have parts := queued.contents_eq_cons (Nat.pos_of_ne_zero occupied)
        rw [parts, List.flatten_cons]
        exact @Untransferred.running _ [] _ _ rfl clear parts
    | running active _ _ => exact absurd (inactive.symm.trans active) Bool.false_ne_true
    | gone active _ _ => exact absurd (inactive.symm.trans active) Bool.false_ne_true

/-- A line is queued after all others. -/
theorem push (queued : transport.transmitLines.Consistent)
    (room : transport.transmitLines.count < usbCdcTransmitQueueDepth)
    (untransferred : Untransferred transport inFlight ahead) (line : Bytes) :
    Untransferred { transport with transmitLines := transport.transmitLines.push line } inFlight
      (ahead ++ line) := by
  have contents := queued.contents_push room line
  have last : ∀ later : List Bytes, later.flatten ++ line = (later ++ [line]).flatten := by
    intro later
    rw [List.flatten_append, List.flatten_singleton]
  cases untransferred with
  | idle inactive clear =>
      rw [last, ← contents]
      exact .idle inactive clear
  | running active clear lines =>
      rw [lines, List.cons_append] at contents
      rw [List.append_assoc, last]
      exact .running active clear contents
  | gone active completed lines =>
      rw [lines, List.cons_append] at contents
      rw [last]
      exact .gone active completed contents

/-- With an empty queue everything has been transferred. -/
theorem eq_nil (untransferred : Untransferred transport inFlight ahead)
    (empty : transport.transmitLines.contents = []) : ahead = [] := by
  cases untransferred with
  | idle _ _ => rw [empty, List.flatten_nil]
  | running _ _ lines => exact absurd (empty.symm.trans lines) (List.cons_ne_nil _ _).symm
  | gone _ _ lines => exact absurd (empty.symm.trans lines) (List.cons_ne_nil _ _).symm

end Untransferred

/-- The events of lines that are told are these lines. -/
theorem framingEvents_of_frames (lines : List Bytes)
    (frameable : ∀ line ∈ lines, Frameable maxLineLength line) :
    framingEvents maxLineLength (lines.map transmitted).flatten = lines.map .line := by
  have told := (@framingEvents_append_frames maxLineLength [] unfinished_nil lines frameable).1
  rw [List.nil_append, framingEvents_nil, List.nil_append] at told
  exact told

/-! ## What the tester has not read -/

/-- **The wire tells the responses** that the tester has not read, in order. -/
structure Wire.Tells (s : Wire δ) (responses : List Bytes) : Prop where
  queued : s.transport.transmitLines.Consistent
  unread : s.connection.reads = []
  stream : ∃ (received ahead : Bytes) (read : List Bytes), s.connection.FollowsStream received ∧
    s.connection.taken = read.map .line ∧
    (∀ line ∈ read ++ responses, Frameable maxLineLength line) ∧
    Untransferred s.transport s.inFlight ahead ∧
    received ++ s.incoming ++ ahead = ((read ++ responses).map transmitted).flatten

namespace Wire.Tells

variable {s t : Wire δ} {responses : List Bytes}

theorem initial (port : PyStr) (device : δ) : (Wire.initial port device).Tells [] where
  queued := CircularBuffer.consistent_empty (by decide) _
  unread := rfl
  stream := ⟨[], _, [], Connection.followsStream_opened port [] [] [] [], rfl,
    fun _ listed => absurd listed List.not_mem_nil, .idle rfl rfl, rfl⟩

/-- It depends on the transmit side, the transfer in flight and what the tester has got. -/
theorem congr (tells : s.Tells responses) (same : SameTransmitSide s.transport t.transport)
    (connection : t.connection = s.connection) (inFlight : t.inFlight = s.inFlight)
    (incoming : t.incoming = s.incoming) : t.Tells responses where
  queued := by
    rw [same.transmitLines]
    exact tells.queued
  unread := by
    rw [connection]
    exact tells.unread
  stream := by
    obtain ⟨received, ahead, read, follows, taken, frameable, untransferred, whole⟩ := tells.stream
    rw [connection, inFlight, incoming]
    exact ⟨received, ahead, read, follows, taken, frameable, untransferred.congr same, whole⟩

/-- **The transmit part of `usb_cdc_transport_process`.** -/
theorem transmit (tells : s.Tells responses) (usb : UsbdAnswers) :
    Tells { s with
      transport := (startPendingTransmission usb (finishCompletedTransmission s.transport)).1
      inFlight := inFlightAfter
        (startPendingTransmission usb (finishCompletedTransmission s.transport)).2 s.inFlight }
      responses := by
  obtain ⟨received, ahead, read, follows, taken, frameable, untransferred, whole⟩ := tells.stream
  obtain ⟨queued, clear, finished⟩ := untransferred.finish tells.queued
  obtain ⟨queued, started⟩ := finished.start usb queued clear
  exact ⟨queued, tells.unread, received, ahead, read, follows, taken, frameable, started, whole⟩

/-- **Bytes are transferred.** -/
theorem transfer {left : Bytes} (tells : s.Tells responses) (running : s.inFlight = some left)
    (count : Nat) :
    Tells { s with inFlight := some (left.drop count), incoming := s.incoming ++ left.take count }
      responses := by
  obtain ⟨received, ahead, read, follows, taken, frameable, untransferred, whole⟩ := tells.stream
  rw [running] at untransferred
  cases untransferred with
  | @running sent left later active clear lines =>
      refine ⟨tells.queued, tells.unread, received, left.drop count ++ later.flatten, read, follows,
        taken, frameable,
        @Untransferred.running _ (sent ++ left.take count) _ _ active clear ?_, ?_⟩
      · rw [List.append_assoc, List.take_append_drop]
        exact lines
      · show received ++ (s.incoming ++ left.take count) ++ (left.drop count ++ later.flatten) = _
        rw [← whole, ← List.append_assoc received, List.append_assoc (received ++ s.incoming),
          ← List.append_assoc (left.take count), List.take_append_drop]

/-- **A transfer completes** when its bytes are gone. -/
theorem complete (tells : s.Tells responses) (gone : s.inFlight = some []) :
    Tells { s with transport := cdcTransmitComplete s.transport, inFlight := none } responses := by
  obtain ⟨received, ahead, read, follows, taken, frameable, untransferred, whole⟩ := tells.stream
  rw [gone] at untransferred
  cases untransferred with
  | running active clear lines =>
      exact ⟨tells.queued, tells.unread, received, _, read, follows, taken, frameable,
        .gone active rfl lines, whole⟩

/-- **A response is queued** if it is one line. -/
theorem queueResponse (tells : s.Tells responses) (session : SessionState δ)
    (room : usbCdcTransportCanQueueLine s.transport = true) (response : Option Bytes) :
    Tells { s with
      transport := (queueResponse response ⟨s.transport, session⟩).transport
      session := (Firmware.queueResponse response ⟨s.transport, session⟩).session }
      (responses ++ delivered response) := by
  have below : s.transport.transmitLines.count < usbCdcTransmitQueueDepth := of_decide_eq_true room
  cases response with
  | none =>
      rw [delivered, List.append_nil]
      exact tells.congr (.refl _) rfl rfl rfl
  | some line =>
      rw [delivered]
      split_ifs with one
      · have queued := queueLine_of_isOneLine room one
        obtain ⟨received, ahead, read, follows, taken, frameable, untransferred, whole⟩ :=
          tells.stream
        have after : (Firmware.queueResponse (some line) ⟨s.transport, session⟩).transport =
            { s.transport with
              transmitLines := s.transport.transmitLines.push (transmitted line) } :=
          congrArg Prod.fst queued
        refine ⟨?_, tells.unread, received, ahead ++ transmitted line, read, follows, taken, ?_, ?_,
          ?_⟩
        · rw [after]
          exact tells.queued.push below _
        · intro other listed
          rw [← List.append_assoc] at listed
          rcases List.mem_append.mp listed with earlier | last
          · exact frameable other earlier
          · obtain rfl := List.mem_singleton.mp last
            exact ⟨one.length_le, one.noLineFeed, one.noReturn⟩
        · rw [after]
          exact untransferred.push tells.queued below _
        · have last : ((read ++ responses ++ [line]).map transmitted).flatten =
              ((read ++ responses).map transmitted).flatten ++ transmitted line := by
            rw [List.map_append, List.flatten_append, List.map_singleton, List.flatten_singleton]
          show received ++ s.incoming ++ (ahead ++ transmitted line) = _
          rw [← List.append_assoc, whole, ← List.append_assoc, last]
      · rw [List.append_nil]
        have refused := @queueAccepts_eq s.transport line room
        rw [decide_eq_false one, queueAccepts, usbCdcTransportQueueLine] at refused
        refine tells.congr ?_ rfl rfl rfl
        show SameTransmitSide s.transport (usbCdcTransportQueueLine line s.transport).1
        rw [usbCdcTransportQueueLine]
        split_ifs at refused ⊢
        exact ⟨rfl, rfl, rfl⟩

/-- What one call of `read_line` gives to the tester. -/
inductive Gives (responses : List Bytes) : Except TesterError Bytes → List Bytes → Prop where
  | line {line : Bytes} {later : List Bytes} (first : responses = line :: later) :
      Gives responses (.ok line) later
  | nothing {error : TesterError} (failed : IsConnectionError error) :
      Gives responses (.error error) responses

/-- **A call of `read_line`** gives the first response, or nothing. -/
theorem read {seconds : PyStr} {answers : List ReadAnswer} {later : Bytes}
    {result : Except TesterError Bytes} {connection : Connection} (tells : s.Tells responses)
    (arrived : s.incoming = sentBytes answers ++ later)
    (called : awaitLine seconds answers s.connection = (result, connection))
    (used : connection.reads = []) :
    ∃ responses', Gives responses result responses' ∧
      Tells { s with connection := connection, incoming := later } responses' := by
  obtain ⟨received, ahead, read, follows, taken, frameable, untransferred, whole⟩ := tells.stream
  have ready : Connection.FollowsStream (received ++ sentBytes answers)
      { s.connection with reads := answers } := by
    obtain ⟨⟨before, same, inStep⟩, reports⟩ := follows
    rw [tells.unread, sentBytes, List.append_nil] at same
    exact ⟨⟨before, congrArg (· ++ sentBytes answers) same, inStep⟩, reports⟩
  obtain ⟨follows', _, takes⟩ := awaitLine_follows seconds answers s.connection ready
  rw [called] at follows' takes
  have whole' : received ++ sentBytes answers ++ later ++ ahead =
      ((read ++ responses).map transmitted).flatten := by
    rw [← whole, arrived, List.append_assoc received]
  -- what has been taken is a part of the lines that have been told
  have events : framingEvents maxLineLength ((read ++ responses).map transmitted).flatten =
      (read ++ responses).map .line := framingEvents_of_frames (read ++ responses) frameable
  have initial : connection.taken <+: read.map FramingEvent.line ++ responses.map .line := by
    rw [← List.map_append, ← events, ← whole', List.append_assoc]
    exact follows'.taken_isInitial.trans (framingEvents_isInitial maxLineLength _ _)
  cases result with
  | ok line =>
      have takes : connection.taken = s.connection.taken ++ [.line line] := takes
      rw [takes, taken, List.prefix_append_right_inj] at initial
      cases responses with
      | nil => exact absurd (List.prefix_nil.mp initial) (List.cons_ne_nil _ _)
      | cons first responses =>
          rw [List.map_cons, List.cons_prefix_cons] at initial
          obtain rfl := FramingEvent.line.inj initial.1
          refine ⟨responses, .line rfl, tells.queued, used, _, ahead, read ++ [line], follows', ?_,
            ?_, untransferred, ?_⟩
          · rw [takes, taken, List.map_append, List.map_singleton]
          · rw [List.append_assoc]
            exact frameable
          · rw [List.append_assoc read]
            exact whole'
  | error error =>
      have unchanged : connection.taken = s.connection.taken →
          Tells { s with connection := connection, incoming := later } responses := by
        intro same
        exact ⟨tells.queued, used, _, ahead, read, follows', same.trans taken, frameable,
          untransferred, whole'⟩
      rcases takes with ⟨_, takes⟩ | ⟨rfl | ⟨transport, rfl⟩, takes⟩
      · rw [takes, taken, List.prefix_append_right_inj] at initial
        have listed := initial.subset List.mem_cons_self
        obtain ⟨line, _, wrong⟩ := List.mem_map.mp listed
        cases wrong
      · exact ⟨responses, .nothing .keyboardInterrupt, unchanged takes⟩
      · exact ⟨responses, .nothing (.usbTransport transport), unchanged takes⟩

end Wire.Tells

end FlightComputer
