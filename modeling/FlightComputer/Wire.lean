import FlightComputer.Bench
import FlightComputer.Library.WorldRefinement

/-!
# Tester and firmware over the wire

The two parties with the bytes between them. What the tester writes arrives in packets of any size,
at any moment, also between the pop of a byte and its framing; the main loop of the firmware takes
the bytes out of the raw ring one by one, frames them, starts transfers and lets the session take its
turns; the bytes of a transfer reach the tester bit by bit, and the connection of the tester makes
lines of them. A write of the tester that fails has put any first part of its line on the wire.

The USB stack is not part of the repository. It delivers the bytes of the host in order, accepts a
transfer or not, and calls back when the bytes of the transfer are gone. The device is not enumerated
again while the tester is connected.

A call of `usb_cdc_transport_process` or `session_protocol_process` that no interrupt enters is a
sequence of these moves (`reaches_transportProcess`, `reaches_sessionProcess`).
-/

set_option autoImplicit false

namespace FlightComputer

open Library Firmware BoardTester

variable {δ : Type}

/-- **The wire**: the connection of the tester, the bytes that it has written and that have not
arrived, the transport of the firmware and the byte that its main loop has popped, the session, what
is left of the transfer in flight, the bytes that have been transferred and that the tester has not
read, and the events that the tester has handed to its handlers. -/
structure Wire (δ : Type) where
  connection : Connection
  outgoing : Bytes
  transport : UsbCdcTransport
  popped : Option (UInt8 × Bool)
  session : SessionState δ
  inFlight : Option Bytes
  incoming : Bytes
  handled : List HandledEvent

/-- The wire after a reset of the firmware, with a tester that has just connected. -/
def Wire.initial (port : PyStr) (device : δ) : Wire δ where
  connection := .opened port [] [] [] []
  outgoing := []
  transport := resetTransportState
  popped := none
  session := ⟨componentTestRunnerInitialize, device, []⟩
  inFlight := none
  incoming := []
  handled := []

/-! ## The firmware -/

/-- What happens on the side of the firmware: bytes arrive, the main loop pops a byte, frames it or
serves the transmit queue, bytes are transferred, a transfer completes, or the session takes a
turn. -/
inductive WireMove where
  | arrive (count : Nat)
  | pop
  | frame
  | transmit (usb : UsbdAnswers)
  | transfer (count : Nat)
  | complete
  | turn
  deriving DecidableEq

/-- The transfer in flight after the transmit part of `usb_cdc_transport_process`. -/
def inFlightAfter (handed before : Option Bytes) : Option Bytes :=
  match handed with
  | some bytes => some bytes
  | none => before

/-- **The moves.** Only the callbacks of the stack can come between a pop and the framing of the
popped byte. -/
inductive WireMoves (registry : ComponentTestRegistry δ) (metadata : SessionMetadata) :
    Wire δ → WireMove → Wire δ → Prop where
  | arrive (s : Wire δ) (count : Nat) :
      WireMoves registry metadata s (.arrive count)
        { s with
          outgoing := s.outgoing.drop count
          transport := cdcReceive s.transport (s.outgoing.take count) }
  | pop {s : Wire δ} {transport : UsbCdcTransport} {byte : UInt8} {overflowed : Bool}
      (idle : s.popped = none)
      (taken : popReceivedByte s.transport = (transport, some byte, overflowed)) :
      WireMoves registry metadata s .pop
        { s with transport := transport, popped := some (byte, overflowed) }
  | popEmpty {s : Wire δ} {transport : UsbCdcTransport} {overflowed : Bool} (idle : s.popped = none)
      (taken : popReceivedByte s.transport = (transport, none, overflowed)) :
      WireMoves registry metadata s .pop
        { s with transport := discardIfOverflowed overflowed transport }
  | frame {s : Wire δ} {byte : UInt8} {overflowed : Bool} (taken : s.popped = some (byte, overflowed)) :
      WireMoves registry metadata s .frame
        { s with transport := frameReceivedByte byte overflowed s.transport, popped := none }
  | transmit {s : Wire δ} (idle : s.popped = none) (usb : UsbdAnswers) :
      WireMoves registry metadata s (.transmit usb)
        { s with
          transport := (startPendingTransmission usb (finishCompletedTransmission s.transport)).1
          inFlight := inFlightAfter
            (startPendingTransmission usb (finishCompletedTransmission s.transport)).2 s.inFlight }
  | transfer {s : Wire δ} {left : Bytes} (running : s.inFlight = some left) (count : Nat) :
      WireMoves registry metadata s (.transfer count)
        { s with inFlight := some (left.drop count), incoming := s.incoming ++ left.take count }
  | complete {s : Wire δ} (gone : s.inFlight = some []) :
      WireMoves registry metadata s .complete
        { s with transport := cdcTransmitComplete s.transport, inFlight := none }
  | turn {s : Wire δ} {t : SessionSystem δ} (idle : s.popped = none)
      (turned : SessionTurn registry metadata ⟨s.transport, s.session⟩ t) :
      WireMoves registry metadata s .turn { s with transport := t.transport, session := t.session }

/-! ## The tester -/

/-- **The replies to the tester**: what `write_line` and `read_line` do on its connection, with the
bytes that the wire takes and gives. -/
inductive WireReplies : Wire δ → (operation : TesterOperation) → operation.Reply → Wire δ → Prop where
  | written {s : Wire δ} {payload frame : Bytes} {seconds : PyStr} {answers later : List WriteAnswer}
      (encoded : encodeLine payload maxLineLength = .ok frame)
      (accepted : writeFrame s.connection.port seconds answers frame = (.ok (), later)) :
      WireReplies s (.writeLine payload seconds) (Except.ok ())
        { s with outgoing := s.outgoing ++ frame }
  | notWritten {s : Wire δ} {payload frame : Bytes} {seconds : PyStr}
      {answers later : List WriteAnswer} {error : TesterError}
      (encoded : encodeLine payload maxLineLength = .ok frame)
      (failed : writeFrame s.connection.port seconds answers frame = (.error error, later))
      (count : Nat) :
      WireReplies s (.writeLine payload seconds) (Except.error error)
        { s with outgoing := s.outgoing ++ frame.take count }
  | notEncoded {s : Wire δ} {payload : Bytes} {seconds : PyStr} {error : FramingError}
      (refused : encodeLine payload maxLineLength = .error error) :
      WireReplies s (.writeLine payload seconds) (Except.error (.framing error)) s
  | read {s : Wire δ} {seconds : PyStr} {answers : List ReadAnswer} {later : Bytes}
      {result : Except TesterError Bytes} {connection : Connection}
      (arrived : s.incoming = sentBytes answers ++ later)
      (called : awaitLine seconds answers s.connection = (result, connection))
      (used : connection.reads = []) :
      WireReplies s (.readLine seconds) result
        { s with connection := connection, incoming := later }
  | asked (s : Wire δ) (question : OperatorQuestion) (answer : question.Reply) :
      WireReplies s (.ask question) answer s
  | handles (s : Wire δ) (commandId : Int) (testType : PyStr)
      (event : BoardTester.ComponentTestEvent) :
      WireReplies s (.handles commandId testType event) ()
        { s with handled := s.handled ++ [⟨commandId, testType, event⟩] }
  | completes (s : Wire δ) (commandId : Int) (testType : PyStr)
      (completion : ComponentTestCompletion) :
      WireReplies s (.completes commandId testType completion) () s
  | rounds (s : Wire δ) (bound : Nat) : WireReplies s .rounds bound s

/-- The world of the tester: the firmware behind the wire. -/
def wire (registry : ComponentTestRegistry δ) (metadata : SessionMetadata) :
    World (Wire δ) WireMove TesterOperation TesterOperation.Reply where
  moves := WireMoves registry metadata
  replies := WireReplies

/-! ## Calls of the main loop -/

section MainLoop

variable {registry : ComponentTestRegistry δ} {metadata : SessionMetadata}

/-- The receive part of a call of `usb_cdc_transport_process`. -/
theorem reaches_processReceivedBytesLoop (bound : Nat) {s : Wire δ} (idle : s.popped = none) :
    (wire registry metadata).Reaches s
      { s with transport := processReceivedBytesLoop bound s.transport } := by
  induction bound generalizing s with
  | zero => exact .refl s
  | succ bound ih =>
      rw [processReceivedBytesLoop]
      rcases taken : popReceivedByte s.transport with ⟨after, _ | byte, overflowed⟩
      · exact .head (.popEmpty idle taken) (.refl _)
      · have later := @ih { s with transport := frameReceivedByte byte overflowed after } idle
        obtain ⟨connection, outgoing, transport, popped, session, inFlight, incoming, handled⟩ := s
        obtain rfl := idle
        exact .head (.pop rfl taken) (.head (.frame rfl) later)

/-- **A call of `usb_cdc_transport_process`** that no interrupt enters. -/
theorem reaches_transportProcess (usb : UsbdAnswers) {s : Wire δ} (idle : s.popped = none) :
    (wire registry metadata).Reaches s
      { s with
        transport := (usbCdcTransportProcess usb s.transport).1
        inFlight := inFlightAfter (usbCdcTransportProcess usb s.transport).2 s.inFlight } := by
  obtain ⟨moves, run⟩ := @reaches_processReceivedBytesLoop δ registry metadata
    (rawReceiveCount s.transport + 1) s idle
  have last := @WireMoves.transmit δ registry metadata
    { s with transport := processReceivedBytes s.transport } idle usb
  exact ⟨_, run.tail last⟩

/-- **A call of `session_protocol_process`** that no interrupt enters. -/
theorem reaches_sessionProcess {s : Wire δ} (idle : s.popped = none) {t : SessionSystem δ}
    (returned : sessionProtocolProcess registry metadata ⟨s.transport, s.session⟩ = some t) :
    (wire registry metadata).Reaches s
      { s with transport := t.transport, session := t.session } := by
  refine sessionProtocolProcess_preserves (I := fun t : SessionSystem δ =>
    (wire registry metadata).Reaches s { s with transport := t.transport, session := t.session })
    ?_ (.refl s) returned
  rintro middle last ⟨moves, run⟩ turned
  exact ⟨_, run.tail (.turn idle turned)⟩

end MainLoop

/-! ## Performing a schedule -/

section Schedule

variable (registry : ComponentTestRegistry δ) (metadata : SessionMetadata)

/-- What happens on the wire: a packet arrives, the main loop calls one of its two functions, bytes
of the transfer are gone, it completes, or the tester performs its operation. -/
inductive WireEvent where
  | arrive (count : Nat)
  | transportProcess (usb : UsbdAnswers)
  | sessionProcess
  | transfer (count : Nat)
  | complete
  | tester (answer : Option PyStr)

/-- An event on the side of the firmware, if it can happen. -/
def performOnFirmware (s : Wire δ) : WireEvent → Option (Wire δ)
  | .arrive count =>
      some { s with
        outgoing := s.outgoing.drop count
        transport := cdcReceive s.transport (s.outgoing.take count) }
  | .transportProcess usb =>
      if s.popped.isNone then
        let processed := usbCdcTransportProcess usb s.transport
        some { s with
          transport := processed.1
          inFlight := inFlightAfter processed.2 s.inFlight }
      else none
  | .sessionProcess =>
      if s.popped.isNone then
        (sessionProtocolProcess registry metadata ⟨s.transport, s.session⟩).map fun t =>
          { s with transport := t.transport, session := t.session }
      else none
  | .transfer count =>
      s.inFlight.map fun left =>
        { s with inFlight := some (left.drop count), incoming := s.incoming ++ left.take count }
  | .complete =>
      match s.inFlight with
      | some [] => some { s with transport := cdcTransmitComplete s.transport, inFlight := none }
      | _ => none
  | .tester _ => none

/-- An operation of the tester on which nothing fails: the wire takes a line whole, and everything
that has been transferred is read at once. -/
def performOnConnection (answer : Option PyStr) (s : Wire δ) :
    (operation : TesterOperation) → Option (operation.Reply × Wire δ)
  | .writeLine payload _ =>
      match encodeLine payload maxLineLength with
      | .ok frame => some (Except.ok (), { s with outgoing := s.outgoing ++ frame })
      | .error _ => none
  | .readLine seconds =>
      let called := awaitLine seconds [.chunk s.incoming] s.connection
      if called.2.reads.isEmpty then
        some (called.1, { s with connection := called.2, incoming := [] })
      else none
  | .ask .promptYesNo => some (Except.ok true, s)
  | .ask .pollAnswer => some (answer, s)
  | .handles commandId testType event =>
      some ((), { s with handled := s.handled ++ [⟨commandId, testType, event⟩] })
  | .completes _ _ _ => some ((), s)
  | .rounds => some ((8 : Nat), s)
  | .unfinished => none

/-- An event on the wire. -/
def performWireEvent {α : Type} (s : Wire δ × Dialogue TesterOperation TesterOperation.Reply α)
    (event : WireEvent) : Option (Wire δ × Dialogue TesterOperation TesterOperation.Reply α) :=
  match event with
  | .tester answer =>
      match s.2 with
      | .done _ => none
      | .call operation next =>
          (performOnConnection answer s.1 operation).map fun replied => (replied.2, next replied.1)
  | event => (performOnFirmware registry metadata s.1 event).map fun t => (t, s.2)

variable {registry metadata}

theorem reaches_of_performOnFirmware {s t : Wire δ} {event : WireEvent}
    (performed : performOnFirmware registry metadata s event = some t) :
    (wire registry metadata).Reaches s t := by
  cases event with
  | arrive count =>
      cases performed
      exact .head (.arrive s count) (.refl _)
  | transportProcess usb =>
      rw [performOnFirmware] at performed
      split_ifs at performed with idle
      cases performed
      exact reaches_transportProcess usb (Option.isNone_iff_eq_none.mp idle)
  | sessionProcess =>
      rw [performOnFirmware] at performed
      split_ifs at performed with idle
      obtain ⟨t, returned, rfl⟩ := Option.map_eq_some_iff.mp performed
      exact reaches_sessionProcess (Option.isNone_iff_eq_none.mp idle) returned
  | transfer count =>
      obtain ⟨left, running, rfl⟩ := Option.map_eq_some_iff.mp performed
      exact .head (.transfer running count) (.refl _)
  | complete =>
      rw [performOnFirmware] at performed
      split at performed
      · next gone =>
          cases performed
          exact .head (.complete gone) (.refl _)
      · cases performed
  | tester answer => cases performed

/-- A wire that takes everything takes a line whole. -/
theorem writeFrame_whole (port seconds : PyStr) (frame : Bytes) :
    writeFrame port seconds [.accepted (some frame.length)] frame =
      (.ok (), if frame = [] then [.accepted (some 0)] else []) := by
  cases frame with
  | nil => rfl
  | cons byte frame =>
      rw [if_neg (List.cons_ne_nil byte frame), List.length_cons, writeFrame, List.drop_succ_cons,
        List.drop_length, writeFrame]

theorem replies_of_performOnConnection {s t : Wire δ} {answer : Option PyStr}
    {operation : TesterOperation} {reply : operation.Reply}
    (performed : performOnConnection answer s operation = some (reply, t)) :
    WireReplies s operation reply t := by
  cases operation with
  | writeLine payload seconds =>
      rw [performOnConnection] at performed
      cases encoded : encodeLine payload maxLineLength with
      | ok frame =>
          rw [encoded] at performed
          cases performed
          exact .written encoded (writeFrame_whole _ seconds frame)
      | error error =>
          rw [encoded] at performed
          cases performed
  | readLine seconds =>
      rw [performOnConnection] at performed
      split_ifs at performed with used
      cases performed
      refine .read ?_ rfl (List.isEmpty_iff.mp used)
      simp only [sentBytes, List.append_nil]
  | ask question =>
      cases question with
      | promptYesNo =>
          cases performed
          exact .asked _ _ _
      | pollAnswer =>
          cases performed
          exact .asked _ _ _
  | handles commandId testType event =>
      cases performed
      exact .handles _ _ _ _
  | completes commandId testType completion =>
      cases performed
      exact .completes _ _ _ _
  | rounds =>
      cases performed
      exact .rounds _ _
  | unfinished => cases performed

/-- **A schedule that is performed is a run** over the wire. -/
theorem exists_wireRun_of_performed {α : Type}
    {first last : Wire δ × Dialogue TesterOperation TesterOperation.Reply α}
    {events : List WireEvent}
    (performed : events.foldlM (performWireEvent registry metadata) first = some last) :
    ∃ turns, Run (wire registry metadata).Step first turns last := by
  induction events generalizing first with
  | nil =>
      obtain rfl := Option.some.inj performed
      exact ⟨[], .refl first⟩
  | cons event events ih =>
      obtain ⟨middle, one, later⟩ := Option.bind_eq_some_iff.mp performed
      obtain ⟨turns, run⟩ := ih later
      obtain ⟨s, dialogue⟩ := first
      rw [performWireEvent.eq_def] at one
      dsimp only at one
      split at one
      · cases dialogue with
        | done value => cases one
        | call operation next =>
            obtain ⟨⟨reply, t⟩, replied, rfl⟩ := Option.map_eq_some_iff.mp one
            exact ⟨_, .head (.own (replies_of_performOnConnection replied)) run⟩
      · obtain ⟨t, moved, rfl⟩ := Option.map_eq_some_iff.mp one
        obtain ⟨earlier, run'⟩ := (reaches_of_performOnFirmware moved).exists_run dialogue
        exact ⟨_, run'.trans run⟩

end Schedule

end FlightComputer
