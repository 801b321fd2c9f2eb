import FlightComputer.BoardTester.HandlerDialogues
import FlightComputer.Firmware.Backpressure

/-!
# Tester and firmware on a bench

The tester and the session layer of the firmware as two parties over two channels that lose,
change and reorder no line. The firmware takes a request and answers it, or updates its active
test; the tester is a dialogue. Between any two operations of the tester the firmware may make any
number of moves, and it may wait as long as it likes.

The moves are the turns of the session layer over its transport (`firmwareMoves_of_turn`). The
channels hold any number of lines, so that no move waits for room in the transmit queue: every
order in which the firmware can take its turns is an order here.
-/

set_option autoImplicit false

namespace FlightComputer

open Library Firmware BoardTester

variable {δ : Type}

/-- An event that the tester has handed to a handler, with the command and the test. -/
structure HandledEvent where
  commandId : Int
  testType : PyStr
  event : BoardTester.ComponentTestEvent

/-- **The bench**: the lines that the tester has written and the firmware has not taken, the session
of the firmware, the lines that the firmware has queued and the tester has not read, and the
events that the tester has handed to its handlers. -/
structure Bench (δ : Type) where
  requests : List Bytes
  session : SessionState δ
  responses : List Bytes
  handled : List HandledEvent

/-- The bench after a reset of the firmware, with a tester that has just connected. -/
def Bench.initial (device : δ) : Bench δ where
  requests := []
  session := ⟨componentTestRunnerInitialize, device, []⟩
  responses := []
  handled := []

instance (text : Bytes) : Decidable (IsOneLine text) :=
  decidable_of_iff
    (text.length ≤ newlineFramerMaxLineLength ∧ lineFeed ∉ text ∧ carriageReturn ∉ text)
    ⟨fun one => ⟨one.1, one.2.1, one.2.2⟩, fun one => ⟨one.length_le, one.noLineFeed, one.noReturn⟩⟩

/-- What the tester gets of a response: it if it is one line. -/
def delivered : Option Bytes → List Bytes
  | none => []
  | some line => if IsOneLine line then [line] else []

/-- The firmware queues what is one line. -/
def Bench.respond (response : Option Bytes) (s : Bench δ) : Bench δ :=
  { s with
    session := { s.session with
      actions := s.session.actions ++
        responseActions (response.map fun line => (line, decide (IsOneLine line))) }
    responses := s.responses ++ delivered response }

/-! ## The firmware -/

/-- The moves of the firmware. -/
inductive FirmwareMove where
  | line
  | component
  deriving DecidableEq

/-- **What the firmware does**: it takes a request and answers it, or it updates its active
test. -/
inductive FirmwareMoves (registry : ComponentTestRegistry δ) (metadata : SessionMetadata) :
    Bench δ → FirmwareMove → Bench δ → Prop where
  | line {s : Bench δ} {line : Bytes} {later : List Bytes} {response : Option Bytes}
      {session : SessionState δ} (waiting : s.requests = line :: later)
      (answer : LineAnswer registry metadata line (s.session.record (.request line)) response
        session) :
      FirmwareMoves registry metadata s .line
        (Bench.respond response { s with requests := later, session := session })
  | component {s : Bench δ} {definition : ComponentTestDefinition δ} {response : Option Bytes}
      {session : SessionState δ} (active : s.session.runner.activeDefinition = some definition)
      (update : ComponentUpdate definition s.session response session) :
      FirmwareMoves registry metadata s .component
        (Bench.respond response { s with session := session })

/-- **A queue with room accepts exactly what is one line.** -/
theorem queueAccepts_eq {transport : UsbCdcTransport} {line : Bytes}
    (room : usbCdcTransportCanQueueLine transport = true) :
    queueAccepts transport line = decide (IsOneLine line) := by
  by_cases one : IsOneLine line
  · rw [queueAccepts, queueLine_of_isOneLine room one, decide_eq_true one]
  · rw [queueAccepts, usbCdcTransportQueueLine, if_pos, decide_eq_false one]
    by_contra accepted
    simp only [not_or, Nat.not_lt] at accepted
    exact one ⟨accepted.1, accepted.2.2.1, accepted.2.2.2⟩

/-- What the transport queues is what the bench delivers. -/
theorem queueResponse_contents {s : SessionSystem δ} (consistent : s.transport.transmitLines.Consistent)
    (room : usbCdcTransportCanQueueLine s.transport = true) (response : Option Bytes) :
    (queueResponse response s).transport.transmitLines.contents =
      s.transport.transmitLines.contents ++ (delivered response).map transmitted := by
  cases response with
  | none => exact (List.append_nil _).symm
  | some line =>
      have below : s.transport.transmitLines.count < usbCdcTransmitQueueDepth :=
        of_decide_eq_true room
      show (usbCdcTransportQueueLine line s.transport).1.transmitLines.contents = _
      rw [delivered]
      split_ifs with one
      · rw [queueLine_of_isOneLine room one]
        exact consistent.contents_push below _
      · have refused := @queueAccepts_eq s.transport line room
        rw [decide_eq_false one, queueAccepts, usbCdcTransportQueueLine] at refused
        rw [usbCdcTransportQueueLine]
        split_ifs at refused ⊢ with refusing
        exact (List.append_nil _).symm

/-- **The moves are the turns of the session layer.** A turn over the transport is a move on every
bench with the same session where, if it is about a line, this line is the next request; the bench
delivers what the transport queues. -/
theorem firmwareMoves_of_turn {registry : ComponentTestRegistry δ} {metadata : SessionMetadata}
    {s t : SessionSystem δ} (consistent : s.transport.transmitLines.Consistent)
    (turn : SessionTurn registry metadata s t) :
    ∃ move : FirmwareMove, ∃ taken added : List Bytes,
      (∀ later responses handled,
        FirmwareMoves registry metadata ⟨taken ++ later, s.session, responses, handled⟩ move
          ⟨later, t.session, responses ++ added, handled⟩) ∧
      (∀ line, taken = [line] → (usbCdcTransportReadLine sessionProtocolLineCapacity
        s.transport).2 = .available line) ∧
      t.transport.transmitLines.contents =
        s.transport.transmitLines.contents ++ added.map transmitted := by
  have responds : ∀ (transport : UsbCdcTransport) (session : SessionState δ)
      (response : Option Bytes) (requests responses : List Bytes) (handled : List HandledEvent),
      usbCdcTransportCanQueueLine transport = true →
      Bench.respond response ⟨requests, session, responses, handled⟩ =
        ⟨requests, (queueResponse response ⟨transport, session⟩).session,
          responses ++ delivered response, handled⟩ := by
    intro transport session response requests responses handled room
    rw [queueResponse_session]
    simp only [Bench.respond, queueAccepts_eq room]
  cases turn with
  | @line transport line response session room read answer =>
      have room' : usbCdcTransportCanQueueLine transport = true :=
        (canQueueLine_readLine read).trans room
      have same : transport.transmitLines = s.transport.transmitLines := by
        rw [usbCdcTransportReadLine] at read
        dsimp only at read
        split_ifs at read
        all_goals
          obtain ⟨rfl, _⟩ := Prod.mk.inj read
          rfl
      refine ⟨.line, [line], delivered response, fun later responses handled => ?_, ?_, ?_⟩
      · rw [← responds transport session response later responses handled room']
        exact .line rfl answer
      · rintro _ ⟨⟩
        rw [read]
      · rw [@queueResponse_contents δ ⟨transport, session⟩ (same ▸ consistent) room' response]
        exact congrArg (fun lines => lines.contents ++ _) same
  | @component definition response session room active update =>
      refine ⟨.component, [], delivered response, fun later responses handled => ?_, ?_, ?_⟩
      · rw [← responds s.transport session response later responses handled room]
        exact .component active update
      · rintro _ ⟨⟩
      · exact @queueResponse_contents δ ⟨s.transport, session⟩ consistent room response

/-! ## The tester -/

/-- The exceptions of an operation on the connection. -/
inductive IsConnectionError : TesterError → Prop where
  | usbTransport (error : UsbTransportError) : IsConnectionError (.usbTransport error)
  | keyboardInterrupt : IsConnectionError .keyboardInterrupt
  | framing (error : FramingError) : IsConnectionError (.framing error)

/-- **The replies to the tester.** A line that can be written arrives; an exception may come instead
of a line that waits, or after a line that has been written. The operator answers anything. -/
inductive TesterReplies : Bench δ → (operation : TesterOperation) → operation.Reply → Bench δ →
    Prop where
  | written {s : Bench δ} {payload frame : Bytes} {seconds : PyStr}
      (encoded : encodeLine payload maxLineLength = .ok frame) :
      TesterReplies s (.writeLine payload seconds) (Except.ok ())
        { s with requests := s.requests ++ [payload] }
  | writtenLate {s : Bench δ} {payload frame : Bytes} {seconds : PyStr} {error : TesterError}
      (encoded : encodeLine payload maxLineLength = .ok frame) (failed : IsConnectionError error) :
      TesterReplies s (.writeLine payload seconds) (Except.error error)
        { s with requests := s.requests ++ [payload] }
  | notWritten {s : Bench δ} {payload : Bytes} {seconds : PyStr} {error : TesterError}
      (failed : IsConnectionError error) :
      TesterReplies s (.writeLine payload seconds) (Except.error error) s
  | read {s : Bench δ} {line : Bytes} {later : List Bytes} {seconds : PyStr}
      (waiting : s.responses = line :: later) :
      TesterReplies s (.readLine seconds) (Except.ok line) { s with responses := later }
  | notRead {s : Bench δ} {seconds : PyStr} {error : TesterError}
      (failed : IsConnectionError error) :
      TesterReplies s (.readLine seconds) (Except.error error) s
  | asked (s : Bench δ) (question : OperatorQuestion) (answer : question.Reply) :
      TesterReplies s (.ask question) answer s
  | handles (s : Bench δ) (commandId : Int) (testType : PyStr)
      (event : BoardTester.ComponentTestEvent) :
      TesterReplies s (.handles commandId testType event) ()
        { s with handled := s.handled ++ [⟨commandId, testType, event⟩] }
  | completes (s : Bench δ) (commandId : Int) (testType : PyStr)
      (completion : ComponentTestCompletion) :
      TesterReplies s (.completes commandId testType completion) () s
  | rounds (s : Bench δ) (bound : Nat) : TesterReplies s .rounds bound s

/-- The world of the tester: the firmware behind two channels. -/
def bench (registry : ComponentTestRegistry δ) (metadata : SessionMetadata) :
    World (Bench δ) FirmwareMove TesterOperation TesterOperation.Reply where
  moves := FirmwareMoves registry metadata
  replies := TesterReplies

/-! ## Performing a schedule -/

section Schedule

variable (registry : ComponentTestRegistry δ) (metadata : SessionMetadata)

/-- A move of the firmware, if there is something to do. -/
def performMove (s : Bench δ) : FirmwareMove → Option (Bench δ)
  | .line =>
      match s.requests with
      | [] => none
      | line :: later =>
          (processLine registry metadata line (s.session.record (.request line))).map fun answered =>
            Bench.respond answered.1 { s with requests := later, session := answered.2 }
  | .component =>
      if s.session.runner.isRunning then
        (processComponent s.session).map fun processed =>
          Bench.respond processed.1 { s with session := processed.2 }
      else none

/-- An operation of the tester on which nothing fails, with the answer of the operator to a
poll. -/
def performOperation (answer : Option PyStr) (s : Bench δ) :
    (operation : TesterOperation) → Option (operation.Reply × Bench δ)
  | .writeLine payload _ =>
      match encodeLine payload maxLineLength with
      | .ok _ => some (Except.ok (), { s with requests := s.requests ++ [payload] })
      | .error _ => none
  | .readLine _ =>
      match s.responses with
      | [] => none
      | line :: later => some (Except.ok line, { s with responses := later })
  | .ask .promptYesNo => some (Except.ok true, s)
  | .ask .pollAnswer => some (answer, s)
  | .handles commandId testType event =>
      some ((), { s with handled := s.handled ++ [⟨commandId, testType, event⟩] })
  | .completes _ _ _ => some ((), s)
  | .rounds => some ((8 : Nat), s)
  | .unfinished => none

/-- What happens on the bench. -/
inductive BenchEvent where
  | firmware (move : FirmwareMove)
  | tester (answer : Option PyStr)

/-- An event on the bench. -/
def performBenchEvent {α : Type} (s : Bench δ × Dialogue TesterOperation TesterOperation.Reply α) :
    BenchEvent → Option (Bench δ × Dialogue TesterOperation TesterOperation.Reply α)
  | .firmware move => (performMove registry metadata s.1 move).map fun t => (t, s.2)
  | .tester answer =>
      match s.2 with
      | .done _ => none
      | .call operation next =>
          (performOperation answer s.1 operation).map fun replied => (replied.2, next replied.1)

variable {registry metadata}

theorem moves_of_performMove {s t : Bench δ} {move : FirmwareMove}
    (performed : performMove registry metadata s move = some t) :
    FirmwareMoves registry metadata s move t := by
  cases move with
  | line =>
      cases waiting : s.requests with
      | nil =>
          rw [performMove, waiting] at performed
          cases performed
      | cons line later =>
          rw [performMove, waiting] at performed
          obtain ⟨⟨response, session⟩, answered, rfl⟩ := Option.map_eq_some_iff.mp performed
          exact .line waiting (processLine_answers answered)
  | component =>
      rw [performMove] at performed
      split_ifs at performed with running
      obtain ⟨⟨response, session⟩, processed, rfl⟩ := Option.map_eq_some_iff.mp performed
      obtain ⟨definition, active⟩ := Option.isSome_iff_exists.mp running
      exact .component active (processComponent_updates active processed)

theorem replies_of_performOperation {s t : Bench δ} {answer : Option PyStr}
    {operation : TesterOperation} {reply : operation.Reply}
    (performed : performOperation answer s operation = some (reply, t)) :
    TesterReplies s operation reply t := by
  cases operation with
  | writeLine payload seconds =>
      rw [performOperation] at performed
      cases encoded : encodeLine payload maxLineLength with
      | ok frame =>
          rw [encoded] at performed
          cases performed
          exact .written encoded
      | error error =>
          rw [encoded] at performed
          cases performed
  | readLine seconds =>
      rw [performOperation] at performed
      cases waiting : s.responses with
      | nil =>
          rw [waiting] at performed
          cases performed
      | cons line later =>
          rw [waiting] at performed
          cases performed
          exact .read waiting
  | ask question =>
      cases question with
      | promptYesNo =>
          cases performed
          exact .asked _ _ _
      | pollAnswer =>
          cases performed
          exact .asked _ _ _
  | handles commandId testType event =>
      cases performed
      exact .handles _ _ _ _
  | completes commandId testType completion =>
      cases performed
      exact .completes _ _ _ _
  | rounds =>
      cases performed
      exact .rounds _ _
  | unfinished => cases performed

/-- **A schedule that is performed is a run.** -/
theorem exists_run_of_performed {α : Type}
    {first last : Bench δ × Dialogue TesterOperation TesterOperation.Reply α}
    {events : List BenchEvent}
    (performed : events.foldlM (performBenchEvent registry metadata) first = some last) :
    ∃ turns, Run (bench registry metadata).Step first turns last := by
  induction events generalizing first with
  | nil =>
      obtain rfl := Option.some.inj performed
      exact ⟨[], .refl first⟩
  | cons event events ih =>
      obtain ⟨middle, one, later⟩ := Option.bind_eq_some_iff.mp performed
      obtain ⟨turns, run⟩ := ih later
      obtain ⟨s, dialogue⟩ := first
      cases event with
      | firmware move =>
          obtain ⟨t, moved, rfl⟩ := Option.map_eq_some_iff.mp one
          exact ⟨_, .head (.other (moves_of_performMove moved)) run⟩
      | tester answer =>
          cases dialogue with
          | done value => cases one
          | call operation next =>
              obtain ⟨⟨reply, t⟩, replied, rfl⟩ := Option.map_eq_some_iff.mp one
              exact ⟨_, .head (.own (replies_of_performOperation replied)) run⟩

end Schedule

end FlightComputer
