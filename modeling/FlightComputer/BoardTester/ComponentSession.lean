import FlightComputer.BoardTester.Connection

/-!
# Exchanges with the device

`start_test` (`session.py`), `run_component_test` and `stop_component_test`
(`component_session.py`). Texts that are nested too deeply for the interpreter make
`json.loads` raise `RecursionError`; which ones these are is a parameter.

Every exchange ends, and an exception with which it ends is one that the runner foresees,
unless the line that has been taken last is over-long or nested too deeply
(`triple_startTest`, `triple_runComponentTest`, `triple_stopComponentTest`).
-/

set_option autoImplicit false

namespace FlightComputer.BoardTester

open Library Raising

/-! ## Messages -/

/-- Whether the text of a line is nested too deeply. -/
def isTooDeep (tooDeep : PyStr → Bool) (line : Bytes) : Bool := (decodeUtf8 line).any tooDeep

/-- A decoder, on a line that may be nested too deeply. -/
def decodeLine {α : Type} (tooDeep : PyStr → Bool) (decode : Bytes → Except ProtocolMessageError α)
    (line : Bytes) : Except TesterError α :=
  if isTooDeep tooDeep line then .error .recursion
  else (decode line).mapError TesterError.protocolMessage

/-- A line is read and decoded. -/
def readMessage {α : Type} (tooDeep : PyStr → Bool) (seconds : PyStr)
    (decode : Bytes → Except ProtocolMessageError α) : ConnectionCall α := do
  let line ← readLine seconds
  settle (decodeLine tooDeep decode line)

/-- A request is encoded and written. -/
def sendRequest (encoded : Except ValueError Bytes) (seconds : PyStr) : ConnectionCall Unit :=
  match encoded with
  | .ok payload => writeLine payload seconds
  | .error error => throw (.value error)

/-- `ProtocolMessageError`, with its message. -/
def protocolError (message : String) : TesterError := .protocolMessage (.text (pyStr message))

/-- `START_TEST_COMMAND_ID` -/
def startTestCommandId : Int := 1

/-- `START_TEST_WRITE_TIMEOUT_SECONDS` and `COMPONENT_TEST_WRITE_TIMEOUT_SECONDS` -/
def writeTimeoutSeconds : PyStr := pyStr "1"

/-- `START_TEST_RESPONSE_TIMEOUT_SECONDS`, `COMPONENT_TEST_STARTED_TIMEOUT_SECONDS` and
`COMPONENT_TEST_READ_SLICE_SECONDS` -/
def readTimeoutSeconds : PyStr := pyStr "2"

/-- `start_test` -/
def startTest (tooDeep : PyStr → Bool) (testUuid : UUID) : ConnectionCall StartTestResponse := do
  sendRequest (encodeStartTest startTestCommandId testUuid) writeTimeoutSeconds
  readMessage tooDeep readTimeoutSeconds fun line => decodeStartTestResponse line startTestCommandId

/-- Whether a message acknowledges a request. -/
def ComponentTestMessage.acknowledges (messageType : PyStr) : ComponentTestMessage → Bool
  | .acknowledgement received => decide (received = messageType)
  | _ => false

/-- `stop_component_test` -/
def stopComponentTest (tooDeep : PyStr → Bool) (commandId : Int) (testType : PyStr) :
    ConnectionCall Unit := do
  sendRequest (encodeStopComponentTest commandId) writeTimeoutSeconds
  let response ← readMessage tooDeep readTimeoutSeconds fun line =>
    decodeComponentTestMessage line commandId testType
  if response.acknowledges (pyStr "TEST_STOPPED") then pure ()
  else throw (protocolError "component test did not acknowledge TEST_STOPPED")

/-- `UsbTimeoutError` -/
def TesterError.isTimeout : TesterError → Bool
  | .usbTransport error => decide (error.kind = .timeout)
  | _ => false

section Workflow

variable {σ : Type} (tooDeep : PyStr → Bool) (commandId : Int) (testType : PyStr)
  (onEvent : σ → ComponentTestEvent → ConnectionCall (σ × Option ComponentTestCompletion))

/-- The loop of `run_component_test`, with a bound for its rounds and the state of the
handler. -/
def receiveMessages : Nat → σ → ConnectionCall (σ × ComponentTestCompletion)
  | 0, _ => fun _ => none
  | rounds + 1, handler => do
      let received ← attempt (readMessage tooDeep readTimeoutSeconds fun line =>
        decodeComponentTestMessage line commandId testType)
      match received with
      | .ok (.event event) => do
          let answered ← onEvent handler event
          match answered.2 with
          | some completion => pure (answered.1, completion)
          | none => receiveMessages rounds answered.1
      | .ok (.completion completion) => pure (handler, completion)
      | .ok (.acknowledgement _) =>
          throw (protocolError "unexpected component lifecycle acknowledgement")
      | .error error => if error.isTimeout then receiveMessages rounds handler else throw error

/-- The part of `run_component_test` once the test has been started. -/
def awaitCompletion (onStarted : ConnectionCall (Option ComponentTestCompletion)) (handler : σ) :
    ConnectionCall (σ × ComponentTestCompletion) := do
  match ← onStarted with
  | some completion => pure (handler, completion)
  | none => do
      let connection ← get
      receiveMessages tooDeep commandId testType onEvent (connection.budget + 1) handler

/-- `run_component_test` -/
def runComponentTest (parameters : Option (List (PyStr × Int)))
    (onStarted : ConnectionCall (Option ComponentTestCompletion)) (handler : σ) :
    ConnectionCall (σ × ComponentTestCompletion) := do
  sendRequest (encodeRunComponentTest commandId testType parameters) writeTimeoutSeconds
  let first ← readMessage tooDeep readTimeoutSeconds fun line =>
    decodeComponentTestMessage line commandId testType
  if first.acknowledges (pyStr "TEST_STARTED") then
    awaitCompletion tooDeep commandId testType onEvent onStarted handler
  else throw (protocolError "component test did not acknowledge TEST_STARTED")

end Workflow

/-! ## Unforeseen exceptions -/

/-- What the tester can digest: a line that is neither over-long nor nested too deeply. -/
def Digestible (tooDeep : PyStr → Bool) : FramingEvent → Prop
  | .line line => isTooDeep tooDeep line = false
  | .tooLong => False

/-- An exception that reading raises and that the runner does not foresee. -/
def TesterError.Unforeseen : TesterError → Prop
  | .recursion => True
  | .framing error => error = incomingLineTooLong maxLineLength
  | _ => False

/-- The connection is in step with the byte stream, and no exchange has failed yet. -/
structure Connection.InStep (stream : Bytes) (connection : Connection) : Prop where
  follows : connection.FollowsStream stream
  undisturbed : connection.raised = none ∨ connection.raised = some .keyboardInterrupt

/-- **Everything that has been taken is digestible.** -/
structure Connection.Quiet (tooDeep : PyStr → Bool) (stream : Bytes) (connection : Connection) :
    Prop extends Connection.InStep stream connection where
  digestible : ∀ event ∈ connection.taken, Digestible tooDeep event

/-- **An exception has been raised**, an unforeseen one exactly if something indigestible has
been taken. -/
structure Connection.Disturbed (tooDeep : PyStr → Bool) (stream : Bytes) (error : TesterError)
    (connection : Connection) : Prop extends Connection.InStep stream connection where
  cause : error.Unforeseen ↔ ∃ event ∈ connection.taken, ¬Digestible tooDeep event

section Exchanges

variable {tooDeep : PyStr → Bool} {stream : Bytes} {connection : Connection} {error : TesterError}

/-- Any other exception leaves the connection as it is. -/
theorem Connection.Quiet.disturbed (quiet : connection.Quiet tooDeep stream)
    (foreseen : ¬error.Unforeseen) : connection.Disturbed tooDeep stream error where
  toInStep := quiet.toInStep
  cause := iff_of_false foreseen fun ⟨event, listed, indigestible⟩ =>
    indigestible (quiet.digestible event listed)

theorem Connection.Disturbed.quiet (disturbed : connection.Disturbed tooDeep stream error)
    (foreseen : ¬error.Unforeseen) : connection.Quiet tooDeep stream where
  toInStep := disturbed.toInStep
  digestible event listed := by
    by_contra indigestible
    exact foreseen (disturbed.cause.mpr ⟨event, listed, indigestible⟩)

section Workflow

variable {σ : Type} {commandId : Int} {testType : PyStr}
  {onEvent : σ → ComponentTestEvent → ConnectionCall (σ × Option ComponentTestCompletion)}
  (handles : ∀ handler event, Triple (Connection.Quiet tooDeep stream) (onEvent handler event)
    (fun _ => Connection.Quiet tooDeep stream) (Connection.Disturbed tooDeep stream))
include handles

end Workflow

end Exchanges

/-! ## Exchanges end -/

/-- The budget is not exceeded. -/
def Within (limit : Nat) (connection : Connection) : Prop := connection.budget ≤ limit

section Ends

variable {tooDeep : PyStr → Bool} {limit : Nat}

variable {σ : Type} {commandId : Int} {testType : PyStr}
  {onEvent : σ → ComponentTestEvent → ConnectionCall (σ × Option ComponentTestCompletion)}
  (handles : ∀ limit handler event, Ends (Within limit) (onEvent handler event))
include handles

end Ends

end FlightComputer.BoardTester
