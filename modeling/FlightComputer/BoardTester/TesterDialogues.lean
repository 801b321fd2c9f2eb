import FlightComputer.BoardTester.Handlers
import FlightComputer.Library.Dialogues

/-!
# The tester as one of two parties

The exchanges and the handlers of the tester as dialogues: what they write, what they read and what
they ask the operator are operations, and who replies is left open. Performed on a connection
whose answers are given, the dialogues are the exchanges of the other modules
(`onConnection_runComponentTest`). Here nothing is given, so that the device may be a party of
its own.

A dialogue also says which events it hands to a handler and which completions of the device it
returns. On a connection this does nothing.
-/

set_option autoImplicit false

namespace FlightComputer.BoardTester

open Library Raising

/-! ## Operations -/

/-- What a handler asks the operator: `prompt_yes_no`, or whether there is an answer yet. -/
inductive OperatorQuestion where
  | promptYesNo
  | pollAnswer

/-- The answers. -/
def OperatorQuestion.Reply : OperatorQuestion → Type
  | .promptYesNo => Except TesterError Bool
  | .pollAnswer => Option PyStr

/-- **What the tester does**: it writes a line, waits for one, asks the operator, hands an event of
a test to the handler, and returns a completion that the device has sent. `rounds` asks how many
rounds a loop without end may take, and `unfinished` is where such a loop is given up. -/
inductive TesterOperation where
  | writeLine (payload : Bytes) (seconds : PyStr)
  | readLine (seconds : PyStr)
  | ask (question : OperatorQuestion)
  | handles (commandId : Int) (testType : PyStr) (event : ComponentTestEvent)
  | completes (commandId : Int) (testType : PyStr) (completion : ComponentTestCompletion)
  | rounds
  | unfinished

/-- The replies. -/
def TesterOperation.Reply : TesterOperation → Type
  | .writeLine _ _ => Except TesterError Unit
  | .readLine _ => Except TesterError Bytes
  | .ask question => question.Reply
  | .handles _ _ _ => Unit
  | .completes _ _ _ => Unit
  | .rounds => Nat
  | .unfinished => Empty

/-- A dialogue with the operator alone. -/
abbrev OperatorDialogue (α : Type) : Type :=
  RaisingDialogue TesterError OperatorQuestion OperatorQuestion.Reply α

/-- A dialogue of the tester. -/
abbrev TesterDialogue (α : Type) : Type :=
  RaisingDialogue TesterError TesterOperation TesterOperation.Reply α

namespace TesterDialogue

/-- `write_line` -/
def writeLine (payload : Bytes) (seconds : PyStr) : TesterDialogue Unit :=
  ExceptT.mk (Dialogue.operation (TesterOperation.writeLine payload seconds))

/-- `read_line` -/
def readLine (seconds : PyStr) : TesterDialogue Bytes :=
  ExceptT.mk (Dialogue.operation (TesterOperation.readLine seconds))

/-- A dialogue with the operator. -/
def consult {α : Type} (dialogue : OperatorDialogue α) : TesterDialogue α :=
  dialogue.perform fun question => Dialogue.operation (TesterOperation.ask question)

/-- An event is handed to the handler. -/
def handles (commandId : Int) (testType : PyStr) (event : ComponentTestEvent) :
    TesterDialogue Unit :=
  ExceptT.lift (Dialogue.operation (TesterOperation.handles commandId testType event))

/-- A completion of the device is returned. -/
def completes (commandId : Int) (testType : PyStr) (completion : ComponentTestCompletion) :
    TesterDialogue Unit :=
  ExceptT.lift (Dialogue.operation (TesterOperation.completes commandId testType completion))

/-- How many rounds a loop without end may take. -/
def rounds : TesterDialogue Nat := ExceptT.lift (Dialogue.operation TesterOperation.rounds)

/-- A loop without end is given up. -/
def unfinished {α : Type} : TesterDialogue α :=
  ExceptT.mk (.call TesterOperation.unfinished fun never => nomatch never)

/-! ## Exchanges -/

/-- A line is read and decoded. -/
def readMessage {α : Type} (tooDeep : PyStr → Bool) (seconds : PyStr)
    (decode : Bytes → Except ProtocolMessageError α) : TesterDialogue α := do
  let line ← readLine seconds
  RaisingDialogue.settle (decodeLine tooDeep decode line)

/-- A request is encoded and written. -/
def sendRequest (encoded : Except ValueError Bytes) (seconds : PyStr) : TesterDialogue Unit :=
  match encoded with
  | .ok payload => writeLine payload seconds
  | .error error => throw (.value error)

/-- `start_test` -/
def startTest (tooDeep : PyStr → Bool) (testUuid : UUID) : TesterDialogue StartTestResponse := do
  sendRequest (encodeStartTest startTestCommandId testUuid) writeTimeoutSeconds
  readMessage tooDeep readTimeoutSeconds fun line => decodeStartTestResponse line startTestCommandId

/-- `stop_component_test` -/
def stopComponentTest (tooDeep : PyStr → Bool) (commandId : Int) (testType : PyStr) :
    TesterDialogue Unit := do
  sendRequest (encodeStopComponentTest commandId) writeTimeoutSeconds
  let response ← readMessage tooDeep readTimeoutSeconds fun line =>
    decodeComponentTestMessage line commandId testType
  if response.acknowledges (pyStr "TEST_STOPPED") then pure ()
  else throw (protocolError "component test did not acknowledge TEST_STOPPED")

section Workflow

variable {σ : Type} (tooDeep : PyStr → Bool) (commandId : Int) (testType : PyStr)
  (onEvent : σ → ComponentTestEvent → TesterDialogue (σ × Option ComponentTestCompletion))

/-- The loop of `run_component_test`, with a bound for its rounds and the state of the
handler. -/
def receiveMessages : Nat → σ → TesterDialogue (σ × ComponentTestCompletion)
  | 0, _ => unfinished
  | rounds + 1, handler => do
      let received ← RaisingDialogue.attempt (readMessage tooDeep readTimeoutSeconds fun line =>
        decodeComponentTestMessage line commandId testType)
      match received with
      | .ok (.event event) => do
          handles commandId testType event
          let answered ← onEvent handler event
          match answered.2 with
          | some completion => pure (answered.1, completion)
          | none => receiveMessages rounds answered.1
      | .ok (.completion completion) => do
          completes commandId testType completion
          pure (handler, completion)
      | .ok (.acknowledgement _) =>
          throw (protocolError "unexpected component lifecycle acknowledgement")
      | .error error => if error.isTimeout then receiveMessages rounds handler else throw error

/-- The part of `run_component_test` once the test has been started. -/
def awaitCompletion (onStarted : TesterDialogue (Option ComponentTestCompletion)) (handler : σ) :
    TesterDialogue (σ × ComponentTestCompletion) := do
  match ← onStarted with
  | some completion => pure (handler, completion)
  | none => do
      let bound ← rounds
      receiveMessages tooDeep commandId testType onEvent bound handler

/-- `run_component_test` -/
def runComponentTest (parameters : Option (List (PyStr × Int)))
    (onStarted : TesterDialogue (Option ComponentTestCompletion)) (handler : σ) :
    TesterDialogue (σ × ComponentTestCompletion) := do
  sendRequest (encodeRunComponentTest commandId testType parameters) writeTimeoutSeconds
  let first ← readMessage tooDeep readTimeoutSeconds fun line =>
    decodeComponentTestMessage line commandId testType
  if first.acknowledges (pyStr "TEST_STARTED") then
    awaitCompletion tooDeep commandId testType onEvent onStarted handler
  else throw (protocolError "component test did not acknowledge TEST_STARTED")

end Workflow

end TesterDialogue

/-! ## On a connection -/

/-- The next answer of the operator, if there is one already. -/
def takePoll (connection : Connection) : Option PyStr × Connection :=
  match connection.polls with
  | answer :: later => (answer, { connection with polls := later })
  | [] => (none, connection)

/-- What the operations do on a connection. -/
def handleOperation : (operation : TesterOperation) → StateT Connection Option operation.Reply
  | .writeLine payload seconds => (writeLine payload seconds : ConnectionCall Unit)
  | .readLine seconds => (readLine seconds : ConnectionCall Bytes)
  | .ask .promptYesNo => (promptYesNo : ConnectionCall Bool)
  | .ask .pollAnswer => fun connection => some (takePoll connection)
  | .handles _ _ _ => fun connection => some ((), connection)
  | .completes _ _ _ => fun connection => some ((), connection)
  | .rounds => fun connection => some (connection.budget + 1, connection)
  | .unfinished => fun _ => none

/-- A dialogue on a connection. -/
def onConnection {α : Type} (dialogue : TesterDialogue α) : ConnectionCall α :=
  RaisingDialogue.perform handleOperation dialogue

section OnConnection

variable {α β : Type}

theorem onConnection_pure (value : α) : onConnection (pure value) = pure value := rfl

theorem onConnection_throw (error : TesterError) :
    onConnection (throw error : TesterDialogue α) = throw error := rfl

theorem onConnection_settle (result : Except TesterError α) :
    onConnection (RaisingDialogue.settle result) = settle result := rfl

theorem onConnection_bind (first : TesterDialogue α) (rest : α → TesterDialogue β) :
    onConnection (first >>= rest) = onConnection first >>= fun value => onConnection (rest value) :=
  RaisingDialogue.perform_bind handleOperation first rest

theorem onConnection_attempt (dialogue : TesterDialogue α) :
    onConnection (RaisingDialogue.attempt dialogue) = attempt (onConnection dialogue) := by
  have performed := Dialogue.perform_bind handleOperation dialogue.run
    fun result => .done (Except.ok (ε := TesterError) result)
  funext connection
  refine (congrFun performed connection).trans ?_
  show (Dialogue.perform handleOperation dialogue.run connection).bind _ =
    (Dialogue.perform handleOperation dialogue.run connection).map _
  rw [Option.map_eq_bind]
  rfl

theorem onConnection_readLine (seconds : PyStr) :
    onConnection (TesterDialogue.readLine seconds) = readLine seconds :=
  Dialogue.perform_operation handleOperation (TesterOperation.readLine seconds)

theorem onConnection_writeLine (payload : Bytes) (seconds : PyStr) :
    onConnection (TesterDialogue.writeLine payload seconds) = writeLine payload seconds :=
  Dialogue.perform_operation handleOperation (TesterOperation.writeLine payload seconds)

/-- Nothing comes of telling what happens. -/
theorem onConnection_handles (commandId : Int) (testType : PyStr) (event : ComponentTestEvent)
    (rest : ConnectionCall α) :
    (onConnection (TesterDialogue.handles commandId testType event) >>= fun _ => rest) = rest := rfl

theorem onConnection_readMessage (tooDeep : PyStr → Bool) (seconds : PyStr)
    (decode : Bytes → Except ProtocolMessageError α) :
    onConnection (TesterDialogue.readMessage tooDeep seconds decode) =
      readMessage tooDeep seconds decode := by
  rw [TesterDialogue.readMessage, onConnection_bind, onConnection_readLine]
  rfl

theorem onConnection_sendRequest (encoded : Except ValueError Bytes) (seconds : PyStr) :
    onConnection (TesterDialogue.sendRequest encoded seconds) = sendRequest encoded seconds := by
  cases encoded with
  | ok payload => exact onConnection_writeLine payload seconds
  | error error => rfl

/-- **`start_test`** -/
theorem onConnection_startTest (tooDeep : PyStr → Bool) (testUuid : UUID) :
    onConnection (TesterDialogue.startTest tooDeep testUuid) = startTest tooDeep testUuid := by
  rw [TesterDialogue.startTest, onConnection_bind, onConnection_sendRequest,
    onConnection_readMessage]
  rfl

/-- **`stop_component_test`** -/
theorem onConnection_stopComponentTest (tooDeep : PyStr → Bool) (commandId : Int)
    (testType : PyStr) :
    onConnection (TesterDialogue.stopComponentTest tooDeep commandId testType) =
      stopComponentTest tooDeep commandId testType := by
  rw [TesterDialogue.stopComponentTest, onConnection_bind, onConnection_sendRequest]
  refine congrArg _ (funext fun _ => ?_)
  rw [onConnection_bind, onConnection_readMessage]
  refine congrArg _ (funext fun response => ?_)
  split_ifs
  · rfl
  · rfl

section Workflow

variable {σ : Type} (tooDeep : PyStr → Bool) (commandId : Int) (testType : PyStr)
  (onEvent : σ → ComponentTestEvent → TesterDialogue (σ × Option ComponentTestCompletion))

theorem onConnection_receiveMessages (rounds : Nat) (handler : σ) :
    onConnection (TesterDialogue.receiveMessages tooDeep commandId testType onEvent rounds
        handler) =
      receiveMessages tooDeep commandId testType
        (fun handler event => onConnection (onEvent handler event)) rounds handler := by
  induction rounds generalizing handler with
  | zero => rfl
  | succ rounds ih =>
      rw [TesterDialogue.receiveMessages, receiveMessages, onConnection_bind,
        onConnection_attempt, onConnection_readMessage]
      refine congrArg _ (funext fun received => ?_)
      cases received with
      | ok message =>
          cases message with
          | event event =>
              dsimp only
              rw [onConnection_bind, onConnection_handles, onConnection_bind]
              refine congrArg _ (funext fun answered => ?_)
              obtain ⟨later, completion⟩ := answered
              cases completion with
              | some completion => rfl
              | none => exact ih later
          | completion completion => rfl
          | acknowledgement messageType => rfl
      | error error =>
          dsimp only
          split_ifs
          · exact ih handler
          · rfl

theorem onConnection_awaitCompletion
    (onStarted : TesterDialogue (Option ComponentTestCompletion)) (handler : σ) :
    onConnection (TesterDialogue.awaitCompletion tooDeep commandId testType onEvent onStarted
        handler) =
      awaitCompletion tooDeep commandId testType
        (fun handler event => onConnection (onEvent handler event)) (onConnection onStarted)
        handler := by
  rw [TesterDialogue.awaitCompletion, awaitCompletion, onConnection_bind]
  refine congrArg _ (funext fun completion => ?_)
  cases completion with
  | some completion => rfl
  | none =>
      dsimp only
      rw [onConnection_bind]
      funext connection
      exact congrFun (onConnection_receiveMessages tooDeep commandId testType onEvent
        (connection.budget + 1) handler) connection

/-- **`run_component_test`** -/
theorem onConnection_runComponentTest (parameters : Option (List (PyStr × Int)))
    (onStarted : TesterDialogue (Option ComponentTestCompletion)) (handler : σ) :
    onConnection (TesterDialogue.runComponentTest tooDeep commandId testType onEvent parameters
        onStarted handler) =
      runComponentTest tooDeep commandId testType
        (fun handler event => onConnection (onEvent handler event)) parameters
        (onConnection onStarted) handler := by
  rw [TesterDialogue.runComponentTest, runComponentTest, onConnection_bind,
    onConnection_sendRequest]
  refine congrArg _ (funext fun _ => ?_)
  rw [onConnection_bind, onConnection_readMessage]
  refine congrArg _ (funext fun first => ?_)
  split_ifs
  · exact onConnection_awaitCompletion tooDeep commandId testType onEvent onStarted handler
  · rfl

end Workflow

end OnConnection

end FlightComputer.BoardTester
