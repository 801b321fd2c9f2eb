import FlightComputer.BoardTester.TestReports

/-!
# The open connection

`UsbCdcConnection.read_line` and `write_line` (`connection.py`) on a device whose answers are
given: what happens whenever one of the two waits for the device, and what the operator
answers. After the given answers the operator interrupts the run, so that every call ends.

The results that the framer has handed out are a prefix of what the byte stream of the
device amounts to (`Connection.FollowsStream`).
-/

set_option autoImplicit false

namespace FlightComputer.BoardTester

open Library Raising

/-! ## Answers -/

/-- What comes of waiting for input: the deadline has passed, `read(512)` returns bytes or
raises `SerialException` or `OSError`, or the operator interrupts the run. -/
inductive ReadAnswer where
  | expired
  | chunk (data : Bytes)
  | failed (error : PyStr)
  | interrupted

/-- What comes of an attempt to write: the deadline has passed, `write` returns a number of
bytes or nothing or raises one of the exceptions of `serial`, or the operator interrupts
the run. -/
inductive WriteAnswer where
  | expired
  | accepted (count : Option Nat)
  | timedOut
  | failed (error : PyStr)
  | interrupted

/-- What the operator does when asked. -/
inductive OperatorAnswer where
  | entered (text : PyStr)
  | interrupted

/-- `UsbCdcConnection`, with the answers to come: of the device to reads and to writes, of the
operator to questions, and of the operator while measurements are shown (`nothing` or a text).
`taken` lists what the framer has handed out, and `raised` is the last exception with which
an exchange with the device has ended. -/
structure Connection where
  port : PyStr
  framer : NewlineFramer
  reads : List ReadAnswer
  writes : List WriteAnswer
  answers : List OperatorAnswer
  polls : List (Option PyStr)
  taken : List FramingEvent
  raised : Option TesterError

/-- A call that works on the connection. -/
abbrev ConnectionCall (α : Type) : Type := Raising TesterError Connection α

/-- A connection that has just been opened. -/
def Connection.opened (port : PyStr) (reads : List ReadAnswer) (writes : List WriteAnswer)
    (answers : List OperatorAnswer) (polls : List (Option PyStr)) : Connection where
  port := port
  framer := .fresh maxLineLength
  reads := reads
  writes := writes
  answers := answers
  polls := polls
  taken := []
  raised := none

/-- The bytes that a device sends with its answers. -/
def sentBytes : List ReadAnswer → Bytes
  | [] => []
  | .chunk data :: answers => data ++ sentBytes answers
  | .expired :: answers => sentBytes answers
  | .failed _ :: answers => sentBytes answers
  | .interrupted :: answers => sentBytes answers

/-! ## `read_line` -/

/-- A `UsbTransportError` -/
def transportError (kind : UsbErrorKind) (pieces : List PyStr) : TesterError :=
  .usbTransport ⟨kind, pieces.flatten⟩

/-- The exception that waiting for input ends with. -/
def readError (port seconds : PyStr) : ReadAnswer → TesterError
  | .expired => transportError .timeout
      [pyStr "no complete USB CDC line received within ", seconds, pyStr " seconds"]
  | .failed error =>
      transportError .connection [pyStr "failed reading USB CDC port ", port, pyStr ": ", error]
  | _ => .keyboardInterrupt

/-- The loop of `read_line`, with the answers to come. -/
def awaitLine (seconds : PyStr) (answers : List ReadAnswer) (connection : Connection) :
    Except TesterError Bytes × Connection :=
  match connection.framer.popLine with
  | (framer, .ok (some line)) =>
      (.ok line, { connection with
        framer := framer
        reads := answers
        taken := connection.taken ++ [.line line] })
  | (framer, .error error) =>
      (.error (.framing error), { connection with
        framer := framer
        reads := answers
        taken := connection.taken ++ [.tooLong] })
  | (_, .ok none) =>
      match answers with
      | .chunk data :: later =>
          awaitLine seconds later { connection with framer := connection.framer.feed data }
      | [] => (.error .keyboardInterrupt, { connection with reads := [] })
      | answer :: later =>
          (.error (readError connection.port seconds answer), { connection with reads := later })

/-- `read_line` -/
def readLine (seconds : PyStr) : ConnectionCall Bytes := fun connection =>
  some (awaitLine seconds connection.reads connection)

/-! ## `write_line` -/

/-- The exception that an attempt to write ends with. -/
def writeError (port seconds : PyStr) : WriteAnswer → TesterError
  | .accepted _ => transportError .connection
      [pyStr "USB CDC port ", port, pyStr " accepted no output bytes"]
  | .failed error =>
      transportError .connection [pyStr "failed writing USB CDC port ", port, pyStr ": ", error]
  | .interrupted => .keyboardInterrupt
  | _ => transportError .timeout
      [pyStr "USB CDC line was not written within ", seconds, pyStr " seconds"]

/-- The loop of `write_line`, with the answers to come and the rest of the frame. -/
def writeFrame (port seconds : PyStr) :
    List WriteAnswer → Bytes → Except TesterError Unit × List WriteAnswer
  | answers, [] => (.ok (), answers)
  | [], _ :: _ => (.error .keyboardInterrupt, [])
  | .accepted (some (count + 1)) :: later, byte :: frame =>
      writeFrame port seconds later ((byte :: frame).drop (count + 1))
  | answer :: later, _ :: _ => (.error (writeError port seconds answer), later)

/-- The part of `write_line` that writes a frame. -/
def sendFrame (frame : Bytes) (seconds : PyStr) : ConnectionCall Unit := fun connection =>
  let written := writeFrame connection.port seconds connection.writes frame
  some (written.1, { connection with writes := written.2 })

/-- `write_line` -/
def writeLine (payload : Bytes) (seconds : PyStr) : ConnectionCall Unit :=
  match encodeLine payload maxLineLength with
  | .ok frame => sendFrame frame seconds
  | .error error => throw (.framing error)

/-! ## The byte stream -/

/-- The framer reports no other errors than that of an over-long line. -/
structure ReportsOverlong (framer : NewlineFramer) : Prop where
  limit : framer.maxLineLength = maxLineLength
  errors : ∀ error, .error error ∈ framer.events → error = incomingLineTooLong maxLineLength

theorem ReportsOverlong.feedByte {framer : NewlineFramer} (reports : ReportsOverlong framer)
    (byte : UInt8) : ReportsOverlong (framer.feedByte byte) := by
  obtain ⟨limit, errors⟩ := reports
  rw [NewlineFramer.feedByte]
  split_ifs
  · refine ⟨limit, fun error listed => ?_⟩
    rcases List.mem_append.mp listed with early | late
    · exact errors error early
    · rw [List.mem_singleton, limit] at late
      exact Except.error.inj late
  · exact ⟨limit, errors⟩
  · refine ⟨limit, fun error listed => ?_⟩
    rcases List.mem_append.mp listed with early | late
    · exact errors error early
    · cases List.mem_singleton.mp late
  · exact ⟨limit, errors⟩
  · exact ⟨limit, errors⟩

theorem ReportsOverlong.feed {framer : NewlineFramer} (reports : ReportsOverlong framer)
    (data : Bytes) : ReportsOverlong (framer.feed data) := by
  induction data generalizing framer with
  | nil => exact reports
  | cons byte data ih => exact ih (reports.feedByte byte)

/-- **What the framer has handed out** and still holds is what the bytes received so far
amount to, and the rest of the stream is still to come. -/
structure Connection.FollowsStream (stream : Bytes) (connection : Connection) : Prop where
  inStep : ∃ received, received ++ sentBytes connection.reads = stream ∧
    connection.framer.Follows maxLineLength connection.taken received
  reports : ReportsOverlong connection.framer

theorem Connection.followsStream_opened (port : PyStr) (reads : List ReadAnswer)
    (writes : List WriteAnswer) (answers : List OperatorAnswer) (polls : List (Option PyStr)) :
    (opened port reads writes answers polls).FollowsStream (sentBytes reads) where
  inStep := ⟨[], rfl, NewlineFramer.fresh_follows maxLineLength⟩
  reports := ⟨rfl, fun _ listed => by cases listed⟩

/-- The events of a stream are the first ones of a longer stream. -/
theorem framingEvents_isInitial (limit : Nat) (stream more : Bytes) :
    framingEvents limit stream <+: framingEvents limit (stream ++ more) := by
  induction more using List.reverseRecOn with
  | nil => rw [List.append_nil]
  | append_singleton more byte ih =>
      rw [← List.append_assoc]
      refine ih.trans ?_
      by_cases ended : byte = lineFeed
      · rw [ended, framingEvents_concat_lineFeed]
        exact List.prefix_append _ _
      · rw [framingEvents_concat limit _ ended]

/-- What has been handed out is a prefix of what the stream amounts to. -/
theorem Connection.FollowsStream.taken_isInitial {stream : Bytes} {connection : Connection}
    (follows : connection.FollowsStream stream) :
    connection.taken <+: framingEvents maxLineLength stream := by
  obtain ⟨received, rfl, inStep⟩ := follows.inStep
  refine List.IsPrefix.trans ?_ (framingEvents_isInitial maxLineLength received _)
  rw [← inStep.events_eq]
  exact List.prefix_append _ _

/-- What one call of `read_line` has taken from the stream. -/
def TakenBy (before : List FramingEvent) : Except TesterError Bytes → List FramingEvent → Prop
  | .ok line, after => after = before ++ [.line line]
  | .error error, after =>
      (error = .framing (incomingLineTooLong maxLineLength) ∧ after = before ++ [.tooLong]) ∨
        ((error = .keyboardInterrupt ∨ ∃ transport, error = .usbTransport transport) ∧
          after = before)

/-- The exception that waiting for input ends with, by its kind. -/
theorem readError_cases (port seconds : PyStr) (answer : ReadAnswer) :
    readError port seconds answer = .keyboardInterrupt ∨
      ∃ transport, readError port seconds answer = .usbTransport transport := by
  cases answer with
  | expired => exact .inr ⟨_, rfl⟩
  | failed error => exact .inr ⟨_, rfl⟩
  | chunk data => exact .inl rfl
  | interrupted => exact .inl rfl

section Popped

variable {connection : Connection} {framer : NewlineFramer} (seconds : PyStr)
  (answers : List ReadAnswer)

theorem awaitLine_line {line : Bytes} (popped : connection.framer.popLine = (framer, .ok (some line))) :
    awaitLine seconds answers connection = (.ok line, { connection with
      framer := framer, reads := answers, taken := connection.taken ++ [.line line] }) := by
  rw [awaitLine.eq_def, popped]

theorem awaitLine_error {error : FramingError}
    (popped : connection.framer.popLine = (framer, .error error)) :
    awaitLine seconds answers connection = (.error (.framing error), { connection with
      framer := framer, reads := answers, taken := connection.taken ++ [.tooLong] }) := by
  rw [awaitLine.eq_def, popped]

/-- Without a line, the answer of the device decides. -/
theorem awaitLine_wait (popped : connection.framer.popLine = (framer, .ok none)) :
    awaitLine seconds answers connection =
      match answers with
      | .chunk data :: later =>
          awaitLine seconds later { connection with framer := connection.framer.feed data }
      | [] => (.error .keyboardInterrupt, { connection with reads := [] })
      | answer :: later =>
          (.error (readError connection.port seconds answer), { connection with reads := later }) := by
  rw [awaitLine.eq_def, popped]

end Popped

/-- What `pop_line` does. -/
theorem popLine_cases (framer : NewlineFramer) :
    (framer.events = [] ∧ framer.popLine = (framer, .ok none)) ∨
      (∃ line later, framer.events = .ok line :: later ∧
        framer.popLine = ({ framer with events := later }, .ok (some line))) ∨
      ∃ error later, framer.events = .error error :: later ∧
        framer.popLine = ({ framer with events := later }, .error error) := by
  unfold NewlineFramer.popLine
  cases events : framer.events with
  | nil => exact .inl ⟨rfl, rfl⟩
  | cons event later =>
      cases event with
      | ok line => exact .inr (.inl ⟨line, later, rfl, rfl⟩)
      | error error => exact .inr (.inr ⟨error, later, rfl, rfl⟩)

/-- **What `read_line` does**: it follows the stream, and takes one result from the framer or
none. -/
theorem awaitLine_follows (seconds : PyStr) {stream : Bytes} (answers : List ReadAnswer) :
    ∀ connection : Connection,
      Connection.FollowsStream stream { connection with reads := answers } →
      (awaitLine seconds answers connection).2.FollowsStream stream ∧
        (awaitLine seconds answers connection).2.raised = connection.raised ∧
        TakenBy connection.taken (awaitLine seconds answers connection).1
          (awaitLine seconds answers connection).2.taken := by
  have popping : ∀ (answers : List ReadAnswer) (connection : Connection),
      Connection.FollowsStream stream { connection with reads := answers } →
      (connection.framer.events = [] ∧
        connection.framer.popLine = (connection.framer, .ok none)) ∨
      ((awaitLine seconds answers connection).2.FollowsStream stream ∧
        (awaitLine seconds answers connection).2.raised = connection.raised ∧
        TakenBy connection.taken (awaitLine seconds answers connection).1
          (awaitLine seconds answers connection).2.taken) := by
    rintro answers connection ⟨⟨received, same, inStep⟩, limit, errors⟩
    have step := inStep.popLine
    rcases popLine_cases connection.framer with waiting | ⟨line, later, events, popped⟩ |
      ⟨error, later, events, popped⟩
    · exact .inl waiting
    · rw [popped] at step
      rw [awaitLine_line seconds answers popped]
      refine .inr ⟨⟨⟨received, same, step⟩, limit, fun error listed => ?_⟩, rfl, rfl⟩
      exact errors error (events ▸ List.mem_cons_of_mem _ listed)
    · rw [popped] at step
      rw [awaitLine_error seconds answers popped]
      refine .inr ⟨⟨⟨received, same, step⟩, limit, fun error listed => ?_⟩, rfl, .inl ⟨?_, rfl⟩⟩
      · exact errors error (events ▸ List.mem_cons_of_mem _ listed)
      · exact congrArg _ (errors error (events ▸ List.mem_cons_self))
  induction answers with
  | nil =>
      intro connection follows
      rcases popping [] connection follows with ⟨_, popped⟩ | taken
      · rw [awaitLine_wait seconds [] popped]
        exact ⟨follows, rfl, .inr ⟨.inl rfl, rfl⟩⟩
      · exact taken
  | cons answer answers ih =>
      intro connection follows
      rcases popping (answer :: answers) connection follows with ⟨_, popped⟩ | taken
      · rw [awaitLine_wait seconds _ popped]
        obtain ⟨⟨received, same, inStep⟩, reports⟩ := follows
        cases answer with
        | chunk data =>
            refine ih _ ⟨⟨received ++ data, ?_, inStep.feed data⟩, reports.feed data⟩
            rw [List.append_assoc]
            exact same
        | expired => exact ⟨⟨⟨received, same, inStep⟩, reports⟩, rfl, .inr ⟨readError_cases .., rfl⟩⟩
        | failed error =>
            exact ⟨⟨⟨received, same, inStep⟩, reports⟩, rfl, .inr ⟨readError_cases .., rfl⟩⟩
        | interrupted =>
            exact ⟨⟨⟨received, same, inStep⟩, reports⟩, rfl, .inr ⟨readError_cases .., rfl⟩⟩
      · exact taken

/-! ## Calls end -/

/-- What may still be handed out: every call that goes on uses some of it. -/
def Connection.budget (connection : Connection) : Nat :=
  connection.framer.events.length + (connection.reads.length + (sentBytes connection.reads).length)

end FlightComputer.BoardTester
