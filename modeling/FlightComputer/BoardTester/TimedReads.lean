import FlightComputer.BoardTester.Connection
import Mathlib.Algebra.Ring.Int.Defs

/-!
# Reading with a clock

`read_line` with the readings of its clock and the answers of the serial device: the deadline is
computed from the first reading, and each further reading decides whether the device is asked
again. Nothing is assumed of the clock, nor of its arithmetic. Seen from the connection without a
clock, a reading after the deadline is the answer `expired`: successive calls are calls on a
`Connection` with some answers (`readLines_onConnection`).

Over any sequence of calls, the lines returned and the errors raised for over-long lines, followed
by what the framer still holds, are what the bytes read so far amount to
(`reads_keep_framing`).
-/

set_option autoImplicit false

namespace FlightComputer.BoardTester

open Library Raising

/-! ## Calls with a clock -/

/-- What `read(512)` comes to: bytes, perhaps none, an exception of `serial`, or an interrupt. -/
inductive DeviceRead where
  | chunk (data : Bytes)
  | failed (error : PyStr)
  | interrupted

/-- The bytes that answers bring. -/
def deviceBytes : List DeviceRead → Bytes
  | [] => []
  | .chunk data :: reads => data ++ deviceBytes reads
  | .failed _ :: reads => deviceBytes reads
  | .interrupted :: reads => deviceBytes reads

/-- `UsbCdcConnection` as far as reading is concerned, with the readings of the clock and the
answers of the device to come. -/
structure TimedConnection (τ : Type) where
  port : PyStr
  framer : NewlineFramer
  clock : List τ
  device : List DeviceRead

/-- A connection that has just been opened. -/
def TimedConnection.opened {τ : Type} (port : PyStr) (clock : List τ) (device : List DeviceRead) :
    TimedConnection τ where
  port := port
  framer := .fresh maxLineLength
  clock := clock
  device := device

section Returned

variable {τ : Type}

/-- What the result of a call takes from the framer. -/
def handedOut : Except TesterError Bytes → List FramingEvent
  | .ok line => [.line line]
  | .error (.framing (.lineTooLongError _)) => [.tooLong]
  | .error _ => []

/-- The bytes of answers in succession. -/
theorem deviceBytes_append (first second : List DeviceRead) :
    deviceBytes (first ++ second) = deviceBytes first ++ deviceBytes second := by
  induction first with
  | nil => rfl
  | cons read reads ih =>
      cases read with
      | chunk data => rw [List.cons_append, deviceBytes, deviceBytes, ih, List.append_assoc]
      | failed error => exact ih
      | interrupted => exact ih

/-- The connection follows the bytes that the device has returned so far. -/
structure TimedConnection.Follows (connection : TimedConnection τ) (taken : List FramingEvent)
    (received : Bytes) : Prop where
  inStep : connection.framer.Follows maxLineLength taken received
  reports : ReportsOverlong connection.framer

/-- What a call returns, and what it leaves in the connection. -/
structure KeepsFraming (timed after : TimedConnection τ) (taken : List FramingEvent) (received : Bytes)
    (result : Except TesterError Bytes) : Prop where
  follows : ∃ consumed, timed.device = consumed ++ after.device ∧
    after.Follows (taken ++ handedOut result) (received ++ deviceBytes consumed)
  drained : ∀ error, result = .error (.usbTransport error) → after.framer.events = []

/-- A call that ends without taking anything from the framer or from the device. -/
theorem TimedConnection.Follows.keepsFraming_nothing {timed : TimedConnection τ}
    {taken : List FramingEvent} {received : Bytes} (follows : timed.Follows taken received)
    {error : TesterError} (nothing : handedOut (.error error) = []) (read : List DeviceRead)
    (clock : List τ) (device : List DeviceRead) (same : timed.device = read ++ device)
    (empty : deviceBytes read = []) (events : timed.framer.events = []) :
    KeepsFraming timed { timed with clock := clock, device := device } taken received
      (.error error) where
  follows := by
    refine ⟨read, same, ?_⟩
    rw [nothing, empty, List.append_nil, List.append_nil]
    exact ⟨follows.inStep, follows.reports⟩
  drained := fun _ _ => events

end Returned

section Loop

variable {τ : Type} [Zero τ] [Sub τ] [LE τ] [DecidableLE τ]

/-- The loop of `read_line`, with the readings of the clock to come. Without a further reading or
answer, the call has not returned. -/
def readUntil (seconds : PyStr) (deadline : τ) (clock : List τ) (connection : TimedConnection τ) :
    Option (Except TesterError Bytes × TimedConnection τ) :=
  match connection.framer.popLine with
  | (framer, .ok (some line)) =>
      some (.ok line, { connection with framer := framer, clock := clock })
  | (framer, .error error) =>
      some (.error (.framing error), { connection with framer := framer, clock := clock })
  | (_, .ok none) =>
      match clock with
      | [] => none
      | now :: clock =>
          if deadline - now ≤ 0 then
            some (.error (readError connection.port seconds .expired),
              { connection with clock := clock })
          else
            match connection.device with
            | [] => none
            | .chunk data :: device =>
                readUntil seconds deadline clock
                  { connection with framer := connection.framer.feed data, device := device }
            | .failed error :: device =>
                some (.error (readError connection.port seconds (.failed error)),
                  { connection with clock := clock, device := device })
            | .interrupted :: device =>
                some (.error .keyboardInterrupt, { connection with clock := clock, device := device })

/-! ## The connection without a clock -/

/-- A connection without a clock holds what one with a clock holds. -/
structure Matches (timed : TimedConnection τ) (connection : Connection) : Prop where
  framer : connection.framer = timed.framer
  port : connection.port = timed.port

/-- The call of `read_line` on a connection without a clock comes to the same, and leaves the answers
that come later. -/
def SameCall (seconds : PyStr) (answers : List ReadAnswer) (timed after : TimedConnection τ)
    (result : Except TesterError Bytes) : Prop :=
  ∀ (later : List ReadAnswer) (connection : Connection), Matches timed connection →
    ∃ last, awaitLine seconds (answers ++ later) connection = (result, last) ∧
      Matches after last ∧ last.reads = later

/-- A framer that holds something needs no answer. -/
theorem sameCall_of_popped (seconds : PyStr) {deadline : τ} {clock : List τ}
    {timed after : TimedConnection τ} {result : Except TesterError Bytes}
    (returned : readUntil seconds deadline clock timed = some (result, after)) :
    timed.framer.popLine = (timed.framer, .ok none) ∨ SameCall seconds [] timed after result := by
  rw [readUntil.eq_def] at returned
  rcases popLine_cases timed.framer with ⟨_, waiting⟩ | ⟨line, later, _, popped⟩ |
    ⟨error, later, _, popped⟩
  · exact .inl waiting
  · rw [popped] at returned
    obtain ⟨rfl, rfl⟩ := Prod.mk.inj (Option.some.inj returned)
    refine .inr fun later connection same => ?_
    rw [← same.framer] at popped
    exact ⟨_, awaitLine_line seconds later popped, ⟨same.framer ▸ rfl, same.port⟩, rfl⟩
  · rw [popped] at returned
    obtain ⟨rfl, rfl⟩ := Prod.mk.inj (Option.some.inj returned)
    refine .inr fun later connection same => ?_
    rw [← same.framer] at popped
    exact ⟨_, awaitLine_error seconds later popped, ⟨same.framer ▸ rfl, same.port⟩, rfl⟩

/-- **A call that returns** is the call of `read_line` on a connection with some answers. -/
theorem awaitLine_of_readUntil (seconds : PyStr) (deadline : τ) (clock : List τ) :
    ∀ (timed after : TimedConnection τ) (result : Except TesterError Bytes),
      readUntil seconds deadline clock timed = some (result, after) →
      ∃ answers, SameCall seconds answers timed after result := by
  induction clock with
  | nil =>
      intro timed after result returned
      rcases sameCall_of_popped seconds returned with waiting | same
      · rw [readUntil, waiting] at returned
        cases returned
      · exact ⟨[], same⟩
  | cons now clock ih =>
      intro timed after result returned
      rcases sameCall_of_popped seconds returned with waiting | same
      · have awaits : ∀ (answers : List ReadAnswer) {connection : Connection},
            Matches timed connection → awaitLine seconds answers connection = _ :=
          fun answers connection same =>
            awaitLine_wait seconds answers
              (same.framer ▸ waiting : connection.framer.popLine = (connection.framer, .ok none))
        rw [readUntil.eq_def, waiting] at returned
        dsimp only at returned
        split_ifs at returned with expired
        · obtain ⟨rfl, rfl⟩ := Prod.mk.inj (Option.some.inj returned)
          refine ⟨[.expired], fun later connection same =>
            ⟨{ connection with reads := later }, ?_, ⟨same.framer, same.port⟩, rfl⟩⟩
          rw [← same.port]
          exact awaits _ same
        · cases device : timed.device with
          | nil =>
              rw [device] at returned
              cases returned
          | cons read reads =>
              rw [device] at returned
              cases read with
              | chunk data =>
                  obtain ⟨answers, same⟩ := ih _ _ _ returned
                  refine ⟨.chunk data :: answers, fun later connection same' => ?_⟩
                  obtain ⟨last, called, holds⟩ := same later
                    { connection with framer := connection.framer.feed data }
                    ⟨congrArg (NewlineFramer.feed · data) same'.framer, same'.port⟩
                  exact ⟨last, (awaits _ same').trans called, holds⟩
              | failed error =>
                  obtain ⟨rfl, rfl⟩ := Prod.mk.inj (Option.some.inj returned)
                  refine ⟨[.failed error], fun later connection same =>
                    ⟨{ connection with reads := later }, ?_, ⟨same.framer, same.port⟩, rfl⟩⟩
                  rw [← same.port]
                  exact awaits _ same
              | interrupted =>
                  obtain ⟨rfl, rfl⟩ := Prod.mk.inj (Option.some.inj returned)
                  exact ⟨[.interrupted], fun later connection same =>
                    ⟨{ connection with reads := later }, awaits _ same,
                      ⟨same.framer, same.port⟩, rfl⟩⟩
      · exact ⟨[], same⟩

/-- **The loop of `read_line`** takes one result from the framer, or reports an error of the
device once the framer holds none. -/
theorem readUntil_keepsFraming (seconds : PyStr) (deadline : τ) (clock : List τ) :
    ∀ (timed after : TimedConnection τ) (taken : List FramingEvent) (received : Bytes)
      (result : Except TesterError Bytes), timed.Follows taken received →
      readUntil seconds deadline clock timed = some (result, after) →
      KeepsFraming timed after taken received result := by
  have popping : ∀ (clock : List τ) (timed after : TimedConnection τ) (taken : List FramingEvent)
      (received : Bytes) (result : Except TesterError Bytes), timed.Follows taken received →
      readUntil seconds deadline clock timed = some (result, after) →
      (timed.framer.events = [] ∧ timed.framer.popLine = (timed.framer, .ok none)) ∨
        KeepsFraming timed after taken received result := by
    rintro clock timed after taken received result ⟨inStep, limit, errors⟩ returned
    rw [readUntil.eq_def] at returned
    have step := inStep.popLine
    rcases popLine_cases timed.framer with waiting | ⟨line, later, events, popped⟩ |
      ⟨error, later, events, popped⟩
    · exact .inl waiting
    · rw [popped] at returned step
      obtain ⟨rfl, rfl⟩ := Prod.mk.inj (Option.some.inj returned)
      refine .inr ⟨⟨[], rfl, ?_, limit, fun error listed => ?_⟩, fun error raised => by cases raised⟩
      · rw [deviceBytes, List.append_nil]
        exact step
      · exact errors error (events ▸ List.mem_cons_of_mem _ listed)
    · have overlong : error = incomingLineTooLong maxLineLength :=
        errors error (events ▸ List.mem_cons_self)
      subst overlong
      rw [popped] at returned step
      obtain ⟨rfl, rfl⟩ := Prod.mk.inj (Option.some.inj returned)
      refine .inr ⟨⟨[], rfl, ?_, limit, fun error listed => ?_⟩, fun error raised => by cases raised⟩
      · rw [deviceBytes, List.append_nil]
        exact step
      · exact errors error (events ▸ List.mem_cons_of_mem _ listed)
  induction clock with
  | nil =>
      intro timed after taken received result follows returned
      rcases popping [] timed after taken received result follows returned with ⟨_, waiting⟩ | done
      · rw [readUntil, waiting] at returned
        cases returned
      · exact done
  | cons now clock ih =>
      intro timed after taken received result follows returned
      rcases popping _ timed after taken received result follows returned with
        ⟨events, waiting⟩ | done
      · rw [readUntil.eq_def, waiting] at returned
        dsimp only at returned
        split_ifs at returned with expired
        · obtain ⟨rfl, rfl⟩ := Prod.mk.inj (Option.some.inj returned)
          exact follows.keepsFraming_nothing rfl [] clock timed.device rfl rfl events
        · cases device : timed.device with
          | nil =>
              rw [device] at returned
              cases returned
          | cons read reads =>
              rw [device] at returned
              cases read with
              | chunk data =>
                  obtain ⟨⟨consumed, same, later⟩, drained⟩ :=
                    ih { timed with framer := timed.framer.feed data, device := reads } after taken
                      (received ++ data) result
                      ⟨follows.inStep.feed data, follows.reports.feed data⟩ returned
                  refine ⟨⟨.chunk data :: consumed, ?_, ?_⟩, drained⟩
                  · rw [device, List.cons_append]
                    exact congrArg _ same
                  · rw [deviceBytes, ← List.append_assoc]
                    exact later
              | failed error =>
                  obtain ⟨rfl, rfl⟩ := Prod.mk.inj (Option.some.inj returned)
                  exact follows.keepsFraming_nothing rfl [.failed error] clock reads device rfl events
              | interrupted =>
                  obtain ⟨rfl, rfl⟩ := Prod.mk.inj (Option.some.inj returned)
                  exact follows.keepsFraming_nothing rfl [.interrupted] clock reads device rfl events
      · exact done

end Loop

/-! ## Successive calls -/

section Calls

variable {τ : Type} [Zero τ] [Add τ] [Sub τ] [LE τ] [LT τ] [DecidableLE τ] [DecidableLT τ]

/-- `read_line`, with its timeout and the text of the timeout. -/
def readLineWithin (timeout : τ × PyStr) (connection : TimedConnection τ) :
    Option (Except TesterError Bytes × TimedConnection τ) :=
  if timeout.1 < 0 then
    some (.error (.value ⟨"timeout_seconds must not be negative"⟩), connection)
  else
    match connection.clock with
    | [] => none
    | start :: clock => readUntil timeout.2 (start + timeout.1) clock connection

/-- Successive calls of `read_line`, as far as they return, and the connection then. -/
def readLines : List (τ × PyStr) → TimedConnection τ →
    List (Except TesterError Bytes) × TimedConnection τ
  | [], connection => ([], connection)
  | timeout :: timeouts, connection =>
      match readLineWithin timeout connection with
      | none => ([], connection)
      | some (result, after) =>
          let rest := readLines timeouts after
          (result :: rest.1, rest.2)

/-- **One call of `read_line`.** -/
theorem readLineWithin_keepsFraming (timeout : τ × PyStr) {timed after : TimedConnection τ}
    {taken : List FramingEvent} {received : Bytes} {result : Except TesterError Bytes}
    (follows : timed.Follows taken received)
    (returned : readLineWithin timeout timed = some (result, after)) :
    KeepsFraming timed after taken received result := by
  rw [readLineWithin] at returned
  split_ifs at returned with negative
  · obtain ⟨rfl, rfl⟩ := Prod.mk.inj (Option.some.inj returned)
    refine ⟨⟨[], rfl, ?_⟩, fun error raised => by cases raised⟩
    show timed.Follows (taken ++ []) (received ++ [])
    rw [List.append_nil, List.append_nil]
    exact follows
  · cases clock : timed.clock with
    | nil =>
        rw [clock] at returned
        cases returned
    | cons start later =>
        rw [clock] at returned
        exact readUntil_keepsFraming timeout.2 (start + timeout.1) later timed after taken received result
          follows returned

/-- **Successive calls** take the events of the stream one after the other. -/
theorem readLines_follows (timeouts : List (τ × PyStr)) :
    ∀ (timed : TimedConnection τ) (taken : List FramingEvent) (received : Bytes),
      timed.Follows taken received →
      ∃ consumed, timed.device = consumed ++ (readLines timeouts timed).2.device ∧
        (readLines timeouts timed).2.Follows
          (taken ++ (readLines timeouts timed).1.flatMap handedOut)
          (received ++ deviceBytes consumed) := by
  induction timeouts with
  | nil =>
      intro timed taken received follows
      refine ⟨[], rfl, ?_⟩
      rw [readLines, List.flatMap_nil, deviceBytes, List.append_nil, List.append_nil]
      exact follows
  | cons timeout timeouts ih =>
      intro timed taken received follows
      rw [readLines]
      cases returned : readLineWithin timeout timed with
      | none =>
          refine ⟨[], rfl, ?_⟩
          rw [List.flatMap_nil, deviceBytes, List.append_nil, List.append_nil]
          exact follows
      | some call =>
          obtain ⟨first, same, followed⟩ := (readLineWithin_keepsFraming timeout follows returned).follows
          obtain ⟨later, rest, followedLater⟩ := ih call.2 _ _ followed
          refine ⟨first ++ later, ?_, ?_⟩
          · rw [same, List.append_assoc]
            exact congrArg _ rest
          · rw [deviceBytes_append, ← List.append_assoc, List.flatMap_cons, ← List.append_assoc]
            exact followedLater

/-- **A call with a timeout that is not negative** is the call of `read_line` on a connection with
some answers. -/
theorem readLine_of_readLineWithin {timeout : τ × PyStr} (nonnegative : ¬timeout.1 < 0)
    {timed after : TimedConnection τ} {result : Except TesterError Bytes}
    (returned : readLineWithin timeout timed = some (result, after)) :
    ∃ answers, SameCall timeout.2 answers timed after result := by
  rw [readLineWithin, if_neg nonnegative] at returned
  cases clock : timed.clock with
  | nil =>
      rw [clock] at returned
      cases returned
  | cons start later =>
      rw [clock] at returned
      exact awaitLine_of_readUntil timeout.2 (start + timeout.1) later timed after result returned

/-- The calls of `read_line` on a connection, with what they return or raise. -/
def attemptReads (timeouts : List (τ × PyStr)) : ConnectionCall (List (Except TesterError Bytes)) :=
  timeouts.mapM fun timeout => attempt (readLine timeout.2)

/-- **Successive calls** come to the same on a connection with some answers. -/
theorem attemptReads_of_readLines (timeouts : List (τ × PyStr))
    (nonnegative : ∀ timeout ∈ timeouts, ¬timeout.1 < 0) (timed : TimedConnection τ) :
    ∃ answers, ∀ connection : Connection, Matches timed connection → connection.reads = answers →
      ∃ last, attemptReads (timeouts.take (readLines timeouts timed).1.length) connection =
          some (.ok (readLines timeouts timed).1, last) ∧
        Matches (readLines timeouts timed).2 last := by
  induction timeouts generalizing timed with
  | nil => exact ⟨[], fun connection same _ => ⟨connection, rfl, same⟩⟩
  | cons timeout timeouts ih =>
      rw [readLines]
      cases returned : readLineWithin timeout timed with
      | none => exact ⟨[], fun connection same _ => ⟨connection, rfl, same⟩⟩
      | some call =>
          obtain ⟨result, after⟩ := call
          obtain ⟨answers, first⟩ :=
            readLine_of_readLineWithin (nonnegative timeout List.mem_cons_self) returned
          obtain ⟨later, rest⟩ :=
            ih (fun timeout listed => nonnegative timeout (List.mem_cons_of_mem _ listed)) after
          refine ⟨answers ++ later, fun connection same reads => ?_⟩
          obtain ⟨middle, called, same, left⟩ := first later connection same
          obtain ⟨last, performed, same⟩ := rest middle same left
          have attempted : attempt (readLine timeout.2) connection =
              some (.ok result, middle) := by
            show (some (awaitLine timeout.2 connection.reads connection)).map _ = _
            rw [reads, called]
            rfl
          refine ⟨last, ?_, same⟩
          show attemptReads (timeout :: _) connection = _
          rw [attemptReads, List.mapM_cons]
          exact (bind_returned attempted).trans (bind_returned performed)

/-- **Calls with a clock are calls on a connection**: on one that has just been opened, with some
answers of its device. -/
theorem readLines_onConnection (port : PyStr) (clock : List τ) (device : List DeviceRead)
    (timeouts : List (τ × PyStr)) (nonnegative : ∀ timeout ∈ timeouts, ¬timeout.1 < 0)
    (writes : List WriteAnswer) (answers : List OperatorAnswer) (polls : List (Option PyStr)) :
    ∃ reads last,
      attemptReads (timeouts.take (readLines timeouts (.opened port clock device)).1.length)
          (.opened port reads writes answers polls) =
        some (.ok (readLines timeouts (.opened port clock device)).1, last) ∧
      last.framer = (readLines timeouts (.opened port clock device)).2.framer := by
  obtain ⟨reads, same⟩ := attemptReads_of_readLines timeouts nonnegative (.opened port clock device)
  obtain ⟨last, performed, matches_⟩ :=
    same (.opened port reads writes answers polls) ⟨rfl, rfl⟩ rfl
  exact ⟨reads, last, performed, matches_.framer⟩

/-- **Reads neither lose nor duplicate lines**: whatever the clock and the device do, what the
calls have returned, followed by what the framer still holds, is the framing of the bytes read so
far, and the line in progress is kept as well. A further call raises an error of the transport,
such as `UsbTimeoutError`, only once the framer holds neither a line nor an error. -/
theorem reads_keep_framing (port : PyStr) (clock : List τ) (device : List DeviceRead)
    (timeouts : List (τ × PyStr)) :
    (∃ consumed,
      device = consumed ++ (readLines timeouts (.opened port clock device)).2.device ∧
      (readLines timeouts (.opened port clock device)).1.flatMap handedOut ++
          (readLines timeouts (.opened port clock device)).2.framer.events.map eventOf =
        framingEvents maxLineLength (deviceBytes consumed) ∧
      (readLines timeouts (.opened port clock device)).2.framer.Follows maxLineLength
        ((readLines timeouts (.opened port clock device)).1.flatMap handedOut)
        (deviceBytes consumed)) ∧
    ∀ (timeout : τ × PyStr) (error : UsbTransportError) (after : TimedConnection τ),
      readLineWithin timeout (readLines timeouts (.opened port clock device)).2 =
          some (.error (.usbTransport error), after) →
        after.framer.events = [] := by
  have opened : (TimedConnection.opened port clock device).Follows [] [] :=
    ⟨NewlineFramer.fresh_follows maxLineLength, rfl, fun _ listed => by cases listed⟩
  obtain ⟨consumed, same, follows⟩ := readLines_follows timeouts _ _ _ opened
  refine ⟨⟨consumed, same, follows.inStep.events_eq, follows.inStep⟩, ?_⟩
  intro timeout error after returned
  exact (readLineWithin_keepsFraming timeout follows returned).drained error rfl

end Calls

/-! ## A line, an over-long one and a timeout -/

/-- Bytes without a line feed fill up the line. -/
theorem feed_clean {chunk : Bytes} (clean : lineFeed ∉ chunk) (framer : NewlineFramer)
    (collecting : framer.discarding = false)
    (fits : framer.line.length + chunk.length ≤ framer.maxLineLength) :
    framer.feed chunk = { framer with line := framer.line ++ chunk } := by
  induction chunk generalizing framer with
  | nil =>
      rw [List.append_nil]
      rfl
  | cons byte chunk ih =>
      obtain ⟨other, clean⟩ := not_or.mp (List.mem_cons.not.mp clean)
      rw [List.length_cons] at fits
      have fed : framer.feedByte byte = { framer with line := framer.line ++ [byte] } := by
        rw [NewlineFramer.feedByte, if_neg (Bool.eq_false_iff.mp collecting), if_neg (Ne.symm other),
          if_neg (by omega)]
      have rest := ih clean { framer with line := framer.line ++ [byte] } collecting (by
        show (framer.line ++ [byte]).length + chunk.length ≤ framer.maxLineLength
        rw [List.length_append, List.length_singleton]
        omega)
      rw [NewlineFramer.feed, List.foldl_cons, fed]
      refine rest.trans ?_
      rw [List.append_assoc]
      rfl

/-- **A byte more than a line may have** makes the framer discard it. -/
theorem feed_overlong {limit : Nat} {byte : UInt8} (other : byte ≠ lineFeed) :
    (NewlineFramer.fresh limit).feed (List.replicate limit byte ++ [byte]) =
      { NewlineFramer.fresh limit with discarding := true } := by
  have clean : lineFeed ∉ List.replicate limit byte := fun listed =>
    other (List.eq_of_mem_replicate listed).symm
  have filled := feed_clean clean (.fresh limit) rfl (by
    rw [List.length_replicate]
    exact Nat.le_of_eq (Nat.zero_add limit))
  rw [NewlineFramer.feed, List.foldl_append]
  refine (congrArg (List.foldl NewlineFramer.feedByte · [byte]) filled).trans ?_
  simp [NewlineFramer.feedByte, NewlineFramer.fresh, other]

/-- A connection to a device, with the readings of its clock. -/
def openedPort (clock : List Int) (device : List DeviceRead) : TimedConnection Int :=
  .opened (pyStr "port") clock device

/-- A timeout of one second. -/
def oneSecond : Int × PyStr := (1, pyStr "1")

/-- Three calls: the first one returns a line, the second one raises `LineTooLongError`, and the
third one `UsbTimeoutError`, when the framer holds nothing more. -/
theorem reads_keep_framing_mixed : ∃ (long : Bytes) (middle after : TimedConnection Int),
    readLines [oneSecond, oneSecond]
        (openedPort [0, 0, 0, 0, 0, 0, 1]
          [.chunk (ascii "ok\n"), .chunk long, .chunk [lineFeed]]) =
      ([.ok (ascii "ok"), .error (.framing (incomingLineTooLong maxLineLength))], middle) ∧
    readLineWithin oneSecond middle =
      some (.error (readError (pyStr "port") (pyStr "1") .expired), after) ∧
    framingEvents maxLineLength (ascii "ok\n" ++ long ++ [lineFeed]) =
      [.line (ascii "ok"), .tooLong] ∧
    after.framer.events = [] := by
  obtain ⟨long, overlong⟩ : ∃ long, (NewlineFramer.fresh maxLineLength).feed long =
      { NewlineFramer.fresh maxLineLength with discarding := true } :=
    ⟨_, feed_overlong (show 'a'.toUInt8 ≠ lineFeed by decide)⟩
  have first : readLineWithin oneSecond (openedPort [0, 0, 0, 0, 0, 0, 1]
        [.chunk (ascii "ok\n"), .chunk long, .chunk [lineFeed]]) =
      some (.ok (ascii "ok"), openedPort [0, 0, 0, 0, 1] [.chunk long, .chunk [lineFeed]]) := rfl
  have second : readLineWithin oneSecond
        (openedPort [0, 0, 0, 0, 1] [.chunk long, .chunk [lineFeed]]) =
      some (.error (.framing (incomingLineTooLong maxLineLength)), openedPort [0, 1] []) := by
    show readUntil (pyStr "1") (1 : Int) [0, 0, 1]
      ⟨pyStr "port", (NewlineFramer.fresh maxLineLength).feed long, _, [.chunk [lineFeed]]⟩ = _
    rw [overlong]
    rfl
  have third : readLineWithin oneSecond (openedPort [0, 1] []) =
      some (.error (readError (pyStr "port") (pyStr "1") .expired), openedPort [] []) := rfl
  have calls : readLines [oneSecond, oneSecond]
        (openedPort [0, 0, 0, 0, 0, 0, 1]
          [.chunk (ascii "ok\n"), .chunk long, .chunk [lineFeed]]) =
      ([.ok (ascii "ok"), .error (.framing (incomingLineTooLong maxLineLength))],
        openedPort [0, 1] []) := by
    rw [readLines, first]
    dsimp only
    rw [readLines, second]
    rfl
  refine ⟨long, _, _, calls, third, ?_⟩
  obtain ⟨⟨consumed, same, framed, _⟩, drained⟩ :=
    reads_keep_framing (pyStr "port") [0, 0, 0, 0, 0, 0, (1 : Int)]
      [.chunk (ascii "ok\n"), .chunk long, .chunk [lineFeed]] [oneSecond, oneSecond]
  rw [← openedPort, calls] at same framed drained
  refine ⟨?_, drained _ _ _ third⟩
  obtain rfl : [.chunk (ascii "ok\n"), .chunk long, .chunk [lineFeed]] = consumed :=
    same.trans (List.append_nil consumed)
  rw [deviceBytes, deviceBytes, deviceBytes, deviceBytes, List.append_nil, ← List.append_assoc]
    at framed
  exact framed.symm

end FlightComputer.BoardTester
