import FlightComputer.BackedResults
import FlightComputer.BoardTester.OrderlyWrites
import FlightComputer.WireResponses

/-!
# The wire refines the bench

Between the dispatch of the tester and the firmware no byte is lost, so that the bytes may be
forgotten: every run over the wire is one over channels of lines, with the same session of the
firmware and the same dialogue of the tester (`wire_refines_bench`). The reason is the discipline of
the tester. It writes a request when the firmware has taken the one before, every request is shorter
than the raw ring, and nothing is written after a write that has failed.

What is known of the bench is therefore known of the wire. The results that the tester returns are
backed by the firmware (`results_are_backed_on_the_wire`), and the tester never waits for a line
while nothing is under way (`wire_never_stalls`).
-/

set_option autoImplicit false

namespace FlightComputer

open Library Raising Firmware BoardTester

variable {δ : Type}

/-! ## Matching -/

/-- **A wire matches a bench**, and the mode of the writes of the tester. -/
structure Wire.Matches (s : Wire δ) (t : Bench δ × Bool) : Prop where
  carries : s.Carries t.2 t.1.requests
  tells : s.Tells t.1.responses
  session : t.1.session = s.session
  handled : t.1.handled = s.handled

theorem Wire.Matches.initial (port : PyStr) (device : δ) :
    (Wire.initial port device).Matches (.initial device, true) :=
  ⟨.initial port device, .initial port device, rfl, rfl⟩

/-- Whether the writes have succeeded may be forgotten. -/
theorem Wire.Carries.forget {s : Wire δ} {intact : Bool} {requests : List Bytes}
    (carries : s.Carries intact requests) : s.Carries false requests := by
  obtain ⟨coming, same, frameable, left, stream, clean, _⟩ := carries.coming
  refine { carries with coming := ⟨coming, same, frameable, left, stream, clean, ?_⟩ }
  exact fun absurdity => absurd absurdity Bool.false_ne_true

section Refines

variable {registry : ComponentTestRegistry δ} {metadata : SessionMetadata} {s : Wire δ}
  {t : Bench δ × Bool}

/-- What the session has done when a response is queued. -/
theorem session_respond {transport : UsbCdcTransport} (session : SessionState δ)
    (room : usbCdcTransportCanQueueLine transport = true) (response : Option Bytes)
    (requests responses : List Bytes) (handled : List HandledEvent) :
    (Bench.respond response ⟨requests, session, responses, handled⟩).session =
      (queueResponse response ⟨transport, session⟩).session := by
  rw [queueResponse_session]
  simp only [Bench.respond, queueAccepts_eq room]

/-- **A turn of the session** is a move on the bench. -/
theorem Wire.Matches.turned {u : SessionSystem δ} (matched : s.Matches t)
    (turned : SessionTurn registry metadata ⟨s.transport, s.session⟩ u) :
    ∃ b, ∃ move, FirmwareMoves registry metadata t.1 move b ∧
      Wire.Matches { s with transport := u.transport, session := u.session } (b, t.2) := by
  obtain ⟨⟨requests, session, responses, handled⟩, intact⟩ := t
  obtain ⟨carries, tells, rfl, same⟩ := matched
  cases turned with
  | @line transport line response session room read answer =>
      obtain ⟨later, rfl, carries⟩ := carries.read read
      have room' : usbCdcTransportCanQueueLine transport = true :=
        (canQueueLine_readLine read).trans room
      have quiet : SameTransmitSide s.transport transport := by
        have side := SameTransmitSide.readLine sessionProtocolLineCapacity s.transport
        rw [read] at side
        exact side
      have tells : Wire.Tells { s with transport := transport } responses :=
        tells.congr quiet rfl rfl rfl
      refine ⟨_, .line, .line rfl answer, ?_, tells.queueResponse session room' response, ?_, same⟩
      · exact carries.congr (sameReceive_queueResponse response ⟨transport, session⟩) rfl rfl
      · exact session_respond session room' response _ _ _
  | @component definition response session room active update =>
      refine ⟨_, .component, .component active update, ?_,
        tells.queueResponse session room response, ?_, same⟩
      · exact carries.congr (sameReceive_queueResponse response ⟨s.transport, session⟩) rfl rfl
      · exact session_respond session room response _ _ _

/-- **The moves** are moves on the bench, or nothing. -/
theorem Wire.Matches.moved {s' : Wire δ} {move : WireMove} (matched : s.Matches t)
    (moved : WireMoves registry metadata s move s') :
    ∃ t', ((bench registry metadata).watched stillIntact).Reaches t t' ∧ s'.Matches t' := by
  obtain ⟨carries, tells, session, handled⟩ := id matched
  cases moved with
  | arrive count =>
      exact ⟨t, .refl t, carries.arrive count,
        tells.congr (SameTransmitSide.cdcReceive _ _) rfl rfl rfl, session, handled⟩
  | pop idle taken =>
      have same := SameTransmitSide.popReceivedByte s.transport
      rw [taken] at same
      exact ⟨t, .refl t, carries.pop idle taken, tells.congr same rfl rfl rfl, session, handled⟩
  | popEmpty idle taken =>
      have same := SameTransmitSide.popReceivedByte s.transport
      rw [taken] at same
      exact ⟨t, .refl t, carries.popEmpty taken,
        tells.congr (same.trans (SameTransmitSide.discardIfOverflowed _ _)) rfl rfl rfl, session,
        handled⟩
  | frame taken =>
      exact ⟨t, .refl t, carries.frame taken,
        tells.congr (SameTransmitSide.frameReceivedByte _ _ _) rfl rfl rfl, session, handled⟩
  | transmit idle usb =>
      exact ⟨t, .refl t, carries.congr (sameReceive_transmit usb s.transport) rfl rfl,
        tells.transmit usb, session, handled⟩
  | transfer running count =>
      exact ⟨t, .refl t, carries.congr ⟨rfl, rfl, rfl, rfl, rfl, rfl, rfl, rfl⟩ rfl rfl,
        tells.transfer running count, session, handled⟩
  | complete gone =>
      exact ⟨t, .refl t, carries.congr ⟨rfl, rfl, rfl, rfl, rfl, rfl, rfl, rfl⟩ rfl rfl,
        tells.complete gone, session, handled⟩
  | turn idle turned =>
      obtain ⟨b, move, moved, matched⟩ := matched.turned turned
      have step : ((bench registry metadata).watched stillIntact).moves t move (b, t.2) :=
        ⟨moved, rfl⟩
      exact ⟨(b, t.2), .head step (.refl _), matched⟩

/-- What a write may fail with. -/
theorem isConnectionError_of_writeFrame {port seconds : PyStr} {answers later : List WriteAnswer}
    {frame : Bytes} {error : TesterError}
    (failed : writeFrame port seconds answers frame = (.error error, later)) :
    IsConnectionError error := by
  have kinds : ∀ answer, IsConnectionError (writeError port seconds answer) := by
    intro answer
    cases answer with
    | expired => exact .usbTransport _
    | accepted count => exact .usbTransport _
    | timedOut => exact .usbTransport _
    | failed error => exact .usbTransport _
    | interrupted => exact .keyboardInterrupt
  fun_induction writeFrame port seconds answers frame with
  | case1 => cases failed
  | case2 =>
      cases failed
      exact .keyboardInterrupt
  | case3 _ _ _ _ ih => exact ih failed
  | case4 =>
      cases failed
      exact kinds _

/-- **The replies** are replies on the bench, if the tester takes its turns and writes in order. -/
theorem Wire.Matches.replied {s' : Wire δ} {operation : TesterOperation} {reply : operation.Reply}
    (matched : s.Matches t) (allowed : TakesTurn metadata t.1 operation ∧ MayWrite t.2 operation)
    (replied : WireReplies s operation reply s') :
    ∃ t', ((bench registry metadata).watched stillIntact).replies t operation reply t' ∧
      s'.Matches t' := by
  obtain ⟨⟨requests, session, responses, handled⟩, intact⟩ := t
  obtain ⟨carries, tells, rfl, rfl⟩ := id matched
  obtain ⟨turn, permitted⟩ := allowed
  cases replied with
  | @written payload frame seconds answers later encoded accepted =>
      obtain ⟨rfl, rfl⟩ : requests = [] ∧ intact = true := ⟨turn, permitted.1⟩
      obtain ⟨frameable, rfl⟩ := frameable_of_encodeLine encoded
      refine ⟨(⟨[payload], _, responses, _⟩, true), ⟨.written encoded, rfl⟩, ?_, ?_, rfl, rfl⟩
      · refine carries.write ?_ (Nat.le_refl 1) ⟨?_, [], ?_, List.not_mem_nil, fun _ => rfl⟩
        · rw [List.length_append, List.length_singleton]
          exact Nat.le_trans (Nat.succ_le_succ permitted.2) (by decide)
        · intro line listed
          rw [List.mem_singleton.mp listed]
          exact frameable
        · rw [List.map_singleton, List.flatten_singleton, List.append_nil, transmitted]
      · exact tells.congr (.refl _) rfl rfl rfl
  | @notWritten payload frame seconds answers later error encoded failed count =>
      obtain ⟨rfl, rfl⟩ : requests = [] ∧ intact = true := ⟨turn, permitted.1⟩
      have lost := isConnectionError_of_writeFrame failed
      obtain ⟨frameable, rfl⟩ := frameable_of_encodeLine encoded
      have short : ((payload ++ [lineFeed]).take count).length ≤ usbCdcRawReceiveCapacity - 1 := by
        refine Nat.le_trans (List.length_take_le' _ _) ?_
        rw [List.length_append, List.length_singleton]
        exact Nat.le_trans (Nat.succ_le_succ permitted.2) (by decide)
      by_cases whole : payload.length < count
      · -- the whole line is on the wire
        have all : (payload ++ [lineFeed]).take count = payload ++ [lineFeed] := by
          apply List.take_of_length_le
          rw [List.length_append, List.length_singleton]
          exact whole
        refine ⟨(⟨[payload], _, responses, _⟩, false), ⟨.writtenLate encoded lost, rfl⟩, ?_, ?_, rfl,
          rfl⟩
        · refine carries.write short (Nat.le_refl 1) ⟨?_, [], ?_, List.not_mem_nil, fun _ => rfl⟩
          · intro line listed
            rw [List.mem_singleton.mp listed]
            exact frameable
          · rw [all, List.map_singleton, List.flatten_singleton, List.append_nil, transmitted]
        · exact tells.congr (.refl _) rfl rfl rfl
      · -- a first part of it is, which stays incomplete
        have part : (payload ++ [lineFeed]).take count = payload.take count :=
          List.take_append_of_le_length (Nat.not_lt.mp whole)
        refine ⟨(⟨[], _, responses, _⟩, false), ⟨.notWritten lost, rfl⟩, ?_, ?_, rfl, rfl⟩
        · refine carries.write short (Nat.zero_le 1)
            ⟨fun _ listed => absurd listed List.not_mem_nil, payload.take count, part, ?_,
              fun absurdity => absurd absurdity Bool.false_ne_true⟩
          exact fun listed => frameable.noLineFeed (List.mem_of_mem_take listed)
        · exact tells.congr (.refl _) rfl rfl rfl
  | notEncoded refused =>
      exact ⟨(⟨requests, _, responses, _⟩, false), ⟨.notWritten (.framing _), rfl⟩, carries.forget,
        tells, rfl, rfl⟩
  | read arrived called used =>
      obtain ⟨responses', gives, tells⟩ := tells.read arrived called used
      cases gives with
      | line first =>
          exact ⟨(⟨requests, _, _, _⟩, intact), ⟨.read first, rfl⟩,
            carries.congr ⟨rfl, rfl, rfl, rfl, rfl, rfl, rfl, rfl⟩ rfl rfl, tells, rfl, rfl⟩
      | nothing failed =>
          exact ⟨(⟨requests, _, _, _⟩, intact), ⟨.notRead failed, rfl⟩,
            carries.congr ⟨rfl, rfl, rfl, rfl, rfl, rfl, rfl, rfl⟩ rfl rfl, tells, rfl, rfl⟩
  | asked question answer => exact ⟨_, ⟨.asked _ question answer, rfl⟩, matched⟩
  | handles commandId testType event =>
      exact ⟨(_, intact), ⟨.handles _ commandId testType event, rfl⟩,
        carries.congr ⟨rfl, rfl, rfl, rfl, rfl, rfl, rfl, rfl⟩ rfl rfl,
        tells.congr (.refl _) rfl rfl rfl, rfl, rfl⟩
  | completes commandId testType completion =>
      exact ⟨_, ⟨.completes _ commandId testType completion, rfl⟩, matched⟩
  | rounds bound => exact ⟨_, ⟨.rounds _ bound, rfl⟩, matched⟩

/-- **The wire refines the bench**, as far as the tester is disciplined. -/
theorem refines_bench :
    (wire registry metadata).Refines ((bench registry metadata).watched stillIntact)
      (fun t operation => TakesTurn metadata t.1 operation ∧ MayWrite t.2 operation)
      Wire.Matches where
  moved := Wire.Matches.moved
  replied := Wire.Matches.replied

end Refines

/-! ## Stillness -/

/-- **The wire is still**: no byte or line is on its way to the firmware or to the tester, and no
test is active. -/
structure Wire.IsStill (s : Wire δ) : Prop where
  unframed : s.unframed = []
  received : s.transport.receivedLines.contents = []
  inactive : s.session.runner.activeDefinition = none
  queued : s.transport.transmitLines.contents = []
  incoming : s.incoming = []
  unread : s.connection.framer.events = []

/-- On a still wire every request has been taken. -/
theorem Wire.Carries.nothing_asked {s : Wire δ} {intact : Bool} {requests : List Bytes}
    (carries : s.Carries intact requests) (still : s.IsStill) : requests = [] := by
  obtain ⟨coming, rfl, _, left, stream, _, _⟩ := carries.coming
  rw [still.received, List.nil_append]
  cases coming with
  | nil => rfl
  | cons line coming =>
      -- the line under assembly would hold the end of a line
      rw [still.unframed, List.append_nil] at stream
      refine absurd ?_ carries.clean
      rw [stream, List.map_cons, List.flatten_cons, transmitted]
      simp only [List.append_assoc, List.mem_append, List.mem_singleton, true_or, or_true]

/-- On a still wire every response has been read. -/
theorem Wire.Tells.nothing_told {s : Wire δ} {responses : List Bytes} (tells : s.Tells responses)
    (still : s.IsStill) : responses = [] := by
  obtain ⟨received, ahead, read, follows, taken, frameable, untransferred, whole⟩ := tells.stream
  obtain rfl : ahead = [] := untransferred.eq_nil still.queued
  obtain ⟨⟨before, same, inStep⟩, _⟩ := follows
  rw [tells.unread, sentBytes, List.append_nil] at same
  rw [still.incoming, List.append_nil, List.append_nil, ← same] at whole
  have events := inStep.events_eq
  rw [still.unread, List.map_nil, List.append_nil, taken, whole,
    framingEvents_of_frames (read ++ responses) frameable, List.map_append] at events
  exact List.map_eq_nil_iff.mp (List.self_eq_append_right.mp events)

/-! ## The dispatch over the wire -/

section Dispatch

variable {codes : BoschCodes} {metadata : SessionMetadata} {components : FlightComputerComponents}
  {port : PyStr} {tooDeep : PyStr → Bool} {interpreter : Interpreter}
  {configurations : LoadedConfigurations} {turns : List (Turn WireMove TesterOperation)}
  {s : Wire FlightComputerComponents}
  {rest : Dialogue TesterOperation TesterOperation.Reply
    (Except TesterError (List ComponentTestResult))}

/-- Every run over the wire has a run on the bench beside it. -/
theorem exists_benchRun (accepted : AreAccepted interpreter.colours configurations)
    (run : Run (wire (productionRegistry codes) metadata).Step
      (.initial port components,
        (TesterDialogue.dispatch tooDeep (createHandler interpreter) configurations).run) turns
      (s, rest)) :
    ∃ turns' t, Run (bench (productionRegistry codes) metadata).Step
      (.initial components,
        (TesterDialogue.dispatch tooDeep (createHandler interpreter) configurations).run) turns'
      (t.1, rest) ∧ s.Matches t := by
  have backed : (bench (productionRegistry codes) metadata).Holds (TakesTurn metadata) (Resting [])
      (TesterDialogue.dispatch tooDeep (createHandler interpreter) configurations) _ :=
    holds_dispatch_backed (tells_productionRegistry codes) (createHandler interpreter) configurations
  have orderly : Orderly
      (TesterDialogue.dispatch tooDeep (createHandler interpreter) configurations) :=
    orderly_dispatch accepted
  have holds := World.Holds.watched backed orderly
  obtain ⟨turns', t, run', matched⟩ := refines_bench.exists_run holds
    (Wire.Matches.initial port components) ⟨resting_initial components, rfl⟩ run
  exact ⟨turns', t, World.run_of_watched run', matched⟩

end Dispatch

/-! ### The barometer over the wire -/

/-- A USB stack that accepts every transfer. -/
def usbReady : UsbdAnswers := ⟨true, true, true⟩

/-- A request is written, arrives in one packet, is framed and is taken. -/
def requestTaken : List WireEvent :=
  [.tester none, .arrive 512, .transportProcess usbReady, .sessionProcess]

/-- A queued line is transferred, and the tester reads it. -/
def lineTold : List WireEvent :=
  [.transportProcess usbReady, .transfer 512, .complete, .tester none]

/-- The barometer is tested over the wire: its failure is told and handed over, its test ends, and
the result is returned. -/
def barometerOverTheWire : List WireEvent :=
  requestTaken ++ lineTold ++ requestTaken ++ lineTold ++ [.tester none] ++ lineTold ++
    [.tester none, .sessionProcess] ++ lineTold ++ [.tester none]

/-- The configuration of the barometer is in order. -/
theorem areAccepted_barometer : AreAccepted noColours barometerConfigurations where
  definitions := by
    intro definition listed
    obtain rfl := List.mem_singleton.mp listed
    exact ⟨by decide, fun _ => rfl, .inl rfl⟩
  distinct := by decide
  capable := by decide
  version4 := by decide
  capabilities := by decide

/-- A run over the wire that reports the failure of a barometer that does not answer. -/
theorem exists_barometerRun : ∃ turns s results,
    Run (wire (productionRegistry someCodes) releaseMetadata).Step
      (.initial (pyStr "COM3") silentBarometer, barometerDispatch.run) turns
      (s, .done (.ok results)) ∧
    results.map ComponentTestResult.status = [pyStr "failed"] ∧ s.handled.length = 1 := by
  have ends : (barometerOverTheWire.foldlM
      (performWireEvent (productionRegistry someCodes) releaseMetadata)
      (.initial (pyStr "COM3") silentBarometer, barometerDispatch.run)).bind (fun s =>
        (returnedResults s.2).map fun results =>
          (results.map ComponentTestResult.status, s.1.handled.length)) =
            some ([pyStr "failed"], 1) := by decide +kernel
  obtain ⟨⟨s, dialogue⟩, performed, comes⟩ := Option.bind_eq_some_iff.mp ends
  obtain ⟨results, returned, shown⟩ := Option.map_eq_some_iff.mp comes
  obtain ⟨statuses, handled⟩ := Prod.mk.inj shown
  obtain rfl := returnedResults_eq_some returned
  obtain ⟨turns, run⟩ := exists_wireRun_of_performed performed
  exact ⟨turns, s, results, run, statuses, handled⟩

/-! ### Every run over the wire -/

section Dispatch

variable {codes : BoschCodes} {metadata : SessionMetadata} {components : FlightComputerComponents}
  {port : PyStr} {tooDeep : PyStr → Bool} {interpreter : Interpreter}
  {configurations : LoadedConfigurations} {turns : List (Turn WireMove TesterOperation)}
  {s : Wire FlightComputerComponents}

/-- **The wire refines the bench**: whatever happens to the bytes, every run of the dispatch over the
wire is a run over channels of lines, with the same dialogue, the same session and the same handled
events, and the transport has dropped nothing that it received. -/
theorem wire_refines_bench
    {rest : Dialogue TesterOperation TesterOperation.Reply
      (Except TesterError (List ComponentTestResult))}
    (accepted : AreAccepted interpreter.colours configurations)
    (run : Run (wire (productionRegistry codes) metadata).Step
      (.initial port components,
        (TesterDialogue.dispatch tooDeep (createHandler interpreter) configurations).run) turns
      (s, rest)) :
    (∃ turns' b, Run (bench (productionRegistry codes) metadata).Step
        (.initial components,
          (TesterDialogue.dispatch tooDeep (createHandler interpreter) configurations).run) turns'
        (b, rest) ∧ b.session = s.session ∧ b.handled = s.handled) ∧
      s.transport.receivedBytesDropped = 0 ∧ s.transport.completedLinesDropped = 0 := by
  obtain ⟨turns', t, run', matched⟩ := exists_benchRun accepted run
  exact ⟨⟨turns', t.1, run', matched.session, matched.handled⟩, matched.carries.bytesKept,
    matched.carries.linesKept⟩

/-- The failure of the barometer is told over the wire as on the bench. -/
theorem wire_refines_bench_barometer : ∃ turns s results,
    Run (wire (productionRegistry someCodes) releaseMetadata).Step
      (.initial (pyStr "COM3") silentBarometer, barometerDispatch.run) turns
      (s, .done (.ok results)) ∧
    s.handled.length = 1 ∧
    ∃ turns' b, Run (bench (productionRegistry someCodes) releaseMetadata).Step
      (.initial silentBarometer, barometerDispatch.run) turns' (b, .done (.ok results)) ∧
      b.session = s.session ∧ b.handled = s.handled := by
  obtain ⟨turns, s, results, run, _, handled⟩ := exists_barometerRun
  exact ⟨turns, s, results, run, handled, (wire_refines_bench areAccepted_barometer run).1⟩

/-- **Results are backed on the wire** as they are on the bench. -/
theorem results_are_backed_on_the_wire {results : List ComponentTestResult}
    (accepted : AreAccepted interpreter.colours configurations)
    (run : Run (wire (productionRegistry codes) metadata).Step
      (.initial port components,
        (TesterDialogue.dispatch tooDeep (createHandler interpreter) configurations).run) turns
      (s, .done (.ok results))) :
    DispatchBacked metadata (createHandler interpreter) configurations results
      s.session.actions := by
  obtain ⟨turns', t, run', matched⟩ := exists_benchRun accepted run
  obtain ⟨_, returned⟩ := World.Holds.of_run
    (holds_dispatch_backed (tells_productionRegistry codes) (createHandler interpreter)
      configurations)
    (resting_initial components) run'
  rw [← matched.session]
  exact (returned (.ok results) rfl).1

/-- The failure of the barometer is backed by the firmware behind the wire. -/
theorem results_are_backed_on_the_wire_barometer : ∃ turns s results,
    Run (wire (productionRegistry someCodes) releaseMetadata).Step
      (.initial (pyStr "COM3") silentBarometer, barometerDispatch.run) turns
      (s, .done (.ok results)) ∧
    results.map ComponentTestResult.status = [pyStr "failed"] ∧
    DispatchBacked releaseMetadata (createHandler ⟨fun _ => false, noColours⟩)
      barometerConfigurations results s.session.actions := by
  obtain ⟨turns, s, results, run, statuses, _⟩ := exists_barometerRun
  exact ⟨turns, s, results, run, statuses,
    results_are_backed_on_the_wire areAccepted_barometer run⟩

/-- **The tester never waits while the wire is still.** -/
theorem wire_never_stalls (accepted : AreAccepted interpreter.colours configurations)
    (fits : FitsOneLine metadata) {seconds : PyStr}
    {next : Except TesterError Bytes → Dialogue TesterOperation TesterOperation.Reply
      (Except TesterError (List ComponentTestResult))}
    (run : Run (wire (productionRegistry codes) metadata).Step
      (.initial port components,
        (TesterDialogue.dispatch tooDeep (createHandler interpreter) configurations).run) turns
      (s, .call (.readLine seconds) next)) : ¬s.IsStill := by
  obtain ⟨turns', t, run', matched⟩ := exists_benchRun accepted run
  obtain ⟨waits, _⟩ := World.Holds.of_run
    (holds_dispatch_backed (tells_productionRegistry codes) (createHandler interpreter)
      configurations)
    (resting_initial components) run'
  intro still
  rcases waits (.readLine seconds) next rfl fits with told | asked | active
  · exact told (matched.tells.nothing_told still)
  · exact asked (matched.carries.nothing_asked still)
  · rw [matched.session] at active
    exact active still.inactive

/-- The tester waits for the answer to START_TEST, whose bytes have not arrived. -/
theorem wire_never_stalls_barometer : ∃ turns s seconds next,
    Run (wire (productionRegistry someCodes) releaseMetadata).Step
      (.initial (pyStr "COM3") silentBarometer, barometerDispatch.run) turns
      (s, .call (.readLine seconds) next) ∧ ¬s.IsStill := by
  have ends : ([.tester none].foldlM
      (performWireEvent (productionRegistry someCodes) releaseMetadata)
      (.initial (pyStr "COM3") silentBarometer, barometerDispatch.run)).map
        (fun s => waitsForLine s.2) = some true := by decide +kernel
  obtain ⟨⟨s, dialogue⟩, performed, waits⟩ := Option.map_eq_some_iff.mp ends
  obtain ⟨seconds, next, rfl⟩ := exists_of_waitsForLine waits
  obtain ⟨turns, run⟩ := exists_wireRun_of_performed performed
  exact ⟨turns, s, seconds, next, run,
    wire_never_stalls areAccepted_barometer fitsOneLine_releaseMetadata run⟩

end Dispatch

end FlightComputer
