import FlightComputer.BackedResults

/-!
# Reports of what the components told

The details of a result are made on the tester, from the events that the handler was given. Seen from
the firmware they are made of the events that the component told during the test, with the values
that it put into them (`reports_are_measured`): the number of samples and the last of them, the
first pressure and temperature as the baseline, the data of the card, and the last failure. No event
is counted twice, none is left out, and none of another test is counted.
-/

set_option autoImplicit false

namespace FlightComputer

open Library Raising Firmware BoardTester

/-! ## Events of the component -/

/-- The name of an event, as the tester reads it. -/
def eventName (event : Firmware.ComponentTestEvent) : PyStr := codes (event.name.getD [])

/-- A line that tells an event of a component about its test. -/
def TellsEvent (test : ActiveTest) (line : Bytes) (event : Firmware.ComponentTestEvent) : Prop :=
  event.IsLabelled ∧ eventLine test.commandId (some test.type) (some event) = some line

/-- What is handed to the handler for an event. -/
def handedEvent (commandId : Int) (testType : PyStr) (event : Firmware.ComponentTestEvent) :
    BoardTester.ComponentTestEvent :=
  ⟨commandId, testType, eventName event, (eventData event).map loadedMembers⟩

/-- The updates of a test tell events of its component. -/
theorem Updates.exists_events {test : ActiveTest} {updates : List SessionAction}
    {lines : List Bytes} (updated : Updates test updates lines) :
    ∃ events, List.Forall₂ (TellsEvent test) lines events := by
  induction updated with
  | nothing => exact ⟨[], .nil⟩
  | running _ ih => exact ih
  | event _ told ih =>
      obtain ⟨events, tell⟩ := ih
      obtain ⟨event, labelled, built⟩ := told
      exact ⟨events ++ [event], List.rel_append tell (.cons ⟨labelled, built⟩ .nil)⟩

/-- **The tester is handed what the component told.** -/
theorem Told.eq_handedEvent {test : ActiveTest} (isTest : IsTest test) {line : Bytes}
    {event : Firmware.ComponentTestEvent} (tells : TellsEvent test line event) {commandId : Int}
    {testType : PyStr} {told : BoardTester.ComponentTestEvent}
    (decoded : Told commandId testType line told) : told = handedEvent commandId testType event := by
  obtain ⟨labelled, built⟩ := tells
  have plain := isPlainName_of_isTestTypeName isTest.named
  have names := hasPlainNames_of_isLabelled labelled
  obtain ⟨⟨rfl, rfl⟩, _⟩ :=
    decode_eventLine isTest.nonzero isTest.named labelled built decoded
  obtain ⟨type, event', pieces, same, same', spelled, rfl, _⟩ := eventLine_eq_some built
  obtain rfl := Option.some.inj same
  obtain rfl := Option.some.inj same'
  obtain ⟨name, hasName, text⟩ := flatten_testEventPieces test.commandId plain names spelled
  have data : ∀ members, eventData event = some members → (PyValue.dict members).Plain :=
    fun _ carried => plain_eventData names (isSome_of_testEventPieces spelled) carried
  rw [Told, text, decode_testEvent isTest.nonzero plain (names.name name hasName) data] at decoded
  rw [handedEvent, eventName, hasName, Option.getD_some]
  exact (ComponentTestMessage.event.inj (Except.ok.inj decoded)).symm

/-- The events of a name, in their order. -/
def eventsNamed (name : String) (events : List Firmware.ComponentTestEvent) :
    List Firmware.ComponentTestEvent :=
  events.filter fun event => decide (eventName event = pyStr name)

theorem eventsNamed_concat_of_eq {name : String} {event : Firmware.ComponentTestEvent}
    (named : eventName event = pyStr name) (events : List Firmware.ComponentTestEvent) :
    eventsNamed name (events ++ [event]) = eventsNamed name events ++ [event] := by
  simp [eventsNamed, named]

theorem eventsNamed_concat_of_ne {name : String} {event : Firmware.ComponentTestEvent}
    (named : eventName event ≠ pyStr name) (events : List Firmware.ComponentTestEvent) :
    eventsNamed name (events ++ [event]) = eventsNamed name events := by
  simp [eventsNamed, named]

/-! ## Measurements -/

/-- The six values of a sample. -/
def axisItems (event : Firmware.ComponentTestEvent) : List (PyStr × Int) :=
  [(pyStr "acceleration_raw_x", event.accelerationX.toInt),
    (pyStr "acceleration_raw_y", event.accelerationY.toInt),
    (pyStr "acceleration_raw_z", event.accelerationZ.toInt),
    (pyStr "gyroscope_raw_x", event.gyroscopeX.toInt),
    (pyStr "gyroscope_raw_y", event.gyroscopeY.toInt),
    (pyStr "gyroscope_raw_z", event.gyroscopeZ.toInt)]

/-- What the IMU has measured. -/
def imuMeasured (events : List Firmware.ComponentTestEvent) : ImuMeasurements where
  latest := ((eventsNamed "imu_sample" events).getLast?.map axisItems).getD []
  samples := (eventsNamed "imu_sample" events).length

/-- The details of a failure. -/
def failureItems (event : Firmware.ComponentTestEvent) : PyDict :=
  [(pyStr "stage", .str (codes (event.failureStage.getD []))),
    (pyStr "reason", .str (codes (event.failureReason.getD []))),
    (pyStr "code", .int event.failureCode.toInt)]

/-- The last failure that has been told. -/
def lastFailure (events : List Firmware.ComponentTestEvent) : Option PyDict :=
  (eventsNamed "component_failure" events).getLast?.map failureItems

/-- What samples of the barometer amount to: the first one is the baseline. -/
def measuredBy (samples : List Firmware.ComponentTestEvent) (failure : Option PyDict) :
    BarometerMeasurements where
  pressureCentiPa := samples.getLast?.map fun event => event.pressureCentiPa.toInt
  temperatureCentiC := samples.getLast?.map fun event => event.temperatureCentiC.toInt
  initialPressureCentiPa := samples.head?.map fun event => event.pressureCentiPa.toInt
  initialTemperatureCentiC := samples.head?.map fun event => event.temperatureCentiC.toInt
  samples := samples.length
  failure := failure

/-- What the barometer has measured. -/
def barometerMeasured (events : List Firmware.ComponentTestEvent) : BarometerMeasurements :=
  measuredBy (eventsNamed "barometer_sample" events) (lastFailure events)

/-- The data of the last event that carries some and is no failure. -/
def cardData (events : List Firmware.ComponentTestEvent) : PyDict :=
  (((events.filter fun event => (eventData event).isSome &&
    decide (eventName event ≠ pyStr "component_failure")).getLast?.bind eventData).map
      loadedMembers).getD []

/-- What the test of the card has told. -/
def sdCardMeasured (events : List Firmware.ComponentTestEvent) : SdCardProgress where
  events := events.map eventName
  card := cardData events
  failure := lastFailure events

/-! ## What the handlers record -/

section Records

variable {events : List Firmware.ComponentTestEvent} {event : Firmware.ComponentTestEvent}
  {commandId : Int} {testType : PyStr}

/-- **A sample of the IMU is recorded.** -/
theorem imuRecordEvent_handed {measurements : ImuMeasurements}
    (recorded : imuRecordEvent (imuMeasured events) (handedEvent commandId testType event) =
      .ok measurements) : measurements = imuMeasured (events ++ [event]) := by
  rw [imuRecordEvent, handedEvent] at recorded
  dsimp only at recorded
  split_ifs at recorded with other
  · rw [← Except.ok.inj recorded, imuMeasured, imuMeasured, eventsNamed_concat_of_ne other]
  · have named : eventName event = pyStr "imu_sample" := Decidable.not_not.mp other
    rw [imuMeasured, eventsNamed_concat_of_eq named, List.getLast?_concat, List.length_append]
    rw [eventData] at recorded
    cases kind : event.kind with
    | imuSample =>
        rw [kind] at recorded
        exact (Except.ok.inj recorded).symm
    | message =>
        rw [kind] at recorded
        cases recorded
    | barometerSample =>
        rw [kind] at recorded
        cases recorded
    | sdCardInfo =>
        rw [kind] at recorded
        cases recorded
    | failure =>
        rw [kind] at recorded
        cases recorded

/-- A text of the failure details that is accepted. -/
theorem requireFailureText_eq_ok {data : PyDict} {key text accepted : PyStr}
    (held : data.lookup key = some (.str text))
    (required : requireFailureText data key = .ok accepted) : accepted = text := by
  rw [requireFailureText, held] at required
  dsimp only at required
  split_ifs at required
  · cases required
  · exact (Except.ok.inj required).symm

/-- **The details of a failure** are those that the component told. -/
theorem requireFailureDetails_handed {items : PyDict}
    (required : requireFailureDetails (handedEvent commandId testType event) = .ok items) :
    items = failureItems event := by
  rw [requireFailureDetails, handedEvent, eventData] at required
  cases kind : event.kind with
  | failure =>
      rw [kind] at required
      obtain ⟨stage, staged, required⟩ := (except_bind_eq_ok_iff _ _ _).mp required
      obtain ⟨reason, reasoned, required⟩ := (except_bind_eq_ok_iff _ _ _).mp required
      obtain rfl := requireFailureText_eq_ok rfl staged
      obtain rfl := requireFailureText_eq_ok rfl reasoned
      exact (Except.ok.inj required).symm
  | message =>
      rw [kind] at required
      cases required
  | imuSample =>
      rw [kind] at required
      cases required
  | barometerSample =>
      rw [kind] at required
      cases required
  | sdCardInfo =>
      rw [kind] at required
      cases required

theorem lastFailure_concat_of_eq (named : eventName event = pyStr "component_failure") :
    lastFailure (events ++ [event]) = some (failureItems event) := by
  rw [lastFailure, eventsNamed_concat_of_eq named, List.getLast?_concat, Option.map_some]

theorem lastFailure_concat_of_ne (named : eventName event ≠ pyStr "component_failure") :
    lastFailure (events ++ [event]) = lastFailure events := by
  rw [lastFailure, eventsNamed_concat_of_ne named, lastFailure]

/-- A sample that follows others, or is the first one. -/
theorem measuredBy_concat (samples : List Firmware.ComponentTestEvent)
    (event : Firmware.ComponentTestEvent) (failure : Option PyDict) :
    measuredBy (samples ++ [event]) failure =
      (measuredBy samples failure).withSample event.pressureCentiPa.toInt
        event.temperatureCentiC.toInt := by
  cases samples with
  | nil => rfl
  | cons first later =>
      simp only [measuredBy, BarometerMeasurements.withSample, List.getLast?_concat,
        List.length_append]
      rfl

/-- **A measurement of the barometer is recorded.** -/
theorem barometerRecordEvent_handed {measurements : BarometerMeasurements}
    (recorded : barometerRecordEvent (barometerMeasured events)
      (handedEvent commandId testType event) = .ok measurements) :
    measurements = barometerMeasured (events ++ [event]) := by
  have ignored : eventName event ≠ pyStr "barometer_sample" →
      eventName event ≠ pyStr "component_failure" →
        barometerMeasured (events ++ [event]) = barometerMeasured events := by
    intro noSample noFailure
    rw [barometerMeasured, eventsNamed_concat_of_ne noSample, lastFailure_concat_of_ne noFailure,
      barometerMeasured]
  rw [barometerRecordEvent] at recorded
  split_ifs at recorded with stabilizing failing other
  · have named : eventName event = pyStr "barometer_stabilizing" := stabilizing
    rw [ignored (by rw [named]; decide) (by rw [named]; decide)]
    exact (Except.ok.inj recorded).symm
  · have named : eventName event = pyStr "component_failure" := failing
    obtain ⟨items, required, made⟩ := (except_bind_eq_ok_iff _ _ _).mp recorded
    obtain rfl := requireFailureDetails_handed required
    rw [← Except.ok.inj made, barometerMeasured, barometerMeasured, lastFailure_concat_of_eq named,
      eventsNamed_concat_of_ne (by rw [named]; decide)]
    rfl
  · rw [ignored other failing]
    exact (Except.ok.inj recorded).symm
  · have named : eventName event = pyStr "barometer_sample" := Decidable.not_not.mp other
    rw [barometerMeasured, eventsNamed_concat_of_eq named, measuredBy_concat,
      lastFailure_concat_of_ne (by rw [named]; decide)]
    rw [handedEvent, eventData] at recorded
    cases kind : event.kind with
    | barometerSample =>
        rw [kind] at recorded
        exact (Except.ok.inj recorded).symm
    | message =>
        rw [kind] at recorded
        cases recorded
    | imuSample =>
        rw [kind] at recorded
        cases recorded
    | sdCardInfo =>
        rw [kind] at recorded
        cases recorded
    | failure =>
        rw [kind] at recorded
        cases recorded

/-- **What is told about the card is recorded.** -/
theorem sdCardHandleEvent_handed {progress : SdCardProgress}
    (recorded : sdCardHandleEvent (sdCardMeasured events) (handedEvent commandId testType event) =
      .ok progress) : progress = sdCardMeasured (events ++ [event]) := by
  have listed : (events ++ [event]).map eventName = events.map eventName ++ [eventName event] := by
    rw [List.map_append, List.map_singleton]
  rw [sdCardHandleEvent] at recorded
  dsimp only at recorded
  rw [sdCardMeasured, listed]
  by_cases failing : eventName event = pyStr "component_failure"
  · rw [if_pos (show (handedEvent commandId testType event).event = _ from failing)] at recorded
    obtain ⟨items, required, made⟩ := (except_bind_eq_ok_iff _ _ _).mp recorded
    obtain rfl := requireFailureDetails_handed required
    have card : cardData (events ++ [event]) = cardData events := by
      simp [cardData, failing]
    rw [← Except.ok.inj made, lastFailure_concat_of_eq failing, card]
    rfl
  · rw [if_neg (show ¬(handedEvent commandId testType event).event = _ from failing)] at recorded
    rw [lastFailure_concat_of_ne failing]
    cases carried : eventData event with
    | none =>
        have card : cardData (events ++ [event]) = cardData events := by
          simp [cardData, carried]
        have data : (handedEvent commandId testType event).data = none := by
          rw [handedEvent, carried, Option.map_none]
        rw [data] at recorded
        rw [← Except.ok.inj recorded, card]
        rfl
    | some members =>
        have card : cardData (events ++ [event]) = loadedMembers members := by
          simp [cardData, carried, failing]
        have data : (handedEvent commandId testType event).data = some (loadedMembers members) := by
          rw [handedEvent, carried, Option.map_some]
        rw [data] at recorded
        dsimp only at recorded
        rw [card]
        split_ifs at recorded
        · obtain ⟨_, _, made⟩ := (except_bind_eq_ok_iff _ _ _).mp recorded
          exact (Except.ok.inj made).symm
        · exact (Except.ok.inj recorded).symm

end Records

/-! ## What the handlers have recorded in the end -/

section Follows

variable {commandId : Int} {testType : PyStr} {σ : Type}

/-- **The tester is handed all events of the component**, in their order. -/
theorem handed_of_told {test : ActiveTest} (isTest : IsTest test) {lines : List Bytes}
    {events : List Firmware.ComponentTestEvent} (tell : List.Forall₂ (TellsEvent test) lines events)
    {told : List BoardTester.ComponentTestEvent}
    (decoded : List.Forall₂ (Told commandId testType) lines told) :
    told = events.map (handedEvent commandId testType) := by
  induction tell generalizing told with
  | nil =>
      cases decoded
      rfl
  | cons tells _ ih =>
      cases decoded with
      | cons first later =>
          rw [List.map_cons, ← ih later, first.eq_handedEvent isTest tells]

theorem map_handed_eq_concat {events : List Firmware.ComponentTestEvent}
    {told : List BoardTester.ComponentTestEvent} {last : BoardTester.ComponentTestEvent}
    (same : told ++ [last] = events.map (handedEvent commandId testType)) :
    ∃ earlier event, events = earlier ++ [event] ∧
      told = earlier.map (handedEvent commandId testType) ∧
      last = handedEvent commandId testType event := by
  obtain ⟨earlier, later, rfl, first, second⟩ := List.append_eq_map_iff.mp same
  obtain ⟨event, _, rfl, rfl, rest⟩ := List.map_eq_cons_iff.mp second
  obtain rfl := List.map_eq_nil_iff.mp rest
  exact ⟨earlier, event, rfl, first.symm, rfl⟩

/-- An event that a live test has answered has been presented. -/
theorem presentEvent_of_returns {live : LiveTest σ} {state next : σ × Bool}
    {event : BoardTester.ComponentTestEvent} {decision : Option PyStr}
    (returns : (live.handler.onEvent state event).Returns (next, decision)) :
    live.presentEvent state event = .ok next := by
  obtain ⟨presented, settled, later⟩ := RaisingDialogue.Returns.of_bind returns
  obtain ⟨_, _, later⟩ := RaisingDialogue.Returns.of_bind later
  obtain ⟨_, _, last⟩ := RaisingDialogue.Returns.of_bind later
  obtain ⟨rfl, _⟩ := Prod.mk.inj (RaisingDialogue.returns_pure last)
  have made := RaisingDialogue.returns_settle settled
  cases shown : live.presentEvent state event with
  | ok handler =>
      rw [shown] at made
      exact congrArg Except.ok (Except.ok.inj made)
  | error error =>
      rw [shown] at made
      cases made

/-- **The measurements of a live test** are those of all events that it was given. -/
theorem measured_of_follows {live : LiveTest σ} {measured : List Firmware.ComponentTestEvent → σ}
    (initial : live.initial = measured [])
    (records : ∀ events event measurements, live.recordEvent (measured events)
      (handedEvent commandId testType event) = .ok measurements →
        measurements = measured (events ++ [event]))
    (starts : ∀ events event, eventName event = live.readyEvent →
      measured (events ++ [event]) = measured events)
    {told : List BoardTester.ComponentTestEvent} {state : σ × Bool} {decision : Option PyStr}
    (follows : Follows live.handler told state decision)
    {events : List Firmware.ComponentTestEvent}
    (same : told = events.map (handedEvent commandId testType)) : state.1 = measured events := by
  induction follows generalizing events with
  | started _ =>
      obtain rfl := List.map_eq_nil_iff.mp same.symm
      exact initial
  | @event told before next event decision _ returns ih =>
      obtain ⟨earlier, last, rfl, first, rfl⟩ := map_handed_eq_concat same
      have presented := presentEvent_of_returns returns
      rw [LiveTest.presentEvent, ih first] at presented
      split_ifs at presented with ready
      · rw [← Except.ok.inj presented]
        exact (starts earlier last ready.1).symm
      · cases recorded : live.recordEvent (measured earlier)
            (handedEvent commandId testType last) with
        | error error =>
            rw [recorded] at presented
            cases presented
        | ok measurements =>
            rw [recorded] at presented
            rw [← Except.ok.inj presented]
            exact records earlier last measurements recorded

theorem imuMeasured_of_follows {told : List BoardTester.ComponentTestEvent}
    {state : ImuMeasurements × Bool} {decision : Option PyStr}
    (follows : Follows imuTest.handler told state decision)
    {events : List Firmware.ComponentTestEvent}
    (same : told = events.map (handedEvent commandId testType)) : state.1 = imuMeasured events := by
  refine measured_of_follows rfl (fun _ _ _ => imuRecordEvent_handed) ?_ follows same
  intro events event ready
  have other : eventName event ≠ pyStr "imu_sample" := by
    rw [ready]
    decide
  rw [imuMeasured, eventsNamed_concat_of_ne other, imuMeasured]

theorem barometerMeasured_of_follows {told : List BoardTester.ComponentTestEvent}
    {state : BarometerMeasurements × Bool} {decision : Option PyStr}
    (follows : Follows barometerTest.handler told state decision)
    {events : List Firmware.ComponentTestEvent}
    (same : told = events.map (handedEvent commandId testType)) :
    state.1 = barometerMeasured events := by
  refine measured_of_follows rfl (fun _ _ _ => barometerRecordEvent_handed) ?_ follows same
  intro events event ready
  have noSample : eventName event ≠ pyStr "barometer_sample" := by
    rw [ready]
    decide
  have noFailure : eventName event ≠ pyStr "component_failure" := by
    rw [ready]
    decide
  rw [barometerMeasured, eventsNamed_concat_of_ne noSample, lastFailure_concat_of_ne noFailure,
    barometerMeasured]

theorem sdCardMeasured_of_follows {told : List BoardTester.ComponentTestEvent}
    {state : SdCardProgress} {decision : Option PyStr}
    (follows : Follows sdCardHandler told state decision)
    {events : List Firmware.ComponentTestEvent}
    (same : told = events.map (handedEvent commandId testType)) :
    state = sdCardMeasured events := by
  induction follows generalizing events with
  | started _ =>
      obtain rfl := List.map_eq_nil_iff.mp same.symm
      rfl
  | @event told before next event decision _ returns ih =>
      obtain ⟨earlier, last, rfl, first, rfl⟩ := map_handed_eq_concat same
      obtain ⟨progress, settled, later⟩ := RaisingDialogue.Returns.of_bind returns
      obtain ⟨rfl, _⟩ := Prod.mk.inj (RaisingDialogue.returns_pure later)
      have made := RaisingDialogue.returns_settle settled
      rw [ih first] at made
      cases recorded : sdCardHandleEvent (sdCardMeasured earlier)
          (handedEvent commandId testType last) with
      | error error =>
          rw [recorded] at made
          cases made
      | ok accepted =>
          rw [recorded] at made
          obtain rfl := Except.ok.inj made
          exact sdCardHandleEvent_handed recorded

end Follows

/-! ## Every report -/

/-- The details of the tests that measure, made of the events of the component. -/
def measuredDetails : List (PyStr × (List Firmware.ComponentTestEvent → PyStr → PyDict)) :=
  [(pyStr "imu", fun events status => imuTest.details (imuMeasured events) status),
    (pyStr "barometer", fun events status => barometerTest.details (barometerMeasured events) status),
    (pyStr "sd_card", fun events status => sdCardDetails (sdCardMeasured events) status)]

/-- **The part of a history that is about one test**, with the events that its component told. -/
def IsEpisode (test : ActiveTest) (events : List Firmware.ComponentTestEvent)
    (episode : List SessionAction) : Prop :=
  ∃ run colour updates lines closing decision status,
    episode = beginning test run colour ++ updates ++ closing ∧ Updates test updates lines ∧
    List.Forall₂ (TellsEvent test) lines events ∧
    EndsTest test (test.commandId.toNat + 1000) decision status closing

/-- A handler of a live test is the one of the test. -/
theorem handler_of_live {σ : Type} {live : LiveTest σ} {interpreter : Interpreter}
    {definition : TestDefinition} {handler : AnyTestHandler}
    (found : testHandlers.lookup definition.type = some live.create)
    (created : createHandler interpreter definition = .ok handler) :
    handler = ⟨_, live.handler⟩ := by
  rw [createHandler, found] at created
  dsimp only at created
  rw [LiveTest.create] at created
  split at created
  · exact (Except.ok.inj created).symm
  · cases created

/-- **The details of a test that measures** are those of the events that its handler was given. -/
theorem details_of_follows {interpreter : Interpreter} {definition : TestDefinition}
    {handler : AnyTestHandler} (created : createHandler interpreter definition = .ok handler)
    {details : List Firmware.ComponentTestEvent → PyStr → PyDict}
    (measures : measuredDetails.lookup definition.type = some details)
    {told : List BoardTester.ComponentTestEvent} {state : handler.State} {decision : Option PyStr}
    (follows : Follows handler.handler told state decision)
    {events : List Firmware.ComponentTestEvent} {commandId : Int} {testType : PyStr}
    (same : told = events.map (handedEvent commandId testType)) (status : PyStr) :
    (handler.handler.finish state status).details =
      details events (handler.handler.finish state status).status := by
  simp only [measuredDetails, List.lookup_cons, List.lookup_nil] at measures
  split at measures
  · rename_i typed
    obtain rfl := Option.some.inj measures
    obtain rfl := handler_of_live (by rw [beq_iff_eq.mp typed]; rfl) created
    exact congrArg (fun measured => imuTest.details measured status)
      (imuMeasured_of_follows follows same)
  · split at measures
    · rename_i typed
      obtain rfl := Option.some.inj measures
      obtain rfl := handler_of_live (by rw [beq_iff_eq.mp typed]; rfl) created
      exact congrArg (fun measured => barometerTest.details measured status)
        (barometerMeasured_of_follows follows same)
    · split at measures
      · rename_i typed
        obtain rfl := Option.some.inj measures
        have found : testHandlers.lookup definition.type =
            some fun _ _ => .ok ⟨_, sdCardHandler⟩ := by
          rw [beq_iff_eq.mp typed]
          rfl
        rw [createHandler, found] at created
        obtain rfl := Except.ok.inj created
        exact congrArg (fun measured => sdCardDetails measured status)
          (sdCardMeasured_of_follows follows same)
      · cases measures

/-- What a result that the firmware backs says about the part of the history of its test. -/
theorem exists_episode_of_backed {interpreter : Interpreter} {definition : TestDefinition}
    {handler : AnyTestHandler} (created : createHandler interpreter definition = .ok handler)
    {commandId : Int} {result : ComponentTestResult} {episode : List SessionAction}
    (backed : Backed handler.handler commandId definition.type result episode)
    {details : List Firmware.ComponentTestEvent → PyStr → PyDict}
    (measures : measuredDetails.lookup definition.type = some details) :
    ∃ test events, (test.commandId.toNat : Int) = commandId ∧ codes test.type = definition.type ∧
      IsEpisode test events episode ∧ result.details = details events result.status := by
  cases backed with
  | @intro run test colour updates closing lines told state decision status encoded sameId sameType
      requested updated decoded follows ends =>
      have isTest : IsTest test := ⟨requested.commandId_ne_zero, requested.admissible.body.1⟩
      obtain ⟨events, tell⟩ := updated.exists_events
      have handed := handed_of_told isTest tell decoded
      rw [← sameId] at ends
      exact ⟨test, events, sameId, sameType, ⟨run, colour, updates, lines, closing, decision, status,
        rfl, updated, tell, ends⟩, details_of_follows created measures follows handed status⟩

/-- A result among several that are backed. -/
theorem AllBacked.exists_backed {handlers : TestDefinition → Except TesterError AnyTestHandler}
    {commandId : Int} {definitions : List TestDefinition} {results : List ComponentTestResult}
    {history : List SessionAction}
    (backed : AllBacked handlers commandId definitions results history) {index : Nat}
    {definition : TestDefinition} {result : ComponentTestResult}
    (enabled : definitions[index]? = some definition) (reported : results[index]? = some result) :
    ∃ handler earlier episode later, handlers definition = .ok handler ∧
      Backed handler.handler (commandId + index) definition.type result episode ∧
      history = earlier ++ episode ++ later := by
  induction backed generalizing index with
  | nil commandId =>
      rw [List.getElem?_nil] at reported
      cases reported
  | @cons commandId _ _ handler _ _ episode later created backed _ ih =>
      cases index with
      | zero =>
          rw [List.getElem?_cons_zero] at enabled reported
          obtain rfl := Option.some.inj enabled
          obtain rfl := Option.some.inj reported
          refine ⟨handler, [], episode, later, created, ?_, rfl⟩
          simpa using backed
      | succ index =>
          rw [List.getElem?_cons_succ] at enabled reported
          obtain ⟨other, earlier, inner, last, created', backed', rfl⟩ := ih enabled reported
          refine ⟨other, episode ++ earlier, inner, last, created', ?_, ?_⟩
          · have next : commandId + (index + 1 : Nat) = commandId + 1 + index := by
              omega
            rw [next]
            exact backed'
          · simp only [List.append_assoc]

/-- **Reports are measured**: in every run of the dispatch that returns its results, the details
of the IMU, the barometer and the card are those of the events that the component told during the
test, and of no others. -/
theorem reports_are_measured {codes' : BoschCodes} {metadata : SessionMetadata}
    {components : FlightComputerComponents} {interpreter : Interpreter}
    {configurations : LoadedConfigurations} {turns : List (Turn FirmwareMove TesterOperation)}
    {s : Bench FlightComputerComponents} {results : List ComponentTestResult}
    (run : Run (bench (productionRegistry codes') metadata).Step
      (.initial components, (TesterDialogue.dispatch interpreter.tooDeep (createHandler interpreter)
        configurations).run) turns (s, .done (.ok results)))
    {index : Nat} {definition : TestDefinition} {result : ComponentTestResult}
    {details : List Firmware.ComponentTestEvent → PyStr → PyDict}
    (enabled : configurations.test.enabledTests[index]? = some definition)
    (reported : results[index]? = some result)
    (measures : measuredDetails.lookup definition.type = some details) :
    ∃ test events earlier episode later, (test.commandId.toNat : Int) = 2 + index ∧
      codes test.type = definition.type ∧ IsEpisode test events episode ∧
      s.session.actions = earlier ++ episode ++ later ∧
      result.details = details events result.status := by
  obtain ⟨start, text, response, episodes, _, _, _, history, backed⟩ := results_are_backed run
  split_ifs at backed with valid
  · obtain ⟨handler, earlier, episode, later, created, alone, rfl⟩ :=
      backed.exists_backed enabled reported
    obtain ⟨test, events, sameId, sameType, isEpisode, made⟩ :=
      exists_episode_of_backed created alone measures
    exact ⟨test, events, .request start :: .response text true :: earlier, episode, later, sameId,
      sameType, isEpisode, history, made⟩
  · rw [backed.1, List.getElem?_nil] at reported
    cases reported

/-- The barometer that does not answer is reported with its failure. -/
theorem reports_are_measured_barometer : ∃ turns s result,
    Run (bench (productionRegistry someCodes) releaseMetadata).Step
      (.initial silentBarometer, barometerDispatch.run) turns (s, .done (.ok [result])) ∧
    ∃ test events earlier episode later, (test.commandId.toNat : Int) = 2 + (0 : Nat) ∧
      codes test.type = pyStr "barometer" ∧ IsEpisode test events episode ∧
      s.session.actions = earlier ++ episode ++ later ∧
      result.details = barometerTest.details (barometerMeasured events) result.status := by
  have ends : (barometerReported.foldlM
      (performBenchEvent (productionRegistry someCodes) releaseMetadata)
      (.initial silentBarometer, barometerDispatch.run)).bind (fun s =>
        (returnedResults s.2).map List.length) = some 1 := by decide +kernel
  obtain ⟨⟨s, dialogue⟩, performed, comes⟩ := Option.bind_eq_some_iff.mp ends
  obtain ⟨results, returned, single⟩ := Option.map_eq_some_iff.mp comes
  obtain rfl := returnedResults_eq_some returned
  obtain ⟨result, rfl⟩ := List.length_eq_one_iff.mp single
  obtain ⟨turns, run⟩ := exists_run_of_performed performed
  have enabled : barometerConfigurations.test.enabledTests[0]? =
      some ⟨pyStr "barometer", true, []⟩ := rfl
  have measures : measuredDetails.lookup (pyStr "barometer") = some fun events status =>
      barometerTest.details (barometerMeasured events) status := rfl
  exact ⟨turns, s, result, run, @reports_are_measured someCodes releaseMetadata silentBarometer
    ⟨fun _ => false, noColours⟩ barometerConfigurations turns s [result] run 0 _ result _ enabled rfl
    measures⟩

end FlightComputer
