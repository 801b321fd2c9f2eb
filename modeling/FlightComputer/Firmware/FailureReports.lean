import FlightComputer.Firmware.EventLines
import FlightComputer.Firmware.ProductionRegistry
import FlightComputer.Firmware.SdCardInitialization
import FlightComputer.Firmware.SdCardVerdict
import FlightComputer.Firmware.SessionLifecycle

/-!
# Failures are diagnosed before completion

A component that diagnoses its failures (`Diagnoses`) emits a `component_failure` event
with a stage and a reason before its test fails. In the session this event is the last
one of the run, its line is built and queued, and only then the test is completed as
failed (`Reporting`). The SD card test and the barometer test diagnose their failures,
since every function of their drivers that returns false has stored the one failure that
it has noticed (`failures_are_diagnosed`).
-/

set_option autoImplicit false

namespace FlightComputer.Firmware

open Library Fallible

variable {δ : Type}

/-! ## Components that diagnose their failures -/

/-- **A component test that diagnoses its failures**, with the states in which it has
failed: it does not start in one, it enters one only with a diagnosis as its event, and
from there it only completes as failed. -/
structure Diagnoses (definition : ComponentTestDefinition δ) (failed : δ → Prop) : Prop where
  start : ∀ {parameters : ComponentTestParameters} {s t : δ} {u : Unit},
    definition.start parameters s = some (u, t) → ¬failed t
  running : ∀ {s t : δ}, definition.process s = some (.running, t) → ¬failed t
  event : ∀ {s t : δ}, definition.process s = some (.event, t) → failed t →
    ∃ event, (definition.event.bind fun event => event t) = some event ∧ IsDiagnosis event
  fails : ∀ {s t : δ}, definition.process s = some (.failed, t) → failed s

theorem ComponentCall.onPart_eq_some {σ α : Type} {part : δ → σ} {put : σ → δ → δ}
    {call : ComponentCall σ α} {s t : δ} {value : α}
    (returned : call.onPart part put s = some (value, t)) :
    ∃ x, call (part s) = some (value, x) ∧ t = put x s := by
  obtain ⟨⟨result, x⟩, called, same⟩ := Option.map_eq_some_iff.mp returned
  obtain ⟨rfl, rfl⟩ := Prod.mk.inj same
  exact ⟨x, called, rfl⟩

/-- A component that works on a part of the state diagnoses the failures of its part. -/
theorem Diagnoses.onPart {σ : Type} {definition : ComponentTestDefinition σ} {failed : σ → Prop}
    (diagnoses : Diagnoses definition failed) {part : δ → σ} {put : σ → δ → δ}
    (same : ∀ x s, part (put x s) = x) :
    Diagnoses (definition.onPart part put) fun s => failed (part s) where
  start returned := by
    obtain ⟨x, called, rfl⟩ := ComponentCall.onPart_eq_some returned
    rw [same]
    exact diagnoses.start called
  running returned := by
    obtain ⟨x, called, rfl⟩ := ComponentCall.onPart_eq_some returned
    rw [same]
    exact diagnoses.running called
  event returned failing := by
    obtain ⟨x, called, rfl⟩ := ComponentCall.onPart_eq_some returned
    rw [same] at failing
    obtain ⟨event, occurred, diagnosis⟩ := diagnoses.event called failing
    refine ⟨event, ?_, diagnosis⟩
    show ((definition.event.map _).bind _) = _
    rw [Option.bind_map, ← occurred]
    refine Option.bind_congr fun function _ => ?_
    exact congrArg function (same x _)
  fails returned := by
    obtain ⟨x, called, _⟩ := ComponentCall.onPart_eq_some returned
    exact diagnoses.fails called

/-! ## Reports -/

/-- **The last event of the run is a diagnosis**, and its line has been queued; neither an
event nor a start has followed. -/
def FailureReported (commandId : UInt32) (type : Bytes) (actions : List SessionAction) : Prop :=
  ∃ earlier answers event line, actions =
      earlier ++ ([.process type .event, .response line true] ++ answers) ∧
    IsDiagnosis event ∧ eventLine commandId (some type) (some event) = some line ∧
    ∀ action ∈ answers, action.isMessage ["TEST_EVENT", "TEST_STARTED"] = false

/-- **What a TEST_COMPLETED message stands for**: the component has ended its test with a
verdict and has been stopped, and a failure of a type that diagnoses its failures has been
reported before. -/
def EndOfTest (diagnosing : Bytes → Prop) (line : Bytes) (before : List SessionAction) : Prop :=
  ∃ earlier commandId type result status,
    before = earlier ++ [.process type result, .stop type] ∧
    line = testMessage "TEST_COMPLETED" commandId type status ∧
    ((result = .passed ∧ status = "passed") ∨ (result = .failed ∧ status = "failed")) ∧
    (result = .failed → diagnosing type → FailureReported commandId type earlier)

/-- **The invariant of the session**, for the types of tests that diagnose their
failures. -/
structure Reporting (registry : ComponentTestRegistry δ) (diagnosing : Bytes → Prop)
    (s : SessionState δ) : Prop where
  named : ∀ definition, s.runner.activeDefinition = some definition →
    IsTestTypeName definition.type
  registered : ∀ definition, s.runner.activeDefinition = some definition → definition ∈ registry
  reported : ∀ definition failed, s.runner.activeDefinition = some definition →
    Diagnoses definition failed → failed s.device →
    FailureReported s.runner.activeCommandId definition.type s.actions
  past : ∀ line accepted before after, IsOfType "TEST_COMPLETED" line →
    s.actions = before ++ .response line accepted :: after →
    accepted = true ∧ EndOfTest diagnosing line before

/-- Where an element of a concatenation stands. -/
theorem split_append {α : Type} {first second before after : List α} {x : α}
    (same : first ++ second = before ++ x :: after) :
    (∃ rest, first = before ++ x :: rest ∧ after = rest ++ second) ∨
      ∃ rest, before = first ++ rest ∧ second = rest ++ x :: after := by
  rcases List.append_eq_append_iff.mp same with ⟨rest, rfl, tail⟩ | ⟨rest, rfl, tail⟩
  · exact .inr ⟨rest, rfl, tail⟩
  · cases rest with
    | nil => exact .inr ⟨[], by rw [List.append_nil, List.append_nil], tail.symm⟩
    | cons y rest =>
        obtain ⟨rfl, rfl⟩ := List.cons.inj tail
        exact .inl ⟨rest, rfl, rfl⟩

/-- Answers to requests keep a report the last one. -/
theorem FailureReported.append {commandId : UInt32} {type : Bytes} {actions : List SessionAction}
    (reported : FailureReported commandId type actions) {answers : List SessionAction}
    (quiet : ∀ action ∈ answers, action.isMessage ["TEST_EVENT", "TEST_STARTED"] = false) :
    FailureReported commandId type (actions ++ answers) := by
  obtain ⟨earlier, between, event, line, rfl, diagnosis, built, silent⟩ := reported
  refine ⟨earlier, between ++ answers, event, line, ?_, diagnosis, built, ?_⟩
  · simp only [List.append_assoc]
  · intro action listed
    rcases List.mem_append.mp listed with early | late
    · exact silent action early
    · exact quiet action late

/-- A plain answer is of no other type. -/
theorem quiet_plainAnswer {registry : ComponentTestRegistry δ} {metadata : SessionMetadata}
    {active : Option ActiveTest} {line : Bytes} {queued : Option (Bytes × Bool)}
    (answer : PlainAnswer registry metadata active line queued) {types : List String}
    (sub : ∀ type ∈ types, type ∈ messageTypes)
    (other : "START_TEST_RESPONSE" ∉ types ∧ "ERROR" ∉ types) :
    ∀ action ∈ SessionAction.request line :: responseActions queued,
      action.isMessage types = false := by
  obtain ⟨messageType, plain, typed⟩ := answer.typed
  intro action listed
  rcases List.mem_cons.mp listed with rfl | response
  · rfl
  · obtain ⟨⟨message, accepted⟩, among, rfl⟩ := List.mem_map.mp response
    have typed' := typed message accepted (Option.mem_toList.mp among)
    rcases plain with rfl | rfl
    · exact (isMessage_response sub (by decide) accepted typed').trans (decide_eq_false other.1)
    · exact (isMessage_response sub (by decide) accepted typed').trans (decide_eq_false other.2)

/-- A message of another type completes nothing. -/
theorem isMessage_completed {messageType : String} (listed : messageType ∈ messageTypes)
    (other : messageType ≠ "TEST_COMPLETED") {line : Bytes} {accepted : Bool}
    (typed : IsOfType messageType line) :
    SessionAction.isMessage ["TEST_COMPLETED"] (.response line accepted) = false :=
  (isMessage_response (by decide) listed accepted typed).trans
    (decide_eq_false fun among => other (List.mem_singleton.mp among))

namespace Reporting

variable {registry : ComponentTestRegistry δ} {metadata : SessionMetadata}
  {diagnosing : Bytes → Prop} {s t : SessionState δ}

/-- Actions without a TEST_COMPLETED message keep what is past. -/
theorem past_append (before : Reporting registry diagnosing s) {added : List SessionAction}
    (quiet : ∀ action ∈ added, action.isMessage ["TEST_COMPLETED"] = false) :
    ∀ line accepted earlier after, IsOfType "TEST_COMPLETED" line →
      s.actions ++ added = earlier ++ .response line accepted :: after →
      accepted = true ∧ EndOfTest diagnosing line earlier := by
  intro line accepted earlier after typed split
  rcases split_append split with ⟨rest, whole, _⟩ | ⟨rest, _, whole⟩
  · exact before.past line accepted earlier rest typed whole
  · have silent := quiet (.response line accepted)
      (whole ▸ List.mem_append_right _ List.mem_cons_self)
    rw [isMessage_response (by decide) (by decide) accepted typed] at silent
    exact absurd silent (by decide)

/-- What a terminal update leaves: a failed run has been reported. -/
theorem past_completed (before : Reporting registry diagnosing s)
    (components : ∀ definition ∈ registry, diagnosing definition.type →
      ∃ failed, Diagnoses definition failed)
    {definition : ComponentTestDefinition δ} {processed : δ}
    {result : ComponentTestProcessResult} {status : String}
    (active : s.runner.activeDefinition = some definition)
    (called : definition.process s.device = some (result, processed))
    (verdict : (result = .passed ∧ status = "passed") ∨
      (result = .failed ∧ status = "failed")) :
    ∀ line accepted earlier after, IsOfType "TEST_COMPLETED" line →
      s.actions ++ [.process definition.type result, .stop definition.type,
        .response (testMessage "TEST_COMPLETED" s.runner.activeCommandId definition.type
          status) true] = earlier ++ .response line accepted :: after →
      accepted = true ∧ EndOfTest diagnosing line earlier := by
  intro line accepted earlier after typed split
  have apart : s.actions ++ [.process definition.type result, .stop definition.type] ++
      [.response (testMessage "TEST_COMPLETED" s.runner.activeCommandId definition.type
        status) true] = earlier ++ .response line accepted :: after := by
    rw [← split, List.append_assoc]
    rfl
  rcases split_append apart with ⟨rest, whole, _⟩ | ⟨rest, rfl, whole⟩
  · refine before.past_append ?_ line accepted earlier rest typed whole
    intro action listed
    rcases List.mem_pair.mp listed with rfl | rfl <;> rfl
  · rcases List.singleton_eq_append_iff.mp whole with ⟨rfl, same⟩ | ⟨_, none⟩
    · obtain ⟨same, _⟩ := List.cons.inj same
      obtain ⟨rfl, rfl⟩ := SessionAction.response.inj same
      rw [List.append_nil]
      refine ⟨rfl, s.actions, _, definition.type, result, status, rfl, rfl, verdict, ?_⟩
      rintro rfl diagnosed
      obtain ⟨failed, diagnoses⟩ := components definition (before.registered _ active) diagnosed
      exact before.reported definition failed active diagnoses (diagnoses.fails called)
    · exact absurd none (List.cons_ne_nil _ _)

/-- **Every turn keeps the invariant.** -/
theorem effect (before : Reporting registry diagnosing s)
    (components : ∀ definition ∈ registry, diagnosing definition.type →
      ∃ failed, Diagnoses definition failed)
    (effect : TurnEffect registry metadata s t) : Reporting registry diagnosing t := by
  cases effect with
  | @answered line queued answer _ =>
      refine ⟨before.named, before.registered, ?_, before.past_append
        (quiet_plainAnswer answer (by decide) (by decide))⟩
      intro definition failed active diagnoses failing
      exact (before.reported definition failed active diagnoses failing).append
        (quiet_plainAnswer answer (by decide) (by decide))
  | @started line commandId colour definition device idle requested found called =>
      refine ⟨?_, ?_, ?_, before.past_append ?_⟩
      · rintro _ ⟨⟩
        exact (isTestTypeName_of_found requested found).2
      · rintro _ ⟨⟩
        exact (componentRegistryFind_eq_some found).1
      · rintro _ failed ⟨⟩ diagnoses failing
        exact absurd failing (diagnoses.start called)
      · simp only [List.forall_mem_cons]
        exact ⟨rfl, rfl, isMessage_completed (by decide) (by decide) (isOfType_testMessage ..),
          fun _ listed => absurd listed List.not_mem_nil⟩
  | @stopped line commandId definition device active requested called =>
      refine ⟨?_, ?_, ?_, before.past_append ?_⟩
      · rintro _ ⟨⟩
      · rintro _ ⟨⟩
      · rintro _ _ ⟨⟩
      · simp only [List.forall_mem_cons]
        exact ⟨rfl, rfl, isMessage_completed (by decide) (by decide) (isOfType_testMessage ..),
          fun _ listed => absurd listed List.not_mem_nil⟩
  | @running definition device active called =>
      refine ⟨before.named, before.registered, ?_, before.past_append ?_⟩
      · intro definition' failed active' diagnoses failing
        obtain rfl := Option.some.inj (active.symm.trans active')
        exact absurd failing (diagnoses.running called)
      · exact List.forall_mem_singleton.mpr rfl
  | @event definition device accepted active called accepts =>
      refine ⟨before.named, before.registered, ?_, before.past_append ?_⟩
      · intro definition' failed active' diagnoses failing
        obtain rfl := Option.some.inj (active.symm.trans active')
        obtain ⟨event, occurred, diagnosis⟩ := diagnoses.event called failing
        obtain ⟨line, built, short⟩ := eventLine_of_isLabelled diagnosis.isLabelled
          (isShort_of_isTestTypeName (before.named definition active)) s.runner.activeCommandId
        rw [occurred] at accepts
        have accepted' := accepts line built (short.mono (by decide))
        refine ⟨s.actions, [], event, line, ?_, diagnosis, built,
          fun _ listed => absurd listed List.not_mem_nil⟩
        rw [SessionState.after, occurred, built, accepted']
        rfl
      · refine List.forall_mem_cons.mpr ⟨rfl, ?_⟩
        intro action listed
        obtain ⟨⟨line, _⟩, among, rfl⟩ := List.mem_map.mp listed
        obtain ⟨_, built, same⟩ := Option.map_eq_some_iff.mp (Option.mem_toList.mp among)
        obtain ⟨rfl, rfl⟩ := Prod.mk.inj same
        exact isMessage_completed (by decide) (by decide) (isOfType_eventLine built)
  | completed active called verdict stopped =>
      refine ⟨?_, ?_, ?_, before.past_completed components active called verdict⟩
      · rintro _ ⟨⟩
      · rintro _ ⟨⟩
      · rintro _ _ ⟨⟩

/-- The invariant holds after a reset. -/
theorem initial {device : δ} :
    Reporting registry diagnosing (SessionSystem.initial device).session where
  named := fun _ none => absurd none.symm (Option.some_ne_none _)
  registered := fun _ none => absurd none.symm (Option.some_ne_none _)
  reported := fun _ _ none => absurd none.symm (Option.some_ne_none _)
  past := fun _ _ _ _ _ split =>
    absurd split.symm (List.append_ne_nil_of_right_ne_nil _ (List.cons_ne_nil _ _))

/-- Every step of the firmware keeps the invariant. -/
theorem step {s t : SessionSystem δ} {event : SessionEvent}
    (before : Reporting registry diagnosing s.session)
    (components : ∀ definition ∈ registry, diagnosing definition.type →
      ∃ failed, Diagnoses definition failed)
    (step : SessionStep registry metadata (fun _ _ => False) s event t) :
    Reporting registry diagnosing t.session := by
  cases step with
  | packet bytes => exact before
  | transmitComplete => exact before
  | deinit => exact before
  | init => exact before
  | transport usb => exact before
  | session returned =>
      exact sessionProtocolProcess_preserves
        (I := fun s => Reporting registry diagnosing s.session)
        (fun _ _ before turn => before.effect components (turn.effect before.named)) before returned
  | environment changed => exact changed.elim

end Reporting

/-! ## The SD card and the barometer -/

theorem isLabel_sdStage {stage : String} (listed : stage ∈ sdStages) : IsLabel (ascii stage) := by
  simp only [sdStages, List.mem_cons, List.not_mem_nil, or_false] at listed
  rcases listed with rfl | rfl | rfl | rfl <;> exact isLabel_of_check (by decide)

/-- A failed call of the driver has stored its failure. -/
theorem PendingCall.failureStored {s : SdCardTest SdCardDriver} {call : Fallible SdCardDriver Unit}
    {action : Bool → SdCardAction} {driver : SdCardDriver}
    (pending : PendingCall sdCardDriverCalls s call action)
    (failed : call s.driver = some (none, driver)) : FailureStored driver := by
  cases pending with
  | initialization _ => exact ((triple_initialization s.driver false).fails rfl failed).stored
  | block operation _ =>
      have diagnosed : Diagnosed AnyBytes s.driver (fun _ _ _ => True) driver :=
        (triple_blockCall operation s.currentBlock).fails rfl failed
      exact diagnosed.stored

/-- **The SD card test diagnoses its failures.** -/
theorem diagnoses_sdCard : Diagnoses sdCardDefinition fun s => s.state = .failed where
  start {parameters s t u} returned := by
    have called : sdCardTestStart sdCardDriverCalls parameters s = some (u, t) := returned
    have waiting := (sdCardTestStart_returns called).1
    intro failing
    rw [failing] at waiting
    cases waiting
  running returned := by
    intro failing
    cases sdCardTestProcess_returns returned with
    | waits _ before state =>
        rw [← state, failing] at before
        cases before
    | blockDone operation before _ _ state =>
        rw [← state, failing] at before
        cases operation <;> cases before
  event {s t} returned failing := by
    refine ⟨_, rfl, ?_⟩
    cases sdCardTestProcess_returns returned with
    | announces _ _ state =>
        rw [failing] at state
        rcases state with waiting | initializing
        · cases waiting
        · cases initializing
    | removed _ _ _ listed event =>
        exact ⟨_, _, _, event, isLabel_sdStage listed, isLabel_of_check (by decide)⟩
    | callFails pending called _ event =>
        obtain ⟨stage, reason, hasStage, hasReason, staged, reasoned⟩ :=
          pending.failureStored called
        refine ⟨stage, reason, t.driver.lastFailure.code, ?_, staged, reasoned⟩
        rw [event, ← hasStage, ← hasReason]
        rfl
    | initialized _ _ state =>
        rw [failing] at state
        cases state
    | phaseDone operation _ _ _ state =>
        rw [failing] at state
        cases operation <;> cases state
  fails returned := by
    cases sdCardTestProcess_returns returned with
    | failed state _ => exact state

/-- **The barometer test diagnoses its failures.** -/
theorem diagnoses_barometer (codes : Bmp3Codes) :
    Diagnoses (barometerDefinition codes) fun s => s.state = .failed where
  start returned := by
    obtain ⟨_, rfl⟩ := Prod.mk.inj (Option.some.inj returned)
    exact Bmp388TestState.noConfusion
  running returned := by
    cases bmp388TestProcess_returns returned with
    | waits state going _ => rwa [← state] at going
  event returned failing := by
    cases bmp388TestProcess_returns returned with
    | tells going _ => exact absurd failing going
    | fails _ event => exact ⟨_, rfl, event⟩
  fails returned := by
    cases bmp388TestProcess_returns returned with
    | failed before _ _ => exact before

/-- The types of the tests that diagnose their failures. -/
def IsDiagnosing (type : Bytes) : Prop := type = ascii "sd_card" ∨ type = ascii "barometer"

instance (type : Bytes) : Decidable (IsDiagnosing type) := inferInstanceAs (Decidable (_ ∨ _))

/-- The registered tests of these types do. -/
theorem diagnoses_productionRegistry (codes : BoschCodes) :
    ∀ definition ∈ productionRegistry codes, IsDiagnosing definition.type →
      ∃ failed, Diagnoses definition failed := by
  simp only [productionRegistry, List.forall_mem_cons]
  refine ⟨?_, ?_, ?_, ?_, ?_, ?_, fun _ listed => absurd listed List.not_mem_nil⟩
  · exact fun diagnosing => absurd diagnosing (by decide : ¬IsDiagnosing (ascii "status_led_red"))
  · exact fun diagnosing => absurd diagnosing (by decide : ¬IsDiagnosing (ascii "status_led_green"))
  · exact fun diagnosing => absurd diagnosing (by decide : ¬IsDiagnosing (ascii "rgb_led"))
  · exact fun diagnosing => absurd diagnosing (by decide : ¬IsDiagnosing (ascii "imu"))
  · exact fun _ => ⟨_, (diagnoses_barometer codes.bmp3).onPart fun _ _ => rfl⟩
  · exact fun _ => ⟨_, diagnoses_sdCard.onPart fun _ _ => rfl⟩

/-! ## The functions of the drivers -/

/-- The functions of the SD card driver that return a result, with the flag that tells that
`information` is `NULL`. -/
def sdCardDriverFunctions (isNull : Bool) (block : UInt32) : List (SdCall Unit) :=
  [sdCardDriverInitialize isNull, sdCardDriverWriteTestBlock isNull block,
    sdCardDriverVerifyTestBlock isNull block, sdCardDriverClearTestBlock isNull block]

/-- **A function of the driver that returns false** has stored the one failure that it has
noticed. -/
theorem sdCardDriver_fails {isNull : Bool} {block : UInt32} {call : SdCall Unit}
    (listed : call ∈ sdCardDriverFunctions isNull block) {s t : SdCardDriver}
    (failed : call s = some (none, t)) :
    FailureStored t ∧ t.detected = s.detected ++ [t.lastFailure] := by
  have writes := anyBlockFrames 24 block
  have reads := anyBlockFrames 17 block
  have diagnosed : ∀ {after : Unit → SdCardDriver → Prop},
      Triple (fun x => x = s) call after (Diagnosed AnyBytes s fun _ _ _ => True) →
      FailureStored t ∧ t.detected = s.detected ++ [t.lastFailure] := by
    intro after triple
    have after := triple.fails rfl failed
    exact ⟨after.stored, after.detected⟩
  simp only [sdCardDriverFunctions, List.mem_cons, List.not_mem_nil, or_false] at listed
  rcases listed with rfl | rfl | rfl | rfl
  · have after := (triple_initialization s isNull).fails rfl failed
    exact ⟨after.stored, after.detected⟩
  · exact diagnosed (writes.triple_writeTestBlock rfl trivial)
  · exact diagnosed (reads.triple_verifyTestBlock rfl trivial)
  · exact diagnosed (writes.triple_clearTestBlock rfl trivial)

/-- **Failures are diagnosed before completion.** In every run of the firmware with its
registry, whatever the hardware and the Bosch drivers answer: a TEST_COMPLETED message
stands for a test that has ended, and when an SD card or a barometer test has failed, the
last event before was a diagnosis, built and queued. And every function of the two drivers
that returns false has stored the one failure that it has noticed. -/
theorem failures_are_diagnosed {codes : BoschCodes} {metadata : SessionMetadata}
    {components : FlightComputerComponents} {events : List SessionEvent}
    {s : SessionSystem FlightComputerComponents}
    (run : Run (SessionStep (productionRegistry codes) metadata fun _ _ => False)
      (.initial components) events s) :
    (∀ line accepted before after, IsOfType "TEST_COMPLETED" line →
      s.session.actions = before ++ .response line accepted :: after →
      accepted = true ∧ EndOfTest IsDiagnosing line before) ∧
    (∀ isNull block, ∀ call ∈ sdCardDriverFunctions isNull block, ∀ s t,
      call s = some (none, t) →
      FailureStored t ∧ t.detected = s.detected ++ [t.lastFailure]) ∧
    (∀ s t, bmp388DriverInitialize codes.bmp3 s = some (none, t) → BarometerDiagnosed s t) ∧
    ∀ isNull s t, bmp388DriverReadSample codes.bmp3 isNull s = some (none, t) →
      BarometerDiagnosed s t := by
  have reporting : Reporting (productionRegistry codes) IsDiagnosing s.session :=
    run.invariant (I := fun s => Reporting (productionRegistry codes) IsDiagnosing s.session)
      (fun _ _ _ before step => before.step (diagnoses_productionRegistry codes) step)
      .initial
  refine ⟨reporting.past, fun _ _ _ listed _ _ failed => sdCardDriver_fails listed failed, ?_, ?_⟩
  · exact fun s _ failed => (triple_bmp388DriverInitialize s).fails rfl failed
  · exact fun isNull s _ failed => (triple_bmp388DriverReadSample s isNull).fails rfl failed

/-- The codes of the Bosch drivers, for the run below. -/
def someCodes : BoschCodes := ⟨0, ⟨0, -2, -7, -3, -4, -5⟩⟩

/-- Components whose barometer does not acknowledge its address. -/
def silentBarometer : FlightComputerComponents where
  statusLeds := ⟨false, false⟩
  rgbLed := ⟨false, false, .colourReady, { kind := .message, name := none }, [], []⟩
  imu := ⟨⟨false, [], []⟩, .initializing, 0, { kind := .message, name := none }, []⟩
  barometer :=
    { driver := ⟨false, ⟨none, none, 0⟩, [(false, 4)], [], [], []⟩
      state := .initializing
      nextSampleAt := 0
      latestEvent := { kind := .message, name := none }
      ticks := [0, 1] }
  sdCard := .initial (.initial ⟨[], [], [], []⟩) [] []

/-- A request to run the test of the barometer, as it is sent. -/
def runBarometer : Bytes :=
  ascii ("\x7b\"protocol_version\":1,\"type\":\"RUN_COMPONENT_TEST\",\"command_id\":7," ++
    "\"test_type\":\"barometer\"\x7d")

/-- The host takes what is queued. -/
def linesTaken : List SessionEvent :=
  [.transport ⟨true, true, true⟩, .transmitComplete, .transport ⟨true, true, true⟩,
    .transmitComplete, .transport ⟨true, true, true⟩]

/-- A run in which the barometer is tested. -/
def barometerTested : List SessionEvent :=
  [.packet (runBarometer ++ [lineFeed]), .transport ⟨true, true, true⟩, .session] ++
    linesTaken ++ [.session]

set_option maxRecDepth 4000 in
/-- A run in which the barometer test fails. -/
theorem failures_are_diagnosed_barometer : ∃ s before,
    Run (SessionStep (productionRegistry someCodes) blankMetadata fun _ _ => False)
      (.initial silentBarometer) barometerTested s ∧
    s.session.actions = before ++ [.response
      (testMessage "TEST_COMPLETED" 7 (ascii "barometer") "failed") true] ∧
    EndOfTest IsDiagnosing (testMessage "TEST_COMPLETED" 7 (ascii "barometer") "failed")
      before := by
  have ends : (barometerTested.foldlM
      (performEvent (productionRegistry someCodes) blankMetadata) (.initial silentBarometer)).map
        (fun s => s.session.actions.getLast?) =
      some (some (.response
        (testMessage "TEST_COMPLETED" 7 (ascii "barometer") "failed") true)) := by decide +kernel
  obtain ⟨s, performed, last⟩ := Option.map_eq_some_iff.mp ends
  obtain ⟨before, split⟩ := List.getLast?_eq_some_iff.mp last
  have run : Run (SessionStep (productionRegistry someCodes) blankMetadata fun _ _ => False)
      (.initial silentBarometer) barometerTested s :=
    .of_performed (fun _ _ _ => step_of_performEvent) performed
  exact ⟨s, before, run, split, ((failures_are_diagnosed run).1 _ true before []
    (isOfType_testMessage ..) split).2⟩

end FlightComputer.Firmware
