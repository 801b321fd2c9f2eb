import FlightComputer.Firmware.FailureReports

/-!
# What the components tell

A component that reports an event has one: an event with a name, and a failure with a stage and
a reason (`Tells`). For the IMU this depends on its start, which prepares the first event.
Every component of the firmware is of this kind (`tells_productionRegistry`), and in the session
the active test stays in a state in which it can tell its events (`Telling`).
-/

set_option autoImplicit false

namespace FlightComputer.Firmware

open Library

variable {δ : Type}

/-! ## Components that tell their events -/

/-- **A component test that tells its events**, with the states in which it is ready to: its
start leads to one, and an update stays in them and leaves an event that can be told when it
reports one. -/
structure Tells (definition : ComponentTestDefinition δ) (ready : δ → Prop) : Prop where
  start : ∀ {parameters : ComponentTestParameters} {s t : δ} {u : Unit},
    definition.start parameters s = some (u, t) → ready t
  running : ∀ {s t : δ}, ready s → definition.process s = some (.running, t) → ready t
  event : ∀ {s t : δ}, ready s → definition.process s = some (.event, t) → ready t ∧
    ∃ event, (definition.event.bind fun event => event t) = some event ∧ event.IsLabelled

/-- A component that works on a part of the state tells the events of its part. -/
theorem Tells.onPart {σ : Type} {definition : ComponentTestDefinition σ} {ready : σ → Prop}
    (tells : Tells definition ready) {part : δ → σ} {put : σ → δ → δ}
    (same : ∀ x s, part (put x s) = x) :
    Tells (definition.onPart part put) fun s => ready (part s) where
  start returned := by
    obtain ⟨x, called, rfl⟩ := ComponentCall.onPart_eq_some returned
    rw [same]
    exact tells.start called
  running before returned := by
    obtain ⟨x, called, rfl⟩ := ComponentCall.onPart_eq_some returned
    rw [same]
    exact tells.running before called
  event before returned := by
    obtain ⟨x, called, rfl⟩ := ComponentCall.onPart_eq_some returned
    obtain ⟨after, event, occurred, labelled⟩ := tells.event before called
    rw [same]
    refine ⟨after, event, ?_, labelled⟩
    show ((definition.event.map _).bind _) = _
    rw [Option.bind_map, ← occurred]
    refine Option.bind_congr fun function _ => ?_
    exact congrArg function (same x _)

/-! ## The components of the firmware -/

/-- The status LEDs report no events. -/
theorem tells_statusLed (type : String)
    (start : ComponentTestParameters → ComponentCall StatusLeds Unit) :
    Tells (statusLedDefinition type start) fun _ => True where
  start _ := trivial
  running _ _ := trivial
  event _ returned := by
    obtain ⟨absurdity, _⟩ := Prod.mk.inj (Option.some.inj returned)
    cases absurdity

theorem tells_rgbLed : Tells rgbLedDefinition fun _ => True where
  start _ := trivial
  running _ _ := trivial
  event {s t} _ returned := by
    have processed : rgbLedTestProcess s = some (.event, t) := returned
    rw [rgbLedTestProcess, ComponentCall.get_bind] at processed
    split_ifs at processed with failing ready
    · cases (ComponentCall.pure_eq_some processed).1
    · obtain ⟨_, rfl⟩ := ComponentCall.pure_eq_some processed
      exact ⟨trivial, _, rfl, isLabelled_messageEvent (isLabel_of_check (by decide))⟩
    · cases (ComponentCall.pure_eq_some processed).1

theorem isLabelled_imuSampleEvent (sample : Bmi270Sample) : (imuSampleEvent sample).IsLabelled :=
  ⟨⟨_, rfl, isLabel_of_check (by decide)⟩, fun kind => ComponentTestEventKind.noConfusion kind⟩

section Imu

variable {ok : Int8} {s t : Bmi270Test} {result : ComponentTestProcessResult}

theorem imuDriverCall_latestEvent {α : Type} {call : Fallible Bmi270Driver α} {answer : Option α}
    (returned : imuDriverCall call s = some (answer, t)) : t.latestEvent = s.latestEvent := by
  obtain ⟨⟨value, driver⟩, _, same⟩ := Option.map_eq_some_iff.mp returned
  obtain ⟨rfl, rfl⟩ := Prod.mk.inj same
  rfl

theorem imuFailed_latestEvent (returned : imuFailed s = some (result, t)) :
    t.latestEvent = s.latestEvent := by
  obtain ⟨_, rfl⟩ := ComponentCall.pure_eq_some returned
  rfl

/-- **An update of the IMU test** leaves an event that can be told, if there was one. -/
theorem bmi270TestProcess_isLabelled (labelled : s.latestEvent.IsLabelled)
    (returned : bmi270TestProcess ok s = some (result, t)) : t.latestEvent.IsLabelled := by
  obtain ⟨now, ticked, tick, rest⟩ := ComponentCall.bind_eq_some returned
  have before : ticked.latestEvent = s.latestEvent := by
    rw [imuTick] at tick
    cases held : s.ticks with
    | nil =>
        rw [held] at tick
        exact absurd tick.symm (Option.some_ne_none _)
    | cons answer later =>
        rw [held] at tick
        obtain ⟨rfl, rfl⟩ := Prod.mk.inj (Option.some.inj tick)
        rfl
  rw [← before] at labelled
  rw [imuStep, ComponentCall.get_bind] at rest
  cases state : ticked.state with
  | initializing =>
      rw [state] at rest
      obtain ⟨answer, called, call, rest⟩ := ComponentCall.bind_eq_some rest
      rw [← imuDriverCall_latestEvent call] at labelled
      cases answer with
      | none => exact imuFailed_latestEvent rest ▸ labelled
      | some _ =>
          obtain ⟨_, rfl⟩ := ComponentCall.pure_eq_some rest
          exact labelled
  | failed =>
      rw [state] at rest
      obtain ⟨_, rfl⟩ := ComponentCall.pure_eq_some rest
      exact labelled
  | sampling =>
      rw [state] at rest
      dsimp only at rest
      rw [imuSampling, ComponentCall.get_bind] at rest
      split_ifs at rest with early
      · obtain ⟨_, rfl⟩ := ComponentCall.pure_eq_some rest
        exact labelled
      · rw [ComponentCall.modify_bind] at rest
        obtain ⟨answer, called, call, rest⟩ := ComponentCall.bind_eq_some rest
        cases answer with
        | none =>
            rw [imuFailed_latestEvent rest, imuDriverCall_latestEvent call]
            exact labelled
        | some sample =>
            obtain ⟨_, rfl⟩ := ComponentCall.pure_eq_some rest
            exact isLabelled_imuSampleEvent sample

/-- The IMU test is ready once its start has prepared the first event. -/
theorem tells_imu (ok : Int8) : Tells (imuDefinition ok) fun s => s.latestEvent.IsLabelled where
  start returned := by
    obtain ⟨_, rfl⟩ := Prod.mk.inj (Option.some.inj returned)
    exact isLabelled_messageEvent (isLabel_of_check (by decide))
  running labelled returned := bmi270TestProcess_isLabelled labelled returned
  event labelled returned :=
    have after := bmi270TestProcess_isLabelled labelled returned
    ⟨after, _, rfl, after⟩

end Imu

theorem tells_barometer (codes : Bmp3Codes) : Tells (barometerDefinition codes) fun _ => True where
  start _ := trivial
  running _ _ := trivial
  event _ returned := by
    refine ⟨trivial, _, rfl, ?_⟩
    cases bmp388TestProcess_returns returned with
    | tells _ event => exact event
    | fails _ event => exact event.isLabelled

theorem isLabelled_cardInformation {name : String} (named : IsLabel (ascii name))
    (information : SdCardInformation) : (cardInformation name information).IsLabelled :=
  ⟨⟨_, rfl, named⟩, fun kind => ComponentTestEventKind.noConfusion kind⟩

theorem isLabel_sdMessage {name : String} (listed : name ∈ sdMessages) : IsLabel (ascii name) := by
  simp only [sdMessages, List.mem_cons, List.not_mem_nil, or_false] at listed
  rcases listed with rfl | rfl | rfl | rfl <;> exact isLabel_of_check (by decide)

theorem tells_sdCard : Tells sdCardDefinition fun _ => True where
  start _ := trivial
  running _ _ := trivial
  event {s t} _ returned := by
    have told : ∀ {event : ComponentTestEvent}, t.latestEvent = event → event.IsLabelled →
        True ∧ ∃ event, sdCardTestEvent t = some event ∧ event.IsLabelled := by
      intro event same labelled
      exact ⟨trivial, event, congrArg some same, labelled⟩
    cases sdCardTestProcess_returns returned with
    | announces _ _ _ _ _ listed event =>
        exact told event (isLabelled_messageEvent (isLabel_sdMessage listed))
    | removed _ _ _ listed event =>
        exact told event
          (isLabelled_componentFailure (isLabel_sdStage listed) (isLabel_of_check (by decide)) _)
    | callFails pending called _ event =>
        obtain ⟨stage, reason, hasStage, hasReason, staged, reasoned⟩ :=
          pending.failureStored called
        have same : t.latestEvent =
            componentFailure (some stage) (some reason) t.driver.lastFailure.code := by
          rw [event, ← hasStage, ← hasReason]
          rfl
        exact told same (isLabelled_componentFailure staged reasoned _)
    | initialized _ _ _ _ event =>
        exact told event (isLabelled_cardInformation (isLabel_of_check (by decide)) _)
    | phaseDone operation _ _ _ _ _ event =>
        refine told event (isLabelled_cardInformation ?_ _)
        cases operation <;> exact isLabel_of_check (by decide)

/-- **Every registered component tells its events.** -/
theorem tells_productionRegistry (codes : BoschCodes) :
    ∀ definition ∈ productionRegistry codes, ∃ ready, Tells definition ready := by
  simp only [productionRegistry, List.forall_mem_cons]
  refine ⟨?_, ?_, ?_, ?_, ?_, ?_, fun _ listed => absurd listed List.not_mem_nil⟩
  · exact ⟨_, (tells_statusLed _ _).onPart fun _ _ => rfl⟩
  · exact ⟨_, (tells_statusLed _ _).onPart fun _ _ => rfl⟩
  · exact ⟨_, tells_rgbLed.onPart fun _ _ => rfl⟩
  · exact ⟨_, (tells_imu codes.bmi2Ok).onPart fun _ _ => rfl⟩
  · exact ⟨_, (tells_barometer codes.bmp3).onPart fun _ _ => rfl⟩
  · exact ⟨_, tells_sdCard.onPart fun _ _ => rfl⟩

/-! ## The active test -/

/-- **The active test** has a name that the parser takes, and is ready to tell its events. -/
structure Telling (s : SessionState δ) : Prop where
  named : ∀ definition, s.runner.activeDefinition = some definition →
    IsTestTypeName definition.type
  ready : ∀ definition, s.runner.activeDefinition = some definition →
    ∃ ready, Tells definition ready ∧ ready s.device

namespace Telling

variable {registry : ComponentTestRegistry δ} {metadata : SessionMetadata} {s t : SessionState δ}
  {line : Bytes} {response : Option Bytes}

/-- Without an active test nothing is to be told. -/
theorem of_idle (idle : s.runner.activeDefinition = none) : Telling s where
  named _ active := absurd (idle.symm.trans active).symm (Option.some_ne_none _)
  ready _ active := absurd (idle.symm.trans active).symm (Option.some_ne_none _)

/-- **An answer to a line** keeps it, with a registry of components that tell their events. -/
theorem answer (components : ∀ definition ∈ registry, ∃ ready, Tells definition ready)
    (before : Telling s) (answer : LineAnswer registry metadata line s response t) :
    Telling t := by
  cases answer with
  | invalid _ => exact before
  | metadata _ => exact before
  | alreadyActive _ _ => exact before
  | unsupported _ _ _ => exact before
  | @started commandId testType colour definition device requested idle found called =>
      obtain ⟨same, isName⟩ := isTestTypeName_of_found requested found
      obtain ⟨ready, tells⟩ := components definition (componentRegistryFind_eq_some found).1
      refine ⟨?_, ?_⟩
      · rintro _ ⟨⟩
        exact same ▸ isName
      · rintro _ ⟨⟩
        exact ⟨ready, tells, tells.start called⟩
  | noActiveTest _ _ => exact before
  | stopped _ _ _ => exact of_idle rfl

/-- **An update** keeps it. -/
theorem update {definition : ComponentTestDefinition δ}
    (active : s.runner.activeDefinition = some definition) (before : Telling s)
    (update : ComponentUpdate definition s response t) : Telling t := by
  obtain ⟨ready, tells, isReady⟩ := before.ready definition active
  cases update with
  | running called =>
      refine ⟨before.named, ?_⟩
      intro definition' active'
      obtain rfl := Option.some.inj (active.symm.trans active')
      exact ⟨ready, tells, tells.running isReady called⟩
  | event called =>
      refine ⟨before.named, ?_⟩
      intro definition' active'
      obtain rfl := Option.some.inj (active.symm.trans active')
      exact ⟨ready, tells, (tells.event isReady called).1⟩
  | completed _ _ _ => exact of_idle rfl

/-- **An event that is reported is told**: its line is built, and it is short. -/
theorem exists_eventLine {definition : ComponentTestDefinition δ} {device : δ}
    (active : s.runner.activeDefinition = some definition) (before : Telling s)
    (called : definition.process s.device = some (.event, device)) :
    ∃ event line, (definition.event.bind fun event => event device) = some event ∧
      event.IsLabelled ∧
      eventLine s.runner.activeCommandId (some definition.type) (some event) = some line ∧
      IsShort 1000 line := by
  obtain ⟨ready, tells, isReady⟩ := before.ready definition active
  obtain ⟨_, event, occurred, labelled⟩ := tells.event isReady called
  obtain ⟨line, built, short⟩ := eventLine_of_isLabelled labelled
    (isShort_of_isTestTypeName (before.named definition active)) s.runner.activeCommandId
  exact ⟨event, line, occurred, labelled, built, short⟩

end Telling

end FlightComputer.Firmware
