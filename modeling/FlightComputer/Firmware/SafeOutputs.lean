import FlightComputer.Firmware.FailureReports
import FlightComputer.Firmware.SdCardChipSelect

/-!
# The outputs follow the active test

What the components drive is that of the active test and of nothing else. In every run of the
firmware after a reset the red status LED is lit exactly while `status_led_red` is active, the green
one exactly while `status_led_green` is; the RGB LED shows a colour only while `rgb_led` is active,
and then the colour of the request that started it; the drivers of the IMU and the barometer are
ready only during their tests; and the card is not selected between the calls of the session layer
(`outputs_follow_active_test`).

That a registry keeps its outputs in order is a property of its definitions one by one
(`KeepsOrder`); the session layer adds that they are started, processed and stopped in turn
(`SessionInOrder.turn`).
-/

set_option autoImplicit false

namespace FlightComputer.Firmware

open Library Fallible

variable {δ : Type}

/-! ## Definitions that keep an order -/

/-- The active test for the outputs: its type, and the parameters that it was started with. -/
abbrev Focus : Type := Bytes × ComponentTestParameters

/-- **A definition keeps the outputs in order**, an order that depends on the active test: it is
started when there is none, and it leaves none. -/
structure KeepsOrder (definition : ComponentTestDefinition δ)
    (inOrder : Option Focus → δ → Prop) : Prop where
  started : ∀ {parameters : ComponentTestParameters} {s t : δ}, inOrder none s →
    definition.start parameters s = some ((), t) → inOrder (some (definition.type, parameters)) t
  processed : ∀ {parameters : ComponentTestParameters} {s t : δ}
    {result : ComponentTestProcessResult}, inOrder (some (definition.type, parameters)) s →
    definition.process s = some (result, t) → inOrder (some (definition.type, parameters)) t
  stopped : ∀ {parameters : ComponentTestParameters} {s t : δ},
    inOrder (some (definition.type, parameters)) s → definition.stop s = some ((), t) →
    inOrder none t

/-- **A definition on a part** keeps an order if it keeps its own part in order and nothing else is
affected. -/
theorem KeepsOrder.onPart {σ : Type} {definition : ComponentTestDefinition σ}
    {here : Option Focus → σ → Prop} {part : δ → σ} {put : σ → δ → δ}
    {inOrder : Option Focus → δ → Prop} (keeps : KeepsOrder definition here)
    (inside : ∀ active s, inOrder active s → here active (part s))
    (begins : ∀ parameters s x, inOrder none s → here (some (definition.type, parameters)) x →
      inOrder (some (definition.type, parameters)) (put x s))
    (continues : ∀ parameters s x, inOrder (some (definition.type, parameters)) s →
      here (some (definition.type, parameters)) x →
      inOrder (some (definition.type, parameters)) (put x s))
    (ends : ∀ parameters s x, inOrder (some (definition.type, parameters)) s → here none x →
      inOrder none (put x s)) :
    KeepsOrder (definition.onPart part put) inOrder where
  started := by
    intro parameters s t before returned
    obtain ⟨x, called, rfl⟩ := ComponentCall.onPart_eq_some returned
    exact begins parameters s x before (keeps.started (inside _ s before) called)
  processed := by
    intro parameters s t result before returned
    obtain ⟨x, called, rfl⟩ := ComponentCall.onPart_eq_some returned
    exact continues parameters s x before (keeps.processed (inside _ s before) called)
  stopped := by
    intro parameters s t before returned
    obtain ⟨x, called, rfl⟩ := ComponentCall.onPart_eq_some returned
    exact ends parameters s x before (keeps.stopped (inside _ s before) called)

/-! ## The session -/

/-- The last start so far is that of a test. -/
def LastStarted (actions : List SessionAction) (focus : Focus) : Prop :=
  ∃ earlier later, actions = earlier ++ .start focus.1 focus.2 :: later ∧
    ∀ action ∈ later, action.isStart = false

theorem LastStarted.append {actions later : List SessionAction} {focus : Focus}
    (last : LastStarted actions focus) (none : ∀ action ∈ later, action.isStart = false) :
    LastStarted (actions ++ later) focus := by
  obtain ⟨before, after, rfl, quiet⟩ := last
  refine ⟨before, after ++ later, ?_, ?_⟩
  · rw [List.append_assoc, List.cons_append]
  · intro action listed
    rcases List.mem_append.mp listed with earlier | new
    · exact quiet action earlier
    · exact none action new

/-- The focus of a session: its active test is registered, and the last one that was started. -/
inductive Focuses (registry : ComponentTestRegistry δ) (s : SessionState δ) :
    Option Focus → Prop where
  | idle (inactive : s.runner.activeDefinition = none) : Focuses registry s none
  | active {definition : ComponentTestDefinition δ} {parameters : ComponentTestParameters}
      (active : s.runner.activeDefinition = some definition) (registered : definition ∈ registry)
      (last : LastStarted s.actions (definition.type, parameters)) :
      Focuses registry s (some (definition.type, parameters))

theorem Focuses.lastStarted {registry : ComponentTestRegistry δ} {s : SessionState δ}
    {focus : Focus} (focuses : Focuses registry s (some focus)) : LastStarted s.actions focus := by
  cases focuses with
  | active _ _ last => exact last

/-- **The outputs of a session are in order.** -/
def SessionInOrder (registry : ComponentTestRegistry δ) (inOrder : Option Focus → δ → Prop)
    (s : SessionState δ) : Prop :=
  ∃ active, Focuses registry s active ∧ inOrder active s.device

section Session

variable {registry : ComponentTestRegistry δ} {metadata : SessionMetadata}
  {inOrder : Option Focus → δ → Prop} {s : SessionState δ}

/-- Actions that start nothing change no order. -/
theorem SessionInOrder.record (before : SessionInOrder registry inOrder s)
    {later : List SessionAction} (none : ∀ action ∈ later, action.isStart = false) :
    SessionInOrder registry inOrder { s with actions := s.actions ++ later } := by
  obtain ⟨active, focuses, order⟩ := before
  refine ⟨active, ?_, order⟩
  cases focuses with
  | idle inactive => exact .idle inactive
  | active active registered last => exact .active active registered (last.append none)

theorem SessionInOrder.queueResponse {s : SessionSystem δ} {response : Option Bytes}
    (before : SessionInOrder registry inOrder s.session) :
    SessionInOrder registry inOrder (queueResponse response s).session := by
  cases response with
  | none => exact before
  | some line =>
      apply before.record
      intro action listed
      rw [List.mem_singleton.mp listed]
      rfl

variable (keeps : ∀ definition ∈ registry, KeepsOrder definition inOrder)
include keeps

/-- **A line that is answered.** -/
theorem SessionInOrder.answered {line : Bytes} {response : Option Bytes} {t : SessionState δ}
    (before : SessionInOrder registry inOrder s)
    (answer : LineAnswer registry metadata line s response t) :
    SessionInOrder registry inOrder t := by
  obtain ⟨active, focuses, order⟩ := id before
  cases answer with
  | invalid _ => exact before
  | metadata _ => exact before
  | alreadyActive _ _ => exact before
  | unsupported _ _ _ => exact before
  | noActiveTest _ _ => exact before
  | @started _ _ colour definition device requested inactive found called =>
      obtain ⟨registered, _⟩ := componentRegistryFind_eq_some found
      cases focuses with
      | active active _ _ => exact absurd (inactive.symm.trans active) (Option.some_ne_none _).symm
      | idle _ =>
          have last : LastStarted (s.actions ++ [.start definition.type (colourParameters colour)])
              (definition.type, colourParameters colour) :=
            ⟨s.actions, [], rfl, fun _ listed => absurd listed List.not_mem_nil⟩
          exact ⟨_, .active rfl registered last, (keeps _ registered).started order called⟩
  | @stopped _ definition device requested running called =>
      cases focuses with
      | idle inactive => exact absurd (inactive.symm.trans running) (Option.some_ne_none _).symm
      | active active registered _ =>
          obtain rfl := Option.some.inj (active.symm.trans running)
          exact ⟨none, .idle rfl, (keeps _ registered).stopped order called⟩

/-- **The active test is updated.** -/
theorem SessionInOrder.updated {definition : ComponentTestDefinition δ} {response : Option Bytes}
    {t : SessionState δ} (before : SessionInOrder registry inOrder s)
    (running : s.runner.activeDefinition = some definition)
    (update : ComponentUpdate definition s response t) : SessionInOrder registry inOrder t := by
  obtain ⟨active, focuses, order⟩ := before
  cases focuses with
  | idle inactive => exact absurd (inactive.symm.trans running) (Option.some_ne_none _).symm
  | active active registered last =>
      obtain rfl := Option.some.inj (active.symm.trans running)
      have quiet : ∀ {action : SessionAction}, action.isStart = false →
          ∀ added ∈ [action], added.isStart = false := by
        intro action none added listed
        rw [List.mem_singleton.mp listed]
        exact none
      cases update with
      | running called =>
          exact ⟨_, .active active registered (last.append (quiet rfl)),
            (keeps _ registered).processed order called⟩
      | event called =>
          exact ⟨_, .active active registered (last.append (quiet rfl)),
            (keeps _ registered).processed order called⟩
      | completed called _ stopped =>
          exact ⟨none, .idle rfl,
            (keeps _ registered).stopped ((keeps _ registered).processed order called) stopped⟩

/-- **A turn of the session** keeps the outputs in order. -/
theorem SessionInOrder.turn {s t : SessionSystem δ}
    (before : SessionInOrder registry inOrder s.session)
    (turn : SessionTurn registry metadata s t) : SessionInOrder registry inOrder t.session := by
  cases turn with
  | line _ _ answer =>
      apply SessionInOrder.queueResponse
      refine SessionInOrder.answered keeps ?_ answer
      apply before.record
      intro action listed
      rw [List.mem_singleton.mp listed]
      rfl
  | component _ active update =>
      apply SessionInOrder.queueResponse
      exact before.updated keeps active update

/-- **A step of the firmware** keeps them in order, if the environment does. -/
theorem SessionInOrder.step {environment : δ → δ → Prop}
    (respects : ∀ active s t, environment s t → inOrder active s → inOrder active t)
    {s t : SessionSystem δ} {event : SessionEvent}
    (before : SessionInOrder registry inOrder s.session)
    (step : SessionStep registry metadata environment s event t) :
    SessionInOrder registry inOrder t.session := by
  cases step with
  | packet bytes => exact before
  | transmitComplete => exact before
  | deinit => exact before
  | init => exact before
  | transport usb => exact before
  | session returned =>
      exact sessionProtocolProcess_preserves
        (fun _ _ before turn => SessionInOrder.turn keeps before turn) before returned
  | environment changed =>
      obtain ⟨active, focuses, order⟩ := before
      refine ⟨active, ?_, respects active _ _ changed order⟩
      cases focuses with
      | idle inactive => exact .idle inactive
      | active active registered last => exact .active active registered last

end Session

/-! ## The components -/

/-- A test of a type is active. -/
def FocusedOn (type : String) (active : Option Focus) : Prop :=
  active.map Prod.fst = some (ascii type)

instance (type : String) (active : Option Focus) : Decidable (FocusedOn type active) :=
  inferInstanceAs (Decidable (_ = _))

theorem not_focusedOn {type other : String} (distinct : ascii other ≠ ascii type)
    (parameters : ComponentTestParameters) : ¬FocusedOn type (some (ascii other, parameters)) :=
  fun focused => distinct (Option.some.inj focused)

/-- A status LED is lit while its test is active. -/
def LedsInOrder (active : Option Focus) (leds : StatusLeds) : Prop :=
  leds = ⟨decide (FocusedOn "status_led_red" active), decide (FocusedOn "status_led_green" active)⟩

/-- The RGB LED has been sent black, or nothing. -/
def RgbLedTest.IsDark (led : RgbLedTest) : Prop :=
  ∀ colour ∈ led.transmitted.getLast?, colour = (0, 0, 0)

/-- The RGB LED is dark, and its test has failed if it is active, or it is active and shows its
colour. -/
def RgbLedInOrder (active : Option Focus) (led : RgbLedTest) : Prop :=
  (led.IsDark ∧ (FocusedOn "rgb_led" active → led.transmissionFailed = true)) ∨
    ∃ parameters, active = some (ascii "rgb_led", parameters) ∧ led.hardwareReady = true ∧
      led.transmitted.getLast? = some (parameters.red, parameters.green, parameters.blue)

/-- A driver is ready only during the tests of a type. -/
def ReadyInOrder (type : String) (active : Option Focus) (ready : Bool) : Prop :=
  ready = true → FocusedOn type active

theorem keepsOrder_statusLedRed :
    KeepsOrder (statusLedDefinition "status_led_red" statusLedRedStart) LedsInOrder where
  started := by
    intro parameters s t _ returned
    cases returned
    exact congrArg₂ StatusLeds.mk (decide_eq_true rfl).symm
      (decide_eq_false (not_focusedOn (by decide) parameters)).symm
  processed before returned := by
    obtain ⟨_, rfl⟩ := ComponentCall.pure_eq_some returned
    exact before
  stopped := by
    intro parameters s t _ returned
    cases returned
    rfl

theorem keepsOrder_statusLedGreen :
    KeepsOrder (statusLedDefinition "status_led_green" statusLedGreenStart) LedsInOrder where
  started := by
    intro parameters s t _ returned
    cases returned
    exact congrArg₂ StatusLeds.mk
      (decide_eq_false (not_focusedOn (by decide) parameters)).symm (decide_eq_true rfl).symm
  processed before returned := by
    obtain ⟨_, rfl⟩ := ComponentCall.pure_eq_some returned
    exact before
  stopped := by
    intro parameters s t _ returned
    cases returned
    rfl

section RgbLed

variable {s t : RgbLedTest} {parameters : ComponentTestParameters}

theorem RgbLedInOrder.dark (order : RgbLedInOrder none s) : s.IsDark := by
  rcases order with ⟨dark, _⟩ | ⟨_, active, _⟩
  · exact dark
  · cases active

/-- A dark LED is in order while its test is not active. -/
theorem RgbLedTest.IsDark.inOrder {active : Option Focus} (dark : s.IsDark)
    (elsewhere : ¬FocusedOn "rgb_led" active) : RgbLedInOrder active s :=
  .inl ⟨dark, fun focused => absurd focused elsewhere⟩

/-- **`transmit`** sends a colour if the hardware is ready. -/
theorem rgbTransmit_returns {red green blue : UInt8} {sent : Bool}
    (returned : rgbTransmit red green blue s = some (sent, t)) :
    sent = s.hardwareReady ∧
      t = if s.hardwareReady then { s with transmitted := s.transmitted ++ [(red, green, blue)] }
        else s := by
  rw [rgbTransmit, ComponentCall.get_bind] at returned
  split_ifs at returned ⊢ with ready
  · obtain ⟨rfl, rfl⟩ := ComponentCall.pure_eq_some returned
    exact ⟨ready.symm, rfl⟩
  · obtain ⟨rfl, rfl⟩ := ComponentCall.pure_eq_some returned
    exact ⟨(Bool.eq_false_of_not_eq_true ready).symm, rfl⟩

theorem rgbInitializeHardware_returns {ready : Bool}
    (returned : rgbInitializeHardware s = some (ready, t)) :
    ∃ later, t = { s with initResults := later } := by
  rw [rgbInitializeHardware] at returned
  cases held : s.initResults with
  | nil =>
      rw [held] at returned
      cases returned
  | cons answer later =>
      rw [held] at returned
      obtain ⟨rfl, rfl⟩ := Prod.mk.inj (Option.some.inj returned)
      exact ⟨later, rfl⟩

/-- **`rgb_led_test_start`** transmits the colour of the request, or nothing. -/
theorem rgbLedTestStart_returns (returned : rgbLedTestStart parameters s = some ((), t)) :
    (t.hardwareReady = true ∧
        t.transmitted = s.transmitted ++ [(parameters.red, parameters.green, parameters.blue)]) ∨
      (t.transmitted = s.transmitted ∧ t.transmissionFailed = true) := by
  rw [rgbLedTestStart, ComponentCall.modify_bind] at returned
  split_ifs at returned with present
  · obtain ⟨ready, initialized, init, rest⟩ := ComponentCall.bind_eq_some returned
    obtain ⟨later, rfl⟩ := rgbInitializeHardware_returns init
    rw [ComponentCall.modify_bind] at rest
    obtain ⟨sent, after, transmit, rest⟩ := ComponentCall.bind_eq_some rest
    obtain ⟨rfl, rfl⟩ := rgbTransmit_returns transmit
    cases rest
    cases sent with
    | false => exact .inr ⟨rfl, rfl⟩
    | true => exact .inl ⟨rfl, rfl⟩
  · cases returned
    rw [Bool.not_eq_true] at present
    exact .inr ⟨rfl, congrArg not present⟩

/-- **`rgb_led_test_process`** transmits nothing. -/
theorem rgbLedTestProcess_returns {result : ComponentTestProcessResult}
    (returned : rgbLedTestProcess s = some (result, t)) :
    t.hardwareReady = s.hardwareReady ∧ t.transmissionFailed = s.transmissionFailed ∧
      t.transmitted = s.transmitted := by
  rw [rgbLedTestProcess, ComponentCall.get_bind] at returned
  split_ifs at returned with failed ready
  · obtain ⟨_, rfl⟩ := ComponentCall.pure_eq_some returned
    exact ⟨rfl, rfl, rfl⟩
  · rw [ComponentCall.modify_bind] at returned
    obtain ⟨_, rfl⟩ := ComponentCall.pure_eq_some returned
    exact ⟨rfl, rfl, rfl⟩
  · obtain ⟨_, rfl⟩ := ComponentCall.pure_eq_some returned
    exact ⟨rfl, rfl, rfl⟩

/-- **`rgb_led_test_stop`** sends black if the hardware is ready. -/
theorem rgbLedTestStop_returns (returned : rgbLedTestStop s = some ((), t)) :
    t.transmitted = if s.hardwareReady then s.transmitted ++ [(0, 0, 0)] else s.transmitted := by
  rw [rgbLedTestStop, ComponentCall.get_bind] at returned
  split_ifs at returned ⊢ with ready
  · obtain ⟨sent, after, transmit, rest⟩ := ComponentCall.bind_eq_some returned
    obtain ⟨_, rfl⟩ := rgbTransmit_returns transmit
    obtain ⟨_, rfl⟩ := ComponentCall.pure_eq_some rest
    rw [if_pos ready]
  · obtain ⟨_, rfl⟩ := ComponentCall.pure_eq_some returned
    rfl

theorem keepsOrder_rgbLed : KeepsOrder rgbLedDefinition RgbLedInOrder where
  started := by
    intro parameters s t before returned
    rcases rgbLedTestStart_returns returned with ⟨ready, sent⟩ | ⟨kept, failed⟩
    · refine .inr ⟨parameters, rfl, ready, ?_⟩
      rw [sent, List.getLast?_concat]
    · refine .inl ⟨?_, fun _ => failed⟩
      rw [RgbLedTest.IsDark, kept]
      exact before.dark
  processed := by
    intro parameters s t result before returned
    obtain ⟨ready, failed, kept⟩ := rgbLedTestProcess_returns returned
    rw [RgbLedInOrder, RgbLedTest.IsDark, ready, failed, kept]
    exact before
  stopped := by
    intro parameters s t before returned
    have sent := rgbLedTestStop_returns returned
    refine RgbLedTest.IsDark.inOrder ?_ (Option.some_ne_none _).symm
    split_ifs at sent with ready
    · intro colour last
      rw [sent, List.getLast?_concat] at last
      exact (Option.some.inj last).symm
    · rw [RgbLedTest.IsDark, sent]
      rcases before with ⟨dark, _⟩ | ⟨_, _, ready', _⟩
      · exact dark
      · exact absurd ready' ready

end RgbLed

theorem keepsOrder_imu (ok : Int8) : KeepsOrder (imuDefinition ok)
    fun active imu => ReadyInOrder "imu" active imu.driver.ready where
  started _ _ _ := rfl
  processed _ _ _ := rfl
  stopped := by
    intro parameters s t _ returned ready
    cases returned
    cases ready

theorem bmp388DriverShutdown_returns {answer : Option Unit} {s t : Bmp388Driver}
    (returned : bmp388DriverShutdown s = some (answer, t)) : t.ready = false := by
  have triple : Triple (fun _ => True) bmp388DriverShutdown (fun _ t => t.ready = false)
      fun t => t.ready = false := by
    refine Triple.bind (M := fun _ _ => True) (.ask fun _ _ => trivial) fun ready => ?_
    cases ready with
    | false => exact .change fun _ _ => rfl
    | true =>
        refine Triple.bind (M := fun _ _ => True) (.receive fun _ _ _ _ _ => trivial) fun _ => ?_
        exact .change fun _ _ => rfl
  cases answer with
  | none => exact triple.fails trivial returned
  | some _ => exact triple.success trivial returned

theorem keepsOrder_barometer (codes : Bmp3Codes) : KeepsOrder (barometerDefinition codes)
    fun active barometer => ReadyInOrder "barometer" active barometer.driver.ready where
  started _ _ _ := rfl
  processed _ _ _ := rfl
  stopped := by
    intro parameters s t _ returned ready
    obtain ⟨answer, after, called, rest⟩ := ComponentCall.bind_eq_some returned
    obtain ⟨_, rfl⟩ := ComponentCall.pure_eq_some rest
    obtain ⟨⟨value, driver⟩, shut, same⟩ := Option.map_eq_some_iff.mp called
    obtain ⟨rfl, rfl⟩ := Prod.mk.inj same
    rw [bmp388DriverShutdown_returns shut] at ready
    cases ready

open ChipSelect in
/-- A call of the driver leaves the chip select high. -/
theorem onBus_of_call (call : DriverCall) {answer : Option Unit} {s t : SdCardDriver}
    (onBus : OnBus Released s) (returned : call.call s = some (answer, t)) : OnBus Released t := by
  cases answer with
  | none => exact (onBus_call call).fails onBus returned
  | some _ => exact (onBus_call call).success onBus returned

open ChipSelect in
theorem keepsOrder_sdCard :
    KeepsOrder sdCardDefinition fun _ card => OnBus Released card.driver where
  started := by
    intro parameters s t before returned
    obtain ⟨_, _, driver, _⟩ := @sdCardTestStart_returns _ _ s t parameters _ returned
    rw [driver]
    exact ⟨before.chipSelect, before.unset⟩
  processed := by
    intro parameters s t result before returned
    have operated : ∀ {operation : BlockOperation} {block : UInt32} {answer : Option Unit},
        operation.call block s.driver = some (answer, t.driver) → OnBus Released t.driver := by
      intro operation block answer called
      cases operation with
      | write => exact onBus_of_call (.writeTestBlock false block) before called
      | verify => exact onBus_of_call (.verifyTestBlock false block) before called
      | clear => exact onBus_of_call (.clearTestBlock false block) before called
    cases sdCardTestProcess_returns returned with
    | waits _ _ _ _ driver _ => exact driver ▸ before
    | announces _ _ _ _ driver _ _ _ => exact driver ▸ before
    | removed _ _ driver _ _ _ => exact driver ▸ before
    | callFails pending called _ _ _ =>
        cases pending with
        | initialization _ => exact onBus_of_call (.initializeDriver false) before called
        | block _ _ => exact operated called
    | initialized _ called _ _ _ _ => exact onBus_of_call (.initializeDriver false) before called
    | blockDone _ _ called _ _ _ _ => exact operated called
    | phaseDone _ _ called _ _ _ _ _ => exact operated called
    | passed _ same => exact same ▸ before
    | failed _ same => exact same ▸ before
  stopped := by
    intro parameters s t before returned
    obtain ⟨answer, driver, called, rfl⟩ := sdCardTestStop_returns returned
    exact onBus_of_call .shutdown before called

/-! ## The flight computer -/

/-- **The outputs of the flight computer are in order.** -/
structure OutputsInOrder (active : Option Focus) (s : FlightComputerComponents) : Prop where
  leds : LedsInOrder active s.statusLeds
  rgbLed : RgbLedInOrder active s.rgbLed
  imu : ReadyInOrder "imu" active s.imu.driver.ready
  barometer : ReadyInOrder "barometer" active s.barometer.driver.ready
  card : OnBus ChipSelect.Released s.sdCard.driver

section Elsewhere

variable {leds : StatusLeds} {led : RgbLedTest} {ready : Bool} {type other : String}
  {parameters : ComponentTestParameters}

/-- The LEDs stay off when another test is started, and are off when it is stopped. -/
theorem ledsInOrder_elsewhere (red : ascii other ≠ ascii "status_led_red")
    (green : ascii other ≠ ascii "status_led_green") :
    LedsInOrder (some (ascii other, parameters)) leds ↔ LedsInOrder none leds := by
  rw [LedsInOrder, LedsInOrder, decide_eq_false (not_focusedOn red parameters),
    decide_eq_false (not_focusedOn green parameters)]
  rfl

/-- The RGB LED stays dark. -/
theorem rgbLedInOrder_elsewhere (distinct : ascii other ≠ ascii "rgb_led") :
    RgbLedInOrder (some (ascii other, parameters)) led ↔ RgbLedInOrder none led := by
  constructor
  · intro before
    rcases before with ⟨dark, _⟩ | ⟨_, active, _⟩
    · exact dark.inOrder (Option.some_ne_none _).symm
    · exact absurd (congrArg Prod.fst (Option.some.inj active)) distinct
  · intro before
    exact before.dark.inOrder (not_focusedOn distinct parameters)

/-- A driver stays unready. -/
theorem readyInOrder_elsewhere (distinct : ascii other ≠ ascii type) :
    ReadyInOrder type (some (ascii other, parameters)) ready ↔ ReadyInOrder type none ready :=
  ⟨fun before holds => absurd (before holds) (not_focusedOn distinct parameters),
    fun before holds => absurd (before holds) (Option.some_ne_none _).symm⟩

end Elsewhere

/-- A status LED. -/
theorem keepsOrder_statusLed {type : String}
    {start : ComponentTestParameters → ComponentCall StatusLeds Unit}
    (keeps : KeepsOrder (statusLedDefinition type start) LedsInOrder)
    (rgb : ascii type ≠ ascii "rgb_led") (imu : ascii type ≠ ascii "imu")
    (barometer : ascii type ≠ ascii "barometer") :
    KeepsOrder ((statusLedDefinition type start).onPart
      FlightComputerComponents.statusLeds fun leds s => { s with statusLeds := leds })
      OutputsInOrder := by
  refine keeps.onPart (fun active s before => before.leds) ?_ ?_ ?_
  · intro parameters s x before leds
    exact ⟨leds, (rgbLedInOrder_elsewhere rgb).mpr before.rgbLed,
      (readyInOrder_elsewhere imu).mpr before.imu,
      (readyInOrder_elsewhere barometer).mpr before.barometer, before.card⟩
  · intro parameters s x before leds
    exact ⟨leds, before.rgbLed, before.imu, before.barometer, before.card⟩
  · intro parameters s x before leds
    exact ⟨leds, (rgbLedInOrder_elsewhere rgb).mp before.rgbLed,
      (readyInOrder_elsewhere imu).mp before.imu,
      (readyInOrder_elsewhere barometer).mp before.barometer, before.card⟩

/-- **Every definition of the production registry keeps the outputs in order.** -/
theorem keepsOrder_productionRegistry (codes : BoschCodes) :
    ∀ definition ∈ productionRegistry codes, KeepsOrder definition OutputsInOrder := by
  intro definition listed
  simp only [productionRegistry, List.mem_cons, List.not_mem_nil, or_false] at listed
  rcases listed with rfl | rfl | rfl | rfl | rfl | rfl
  · exact keepsOrder_statusLed keepsOrder_statusLedRed (by decide) (by decide) (by decide)
  · exact keepsOrder_statusLed keepsOrder_statusLedGreen (by decide) (by decide) (by decide)
  · refine keepsOrder_rgbLed.onPart (fun active s before => before.rgbLed) ?_ ?_ ?_
    · intro parameters s x before led
      exact ⟨(ledsInOrder_elsewhere (by decide) (by decide)).mpr before.leds, led,
        (readyInOrder_elsewhere (by decide)).mpr before.imu,
        (readyInOrder_elsewhere (by decide)).mpr before.barometer, before.card⟩
    · intro parameters s x before led
      exact ⟨before.leds, led, before.imu, before.barometer, before.card⟩
    · intro parameters s x before led
      exact ⟨(ledsInOrder_elsewhere (by decide) (by decide)).mp before.leds, led,
        (readyInOrder_elsewhere (by decide)).mp before.imu,
        (readyInOrder_elsewhere (by decide)).mp before.barometer, before.card⟩
  · refine (keepsOrder_imu codes.bmi2Ok).onPart (fun active s before => before.imu) ?_ ?_ ?_
    · intro parameters s x before imu
      exact ⟨(ledsInOrder_elsewhere (by decide) (by decide)).mpr before.leds,
        (rgbLedInOrder_elsewhere (by decide)).mpr before.rgbLed, imu,
        (readyInOrder_elsewhere (by decide)).mpr before.barometer, before.card⟩
    · intro parameters s x before imu
      exact ⟨before.leds, before.rgbLed, imu, before.barometer, before.card⟩
    · intro parameters s x before imu
      exact ⟨(ledsInOrder_elsewhere (by decide) (by decide)).mp before.leds,
        (rgbLedInOrder_elsewhere (by decide)).mp before.rgbLed, imu,
        (readyInOrder_elsewhere (by decide)).mp before.barometer, before.card⟩
  · refine (keepsOrder_barometer codes.bmp3).onPart (fun active s before => before.barometer)
      ?_ ?_ ?_
    · intro parameters s x before barometer
      exact ⟨(ledsInOrder_elsewhere (by decide) (by decide)).mpr before.leds,
        (rgbLedInOrder_elsewhere (by decide)).mpr before.rgbLed,
        (readyInOrder_elsewhere (by decide)).mpr before.imu, barometer, before.card⟩
    · intro parameters s x before barometer
      exact ⟨before.leds, before.rgbLed, before.imu, barometer, before.card⟩
    · intro parameters s x before barometer
      exact ⟨(ledsInOrder_elsewhere (by decide) (by decide)).mp before.leds,
        (rgbLedInOrder_elsewhere (by decide)).mp before.rgbLed,
        (readyInOrder_elsewhere (by decide)).mp before.imu, barometer, before.card⟩
  · refine keepsOrder_sdCard.onPart (fun active s before => before.card) ?_ ?_ ?_
    · intro parameters s x before card
      exact ⟨(ledsInOrder_elsewhere (by decide) (by decide)).mpr before.leds,
        (rgbLedInOrder_elsewhere (by decide)).mpr before.rgbLed,
        (readyInOrder_elsewhere (by decide)).mpr before.imu,
        (readyInOrder_elsewhere (by decide)).mpr before.barometer, card⟩
    · intro parameters s x before card
      exact ⟨before.leds, before.rgbLed, before.imu, before.barometer, card⟩
    · intro parameters s x before card
      exact ⟨(ledsInOrder_elsewhere (by decide) (by decide)).mp before.leds,
        (rgbLedInOrder_elsewhere (by decide)).mp before.rgbLed,
        (readyInOrder_elsewhere (by decide)).mp before.imu,
        (readyInOrder_elsewhere (by decide)).mp before.barometer, card⟩

/-- The environment drives no output of the firmware. -/
structure SameOutputs (s t : FlightComputerComponents) : Prop where
  leds : t.statusLeds = s.statusLeds
  rgbReady : t.rgbLed.hardwareReady = s.rgbLed.hardwareReady
  rgbFailed : t.rgbLed.transmissionFailed = s.rgbLed.transmissionFailed
  rgbTransmitted : t.rgbLed.transmitted = s.rgbLed.transmitted
  imu : t.imu.driver.ready = s.imu.driver.ready
  barometer : t.barometer.driver.ready = s.barometer.driver.ready
  chipSelect : t.sdCard.driver.spi.chipSelect = s.sdCard.driver.spi.chipSelect
  cardDevice : t.sdCard.driver.device = s.sdCard.driver.device

theorem OutputsInOrder.of_same {active : Option Focus} {s t : FlightComputerComponents}
    (same : SameOutputs s t) (before : OutputsInOrder active s) : OutputsInOrder active t where
  leds := same.leds ▸ before.leds
  rgbLed := by
    rw [RgbLedInOrder, RgbLedTest.IsDark, same.rgbReady, same.rgbFailed, same.rgbTransmitted]
    exact before.rgbLed
  imu := by
    rw [same.imu]
    exact before.imu
  barometer := by
    rw [same.barometer]
    exact before.barometer
  card := by
    refine ⟨?_, ?_⟩
    · rw [same.chipSelect]
      exact before.card.chipSelect
    · rw [same.chipSelect, same.cardDevice]
      exact before.card.unset

/-- The components after a reset: nothing is lit, ready or selected. -/
structure FlightComputerComponents.AreReset (s : FlightComputerComponents) : Prop where
  leds : s.statusLeds = ⟨false, false⟩
  rgbLed : s.rgbLed.transmitted = []
  imu : s.imu.driver.ready = false
  barometer : s.barometer.driver.ready = false
  deselected : s.sdCard.driver.spi.chipSelect.current = none
  unused : s.sdCard.driver.spi.chipSelect.finished = []

theorem FlightComputerComponents.AreReset.inOrder {s : FlightComputerComponents}
    (reset : s.AreReset) : OutputsInOrder none s where
  leds := reset.leds
  rgbLed := by
    refine RgbLedTest.IsDark.inOrder ?_ (Option.some_ne_none _).symm
    rw [RgbLedTest.IsDark, reset.rgbLed]
    intro colour last
    cases last
  imu := by
    rw [reset.imu]
    exact fun absurdity => absurd absurdity Bool.false_ne_true
  barometer := by
    rw [reset.barometer]
    exact fun absurdity => absurd absurdity Bool.false_ne_true
  card := by
    refine ⟨⟨?_, reset.deselected⟩, fun _ => reset.deselected⟩
    rw [reset.unused]
    exact fun _ listed => absurd listed List.not_mem_nil

section Runs

variable {codes : BoschCodes} {metadata : SessionMetadata}
  {environment : FlightComputerComponents → FlightComputerComponents → Prop}
  {components : FlightComputerComponents} {events : List SessionEvent}
  {s : SessionSystem FlightComputerComponents}

/-- **The outputs follow the active test** in every run after a reset, whatever arrives and whatever
the hardware answers: the status LEDs are lit exactly during their tests; the RGB LED is dark but
during its test, and then it shows the colour of the request unless it could not be transmitted; the
drivers of the sensors are ready only during their tests, and the card is not selected. -/
theorem outputs_follow_active_test (reset : components.AreReset)
    (drivesNothing : ∀ s t, environment s t → SameOutputs s t)
    (run : Run (SessionStep (productionRegistry codes) metadata environment)
      (.initial components) events s) :
    let active := componentTestRunnerActiveType s.session.runner
    (s.session.device.statusLeds.red = true ↔ active = some (ascii "status_led_red")) ∧
      (s.session.device.statusLeds.green = true ↔ active = some (ascii "status_led_green")) ∧
      (∀ colour, s.session.device.rgbLed.transmitted.getLast? = some colour → colour ≠ (0, 0, 0) →
        active = some (ascii "rgb_led") ∧ ∃ parameters,
          LastStarted s.session.actions (ascii "rgb_led", parameters) ∧
          colour = (parameters.red, parameters.green, parameters.blue)) ∧
      (active = some (ascii "rgb_led") → s.session.device.rgbLed.transmissionFailed = false →
        ∃ parameters, LastStarted s.session.actions (ascii "rgb_led", parameters) ∧
          s.session.device.rgbLed.transmitted.getLast? =
            some (parameters.red, parameters.green, parameters.blue)) ∧
      (s.session.device.imu.driver.ready = true → active = some (ascii "imu")) ∧
      (s.session.device.barometer.driver.ready = true → active = some (ascii "barometer")) ∧
      s.session.device.sdCard.driver.spi.chipSelect.current = none := by
  have inOrder : SessionInOrder (productionRegistry codes) OutputsInOrder s.session := by
    refine run.invariant
      (I := fun s => SessionInOrder (productionRegistry codes) OutputsInOrder s.session)
      (fun _ _ _ before step => before.step (keepsOrder_productionRegistry codes) ?_ step)
      ⟨none, .idle rfl, reset.inOrder⟩
    exact fun active s t changed before => before.of_same (drivesNothing s t changed)
  obtain ⟨focus, focuses, order⟩ := inOrder
  have active : componentTestRunnerActiveType s.session.runner = focus.map Prod.fst := by
    cases focuses with
    | idle inactive =>
        rw [componentTestRunnerActiveType, inactive]
        rfl
    | active active _ _ =>
        rw [componentTestRunnerActiveType, active]
        rfl
  dsimp only
  rw [active, order.leds]
  refine ⟨decide_eq_true_iff, decide_eq_true_iff, ?_, ?_, order.imu, order.barometer,
    order.card.chipSelect.high⟩
  · intro colour last coloured
    rcases order.rgbLed with ⟨dark, _⟩ | ⟨parameters, rfl, _, shown⟩
    · exact absurd (dark colour last) coloured
    · exact ⟨rfl, parameters, focuses.lastStarted, Option.some.inj (last.symm.trans shown)⟩
  · intro active succeeded
    rcases order.rgbLed with ⟨_, failed⟩ | ⟨parameters, rfl, _, shown⟩
    · exact absurd (succeeded.symm.trans (failed active)) Bool.false_ne_true
    · exact ⟨parameters, focuses.lastStarted, shown⟩

end Runs

/-- Components whose RGB LED can be initialized. -/
def readyRgbLed : FlightComputerComponents :=
  { silentBarometer with rgbLed := { silentBarometer.rgbLed with initResults := [true] } }

/-- A request to show a colour, as it is sent. -/
def runRgbLed : Bytes :=
  ascii ("\x7b\"protocol_version\":1,\"type\":\"RUN_COMPONENT_TEST\",\"command_id\":3," ++
    "\"test_type\":\"rgb_led\",\"parameters\":\x7b\"red\":40,\"green\":220,\"blue\":200\x7d\x7d")

/-- The test of the RGB LED is started. -/
def rgbLedStarted : List SessionEvent :=
  [.packet (runRgbLed ++ [lineFeed]), .transport ⟨true, true, true⟩, .session]

set_option maxRecDepth 4000 in
/-- A run in which the RGB LED shows a colour: its test is active, and the red LED is not lit. -/
theorem outputs_follow_active_test_rgbLed : ∃ s,
    Run (SessionStep (productionRegistry someCodes) blankMetadata fun _ _ => False)
      (.initial readyRgbLed) rgbLedStarted s ∧
    s.session.device.rgbLed.transmitted.getLast? = some (40, 220, 200) ∧
    componentTestRunnerActiveType s.session.runner = some (ascii "rgb_led") ∧
    s.session.device.statusLeds.red = false := by
  have ends : (rgbLedStarted.foldlM
      (performEvent (productionRegistry someCodes) blankMetadata) (.initial readyRgbLed)).map
        (fun s => s.session.device.rgbLed.transmitted.getLast?) =
      some (some (40, 220, 200)) := by decide +kernel
  obtain ⟨s, performed, shown⟩ := Option.map_eq_some_iff.mp ends
  have run : Run (SessionStep (productionRegistry someCodes) blankMetadata fun _ _ => False)
      (.initial readyRgbLed) rgbLedStarted s :=
    .of_performed (fun _ _ _ => step_of_performEvent) performed
  obtain ⟨red, _, coloured, _⟩ :=
    outputs_follow_active_test ⟨rfl, rfl, rfl, rfl, rfl, rfl⟩ (fun _ _ never => never.elim) run
  obtain ⟨active, _⟩ := coloured (40, 220, 200) shown (by decide)
  refine ⟨s, run, shown, active, Bool.eq_false_of_not_eq_true fun lit => ?_⟩
  exact absurd (Option.some.inj (active.symm.trans (red.mp lit))) (by decide)

end FlightComputer.Firmware
