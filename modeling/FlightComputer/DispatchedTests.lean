import FlightComputer.BoardTester.Configuration
import FlightComputer.BoardTester.Handlers
import FlightComputer.BoardTester.RequestLines
import FlightComputer.Firmware.ProductionRegistry
import FlightComputer.Firmware.SessionLines
import FlightComputer.RequestRoundTrip

/-!
# Dispatched tests run

Six checks stand between an entry of a test configuration and the start of a component:
those of the configuration files, of the capabilities of the board, of the capabilities in the
START_TEST response, of the encoder, of the parser, and the lookup in the registry. What passes
the first three passes the others (`every_dispatched_test_runs`).

A handler begins with the RUN_COMPONENT_TEST line (`Sends`), and an idle session answers the line
of a registered test with TEST_STARTED (`processLine_run`).
-/

set_option autoImplicit false

namespace FlightComputer

open Library BoardTester Firmware

/-! ## The line of a handler -/

/-- A call that begins by writing a line. -/
def Sends {α : Type} (payload : Bytes) (call : ConnectionCall α) : Prop :=
  ∃ rest : ConnectionCall α, call = do
    writeLine payload writeTimeoutSeconds
    rest

namespace Sends

variable {α β : Type} {payload : Bytes}

theorem bind {call : ConnectionCall α} (sends : Sends payload call)
    (next : α → ConnectionCall β) : Sends payload (call >>= next) := by
  obtain ⟨rest, rfl⟩ := sends
  exact ⟨rest >>= next, bind_assoc _ _ _⟩

/-- A computation that succeeds may come first. -/
theorem settle {result : Except TesterError α} {value : α} (settled : result = .ok value)
    {next : α → ConnectionCall β} (sends : Sends payload (next value)) :
    Sends payload (Raising.settle result >>= next) := by
  obtain ⟨rest, same⟩ := sends
  refine ⟨rest, ?_⟩
  rw [← same, settled]
  funext connection
  exact Raising.bind_returned rfl

theorem runComponentTest {σ : Type} {tooDeep : PyStr → Bool} {commandId : Int} {testType : PyStr}
    {parameters : Option (List (PyStr × Int))}
    (encoded : encodeRunComponentTest commandId testType parameters = .ok payload)
    (onEvent : σ → BoardTester.ComponentTestEvent →
      ConnectionCall (σ × Option ComponentTestCompletion))
    (onStarted : ConnectionCall (Option ComponentTestCompletion)) (handler : σ) :
    Sends payload (BoardTester.runComponentTest tooDeep commandId testType onEvent parameters
      onStarted handler) := by
  rw [Sends, BoardTester.runComponentTest, encoded]
  exact ⟨_, rfl⟩

end Sends

/-- The parameters of a colour, as the RGB handler makes them. -/
def colourDictionary (colour : Option RgbColour) : Option (List (PyStr × Int)) :=
  colour.map fun colour => (colourChannels colour).map colourItem

/-- What the RGB handler needs of the colour library: `webcolors` returns bytes, and it knows the
name `turquoise`. -/
structure KnowsDefaultColour (library : ColourLibrary) : Prop extends library.ReturnsBytes where
  lower : library.lower (pyStr "turquoise") = pyStr "turquoise"
  turquoise : library.nameToRgb (pyStr "turquoise") = some (64, 224, 208)

theorem KnowsDefaultColour.colourToRgb {library : ColourLibrary}
    (known : KnowsDefaultColour library) :
    colourToRgb library (.str (pyStr "turquoise")) = .ok (64, 224, 208) := by
  have stripped : pyStrip (pyStr "turquoise") = pyStr "turquoise" := by decide
  rw [BoardTester.colourToRgb, stripped, if_neg (by decide), known.lower, colourTextToRgb,
    rgbFunction, if_neg (by decide)]
  dsimp only
  rw [convertColour, if_neg (by decide), known.turquoise]

/-- The channels of a colour, as `colour_to_rgb` returns them. -/
def channelsOf (colour : RgbColour) : Int × Int × Int :=
  (colour.red.toNat, colour.green.toNat, colour.blue.toNat)

/-- Three bytes are the channels of a colour. -/
theorem exists_colour_of_bytes {red green blue : Int}
    (bytes : ∀ channel ∈ [red, green, blue], 0 ≤ channel ∧ channel ≤ 255) :
    ∃ colour, (red, green, blue) = channelsOf colour := by
  have back : ∀ channel : Int, 0 ≤ channel → channel ≤ 255 →
      ((UInt8.ofNat channel.toNat).toNat : Int) = channel := by
    intro channel nonnegative bounded
    rw [UInt8.toNat_ofNat_of_lt' (by simp only [UInt8.size]; omega),
      Int.toNat_of_nonneg nonnegative]
  simp only [List.forall_mem_cons, List.not_mem_nil, false_imp_iff, implies_true, and_true] at bytes
  obtain ⟨⟨redLow, redHigh⟩, ⟨greenLow, greenHigh⟩, blueLow, blueHigh⟩ := bytes
  refine ⟨⟨UInt8.ofNat red.toNat, UInt8.ofNat green.toNat, UInt8.ofNat blue.toNat⟩, ?_⟩
  rw [channelsOf, back red redLow redHigh, back green greenLow greenHigh,
    back blue blueLow blueHigh]

/-- **The handler of a test sends its line**, with a colour exactly if it is the RGB test: the
channels of the configured one. -/
structure SendsColour (interpreter : Interpreter) (definition : TestDefinition)
    (colour : Option RgbColour) : Prop where
  present : colour.isSome = true ↔ definition.type = pyStr "rgb_led"
  channels : ∀ rgb, colour = some rgb →
    colourToRgb interpreter.colours (configuredColour definition) = .ok (channelsOf rgb)
  sends : ∀ commandId payload,
    encodeRunComponentTest commandId definition.type (colourDictionary colour) = .ok payload →
      Sends payload (runHandler interpreter definition commandId)

section Handlers

variable {interpreter : Interpreter} {definition : TestDefinition}

/-- The handlers without parameters. -/
theorem SendsColour.bare (other : definition.type ≠ pyStr "rgb_led")
    (sends : ∀ commandId payload,
      encodeRunComponentTest commandId definition.type none = .ok payload →
        Sends payload (runHandler interpreter definition commandId)) :
    SendsColour interpreter definition none where
  present := iff_of_false Bool.false_ne_true other
  channels rgb absurdity := by cases absurdity
  sends := sends

/-- The configured colour of an accepted test can be converted. -/
theorem exists_channels (known : KnowsDefaultColour interpreter.colours)
    (accepted : definition.IsAccepted interpreter.colours) :
    ∃ channels, colourToRgb interpreter.colours (configuredColour definition) = .ok channels := by
  rcases accepted.coloured with empty | ⟨colour, channels, found, converted⟩
  · rw [configuredColour, empty]
    exact ⟨_, known.colourToRgb⟩
  · rw [configuredColour, found]
    exact ⟨channels, converted⟩

/-- The handler of the RGB LED. -/
theorem exists_colour_of_rgb (known : KnowsDefaultColour interpreter.colours)
    (accepted : definition.IsAccepted interpreter.colours)
    (typed : definition.type = pyStr "rgb_led") :
    ∃ colour, SendsColour interpreter definition (some colour) := by
  obtain ⟨⟨red, green, blue⟩, converted⟩ := exists_channels known accepted
  obtain ⟨colour, same⟩ :=
    exists_colour_of_bytes (colourToRgb_bytes known.toReturnsBytes converted)
  rw [same] at converted
  refine ⟨colour, iff_of_true rfl typed, ?_, ?_⟩
  · rintro _ ⟨⟩
    exact converted
  · intro commandId payload encoded
    have initial := congrArg (Except.mapError TesterError.value) known.colourToRgb
    have shown := congrArg (Except.mapError TesterError.value) converted
    have begins : Sends payload (runRgbLedTest interpreter definition commandId) :=
      .settle initial (.settle shown ((Sends.runComponentTest encoded _ _ _).bind _))
    rw [runHandler, typed]
    exact begins

/-- **Every accepted test has a handler that sends its line.** -/
theorem exists_sendsColour (known : KnowsDefaultColour interpreter.colours)
    (accepted : definition.IsAccepted interpreter.colours) :
    ∃ colour, SendsColour interpreter definition colour := by
  have supported := accepted.supported
  simp only [supportedTestTypes, List.mem_cons, List.not_mem_nil, or_false] at supported
  rcases supported with typed | typed | typed | typed | typed | typed
  · refine ⟨none, .bare (by rw [typed]; decide) fun commandId payload encoded => ?_⟩
    rw [runHandler, typed]
    exact (Sends.runComponentTest encoded _ _ _).bind _
  · refine ⟨none, .bare (by rw [typed]; decide) fun commandId payload encoded => ?_⟩
    rw [runHandler, typed]
    exact (Sends.runComponentTest encoded _ _ _).bind _
  · obtain ⟨colour, sends⟩ := exists_colour_of_rgb known accepted typed
    exact ⟨some colour, sends⟩
  · refine ⟨none, .bare (by rw [typed]; decide) fun commandId payload encoded => ?_⟩
    rw [runHandler, typed]
    exact .settle rfl ((Sends.runComponentTest encoded _ _ _).bind _)
  · refine ⟨none, .bare (by rw [typed]; decide) fun commandId payload encoded => ?_⟩
    rw [runHandler, typed]
    exact .settle rfl ((Sends.runComponentTest encoded _ _ _).bind _)
  · refine ⟨none, .bare (by rw [typed]; decide) fun commandId payload encoded => ?_⟩
    rw [runHandler, typed]
    exact (Sends.runComponentTest encoded _ _ _).bind _

end Handlers

/-! ## The answer of the firmware -/

section Answers

variable {δ : Type} {registry : ComponentTestRegistry δ} {line type : Bytes}
  {commandId : UInt32} {colour : Option RgbColour} {component : ComponentTestDefinition δ}

/-- **An idle session starts the registered test** and answers TEST_STARTED, once the start
of the component has returned. -/
theorem processLine_run (requested : Requests line commandId (.runComponentTest type colour))
    (found : componentRegistryFind registry type = some component)
    (metadata : SessionMetadata) {s : SessionState δ}
    (idle : s.runner.activeDefinition = none) :
    processLine registry metadata line s =
      (component.start (colourParameters colour) s.device).map fun returned =>
        (some (testMessage "TEST_STARTED" commandId type "running"),
          { s.after returned.2 [.start type (colourParameters colour)] with
            runner := ⟨some component, commandId⟩ }) := by
  obtain ⟨rfl, named⟩ := isTestTypeName_of_found requested found
  obtain ⟨isRun, ofType, withParameters⟩ := requestRecord_runComponentTest commandId component.type
    colour
  have number := requestRecord_commandId commandId (.runComponentTest component.type colour)
  have built : lifecycleLine "TEST_STARTED" commandId component.type "running" =
      some (testMessage "TEST_STARTED" commandId component.type "running") :=
    lifecycleLine_eq (isWord_of_decide (by decide) (by decide))
      (isWord_of_decide (by decide) (by decide)) (isShort_of_isTestTypeName named) commandId
  rw [processLine, requested.parsed]
  dsimp only
  rw [isRun]
  dsimp only
  rw [processRunRequest, ComponentTestRunner.isRunning, idle, Option.isSome_none,
    if_neg Bool.false_ne_true, ofType, found]
  dsimp only
  rw [number, withParameters, built, componentTestRunnerStart]
  · rw [if_neg requested.commandId_ne_zero, callStart, Option.map_map, Option.map_map]
    rfl
  · exact idle

end Answers

/-! ## From the configuration to the component -/

/-- **What becomes of a test that is dispatched**: its handler sends a line, the parser takes
the line for the request, the registry has a component of that name, and an idle session starts
this component with the colour, unchanged, and answers TEST_STARTED. -/
structure ReachesComponent {δ : Type} (registry : ComponentTestRegistry δ)
    (interpreter : Interpreter) (definition : TestDefinition) (commandId : UInt32) (type : Bytes)
    (colour : Option RgbColour) (payload : Bytes) (component : ComponentTestDefinition δ) :
    Prop where
  typed : definition.type = codes type
  sent : Sends payload (runHandler interpreter definition commandId.toNat)
  framed : encodeLine payload maxLineLength = .ok (payload ++ [lineFeed])
  parsed : jsonProtocolParseRequest payload =
    .ok (requestRecord ⟨commandId.toNat, .runComponentTest type colour⟩)
  resolved : componentRegistryFind registry type = some component ∧ component.type = type
  present : colour.isSome = true ↔ definition.type = pyStr "rgb_led"
  channels : ∀ rgb, colour = some rgb →
    colourToRgb interpreter.colours (configuredColour definition) = .ok (channelsOf rgb)
  answered : ∀ (metadata : SessionMetadata) (s : SessionState δ),
    s.runner.activeDefinition = none →
      processLine registry metadata payload s =
        (component.start (colourParameters colour) s.device).map fun returned =>
          (some (testMessage "TEST_STARTED" commandId type "running"),
            { s.after returned.2 [.start type (colourParameters colour)] with
              runner := ⟨some component, commandId⟩ })

/-- **A test whose component is registered runs**, with any registry. -/
theorem reachesComponent_of_found {δ : Type} {registry : ComponentTestRegistry δ}
    {interpreter : Interpreter} {definition : TestDefinition} {type : Bytes}
    {colour : Option RgbColour} {component : ComponentTestDefinition δ}
    (sends : SendsColour interpreter definition colour) (named : IsTestTypeName type)
    (typed : definition.type = codes type)
    (found : componentRegistryFind registry type = some component) {commandId : UInt32}
    (positive : commandId ≠ 0) :
    ∃ payload, ReachesComponent registry interpreter definition commandId type colour payload
      component := by
  have one_le : 1 ≤ commandId.toNat := by
    refine Nat.one_le_iff_ne_zero.mpr fun zero => positive ?_
    exact UInt32.toNat.inj zero
  have isRgb : colour.isSome = true ↔ type = rgbLed := by
    rw [sends.present, typed]
    exact ⟨fun same => codes_injective same, fun same => congrArg codes same⟩
  have valid : Request.Valid ⟨commandId.toNat, .runComponentTest type colour⟩ :=
    { positive := one_le
      bounded := Nat.le_of_lt_succ commandId.toNat_lt
      body := ⟨named, isRgb⟩
      variant := fun testUuid absurdity => by cases absurdity }
  obtain ⟨result, call, encodes⟩ : ∃ result,
      EncoderCall ⟨commandId.toNat, .runComponentTest type colour⟩ result ∧
        encodeRunComponentTest commandId.toNat definition.type (colourDictionary colour) =
          result := by
    rw [typed]
    cases colour with
    | none => exact ⟨_, .runComponentTest commandId.toNat type, rfl⟩
    | some rgb => exact ⟨_, .runRgbTest commandId.toNat type rgb _ (List.Perm.refl _), rfl⟩
  obtain ⟨payload, encoded, parsed⟩ := (request_round_trip _ valid).2 _ call
  exact ⟨payload, typed, sends.sends _ _ (encodes.trans encoded),
    encodeLine_of_encoderCall valid.toAdmissible call encoded, parsed,
    ⟨found, (componentRegistryFind_eq_some found).2⟩, sends.present, sends.channels,
    fun metadata s idle => processLine_run ⟨parsed, valid.toAdmissible⟩ found metadata idle⟩

/-- The production registry has a component for every supported type. -/
theorem exists_component {testType : PyStr} (supported : testType ∈ supportedTestTypes)
    (bosch : BoschCodes) : ∃ type component, testType = codes type ∧ IsTestTypeName type ∧
      componentRegistryFind (productionRegistry bosch) type = some component := by
  have named : ∀ {name : String}, 1 ≤ (ascii name).length → (ascii name).length ≤ 31 →
      ((ascii name).all isTestTypeByte) = true → IsTestTypeName (ascii name) :=
    fun nonempty bounded bytes => ⟨nonempty, bounded, List.all_eq_true.mp bytes⟩
  simp only [supportedTestTypes, List.mem_cons, List.not_mem_nil, or_false] at supported
  rcases supported with rfl | rfl | rfl | rfl | rfl | rfl
  · exact ⟨ascii "status_led_red", _, rfl, named (by decide) (by decide) (by decide), rfl⟩
  · exact ⟨ascii "status_led_green", _, rfl, named (by decide) (by decide) (by decide), rfl⟩
  · exact ⟨ascii "rgb_led", _, rfl, named (by decide) (by decide) (by decide), rfl⟩
  · exact ⟨ascii "imu", _, rfl, named (by decide) (by decide) (by decide), rfl⟩
  · exact ⟨ascii "barometer", _, rfl, named (by decide) (by decide) (by decide), rfl⟩
  · exact ⟨ascii "sd_card", _, rfl, named (by decide) (by decide) (by decide), rfl⟩

/-- What the hardware is asked at a start answers: the initialization of the RGB LED returns, and
the card test reads the tick and the card-detect pin. -/
structure AnswersAtStart (s : FlightComputerComponents) : Prop where
  initialized : s.rgbLed.initResults ≠ []
  tick : s.sdCard.ticks ≠ []
  cardRead : s.sdCard.cardReads ≠ []

theorem exists_rgbStarted {s : RgbLedTest} (initialized : s.initResults ≠ [])
    (parameters : ComponentTestParameters) : ∃ t, rgbLedTestStart parameters s = some ((), t) := by
  obtain ⟨ready, later, same⟩ := List.exists_cons_of_ne_nil initialized
  have answered : s = { s with initResults := ready :: later } := by rw [← same]
  obtain ⟨present, red, green, blue⟩ := parameters
  rw [answered]
  cases present
  · exact ⟨_, rfl⟩
  · cases ready <;> exact ⟨_, rfl⟩

theorem exists_cardStarted {s : SdCardTest SdCardDriver} (tick : s.ticks ≠ [])
    (cardRead : s.cardReads ≠ []) (parameters : ComponentTestParameters) :
    ∃ t, sdCardTestStart sdCardDriverCalls parameters s = some ((), t) := by
  obtain ⟨now, ticks, sameTicks⟩ := List.exists_cons_of_ne_nil tick
  obtain ⟨present, reads, sameReads⟩ := List.exists_cons_of_ne_nil cardRead
  have answered : s = { s with ticks := now :: ticks, cardReads := present :: reads } := by
    rw [← sameTicks, ← sameReads]
  rw [answered]
  exact ⟨_, rfl⟩

/-- **A start returns** as soon as the hardware answers, whatever the parameters are. -/
theorem exists_started {bosch : BoschCodes}
    {component : ComponentTestDefinition FlightComputerComponents}
    (registered : component ∈ productionRegistry bosch) (parameters : ComponentTestParameters)
    {s : FlightComputerComponents} (answers : AnswersAtStart s) :
    ∃ t, component.start parameters s = some ((), t) := by
  simp only [productionRegistry, List.mem_cons, List.not_mem_nil, or_false] at registered
  rcases registered with rfl | rfl | rfl | rfl | rfl | rfl
  · exact ⟨_, rfl⟩
  · exact ⟨_, rfl⟩
  · obtain ⟨t, started⟩ := exists_rgbStarted answers.initialized parameters
    exact ⟨_, congrArg (Option.map _) started⟩
  · exact ⟨_, rfl⟩
  · exact ⟨_, rfl⟩
  · obtain ⟨t, started⟩ := exists_cardStarted answers.tick answers.cardRead parameters
    exact ⟨_, congrArg (Option.map _) started⟩

/-- There are at most six tests. -/
theorem length_tests_le {colours : ColourLibrary} {configurations : LoadedConfigurations}
    (accepted : AreAccepted colours configurations) :
    configurations.test.enabledTests.length ≤ 6 := by
  have all : (configurations.test.tests.map TestDefinition.type).length ≤
      supportedTestTypes.length := by
    refine (List.subperm_of_subset accepted.distinct fun testType listed => ?_).length_le
    obtain ⟨definition, among, rfl⟩ := List.mem_map.mp listed
    exact (accepted.definitions definition among).supported
  rw [List.length_map] at all
  exact Nat.le_trans (List.length_filter_le _ _) all

/-- What the firmware offers includes what a validated board can run. -/
theorem mem_capabilities_of_passed {configurations : LoadedConfigurations}
    {response : StartTestResponse}
    (passed : (validateSession configurations response).passed = true) {capability : PyStr}
    (listed : capability ∈ configurations.board.testCapabilities) :
    capability ∈ response.capabilities := by
  have none : missingCapabilities configurations.board response = [] := by
    have failures := List.isEmpty_iff.mp passed
    simp only [validateSession, List.append_eq_nil_iff] at failures
    have last := failures.2
    split_ifs at last with missing
    exact List.isEmpty_iff.mp missing
  have offered := List.filter_eq_nil_iff.mp none capability listed
  rw [Bool.not_eq_true', Bool.not_eq_false] at offered
  exact List.contains_iff_mem.mp offered

/-- **Every dispatched test runs.** The tests of a loaded configuration, for which the session has
been validated, are offered by the firmware and started by it when they are dispatched; the
command ids count from 2, and an idle session answers TEST_STARTED if the hardware answers. -/
theorem every_dispatched_test_runs {π : Type} {files : ConfigurationFiles π} {path : π}
    {interpreter : Interpreter} (known : KnowsDefaultColour interpreter.colours)
    {configurations : LoadedConfigurations}
    (loaded : loadConfigurations files interpreter.colours path = .ok configurations)
    {response : StartTestResponse}
    (passed : (validateSession configurations response).passed = true) (bosch : BoschCodes)
    {index : Nat} {definition : TestDefinition}
    (listed : configurations.test.enabledTests[index]? = some definition) :
    definition.type ∈ response.capabilities ∧
      ∃ commandId type colour payload component, commandId.toNat = index + 2 ∧
        ReachesComponent (productionRegistry bosch) interpreter definition commandId type colour
          payload component ∧
        ∀ (metadata : SessionMetadata) (s : SessionState FlightComputerComponents),
          s.runner.activeDefinition = none → AnswersAtStart s.device →
            ∃ t, processLine (productionRegistry bosch) metadata payload s =
              some (some (testMessage "TEST_STARTED" commandId type "running"), t) := by
  have accepted := loadConfigurations_accepted loaded
  have among : definition ∈ configurations.test.tests :=
    List.mem_of_mem_filter (List.mem_of_getElem? listed)
  refine ⟨mem_capabilities_of_passed passed (accepted.capable definition among), ?_⟩
  have few := length_tests_le accepted
  obtain ⟨inside, _⟩ := List.getElem?_eq_some_iff.mp listed
  have number : (UInt32.ofNat (index + 2)).toNat = index + 2 :=
    UInt32.toNat_ofNat_of_lt' (by simp only [UInt32.size]; omega)
  have positive : UInt32.ofNat (index + 2) ≠ 0 := by
    intro zero
    rw [zero] at number
    cases number
  have inOrder := accepted.definitions definition among
  obtain ⟨type, component, typed, named, found⟩ := exists_component inOrder.supported bosch
  obtain ⟨colour, sends⟩ := exists_sendsColour known inOrder
  obtain ⟨payload, reaches⟩ := reachesComponent_of_found sends named typed found positive
  refine ⟨_, type, colour, payload, component, number, reaches, fun metadata s idle answers => ?_⟩
  obtain ⟨t, started⟩ := exists_started (componentRegistryFind_eq_some found).1
    (colourParameters colour) answers
  exact ⟨_, (reaches.answered metadata s idle).trans (congrArg (Option.map _) started)⟩

/-! ### A configuration -/

/-- A colour library that knows one name. -/
def turquoiseOnly : ColourLibrary where
  lower text := text.map lowerAscii
  decimalDigit code := if 48 ≤ code ∧ code ≤ 57 then some (code - 48) else none
  hexToRgb _ := none
  nameToRgb text := if text = pyStr "turquoise" then some (64, 224, 208) else none

theorem knowsDefaultColour_turquoiseOnly : KnowsDefaultColour turquoiseOnly where
  hex text red green blue known := by cases known
  name text red green blue known := by
    rw [turquoiseOnly, Option.ite_none_right_eq_some] at known
    obtain ⟨rfl, same⟩ := Prod.mk.inj (Option.some.inj known.2)
    obtain ⟨rfl, rfl⟩ := Prod.mk.inj same
    decide
  lower := by decide
  turquoise := by decide

/-- A UUID. -/
def benchUuid : UUID where
  digits := [3, 14, 12, 5, 9, 2, 6, 5, 3, 5, 8, 9, 4, 7, 9, 3, 10, 3, 8, 4, 6, 2, 6, 4, 3, 3, 8, 3, 2,
    7, 9, 5].map fun digit => ⟨digit % 16, Nat.mod_lt digit (by decide)⟩
  length := rfl

/-- The test configuration of a bench: the RGB LED in a colour of its own. -/
def benchTestFile : PyJson :=
  .dict [(pyStr "schema_version", .int 1), (pyStr "name", .str (pyStr "bench")),
    (pyStr "uuid", .str (codes benchUuid.str)), (pyStr "board_config", .str (pyStr "board")),
    (pyStr "tests", .list [.dict [(pyStr "type", .str (pyStr "rgb_led")),
      (pyStr "enabled", .bool true),
      (pyStr "parameters", .dict [(pyStr "colour", .str (pyStr "RGB(1, 20,255)"))])]])]

/-- The board configuration of the bench. -/
def benchBoardFile : PyJson :=
  .dict [(pyStr "schema_version", .int 1), (pyStr "name", .str (pyStr "Flight Computer V1")),
    (pyStr "board_id", .str (pyStr "flightcomputer-v1")), (pyStr "revision", .str (pyStr "1.7")),
    (pyStr "source", .dict [(pyStr "manufacturing_revision", .str (pyStr "1.7")),
      (pyStr "schematic_title", .str (pyStr "FC")), (pyStr "schematic_revision", .str (pyStr "1")),
      (pyStr "kicad_project", .str (pyStr "p")), (pyStr "schematic", .str (pyStr "s")),
      (pyStr "pcb", .str (pyStr "b"))]),
    (pyStr "mcu", .dict [(pyStr "reference", .str (pyStr "U1")),
      (pyStr "model", .str (pyStr "STM32F405RGT6")), (pyStr "schematic_value", .str (pyStr "v")),
      (pyStr "package", .str (pyStr "LQFP64"))]),
    (pyStr "test_capabilities", .list [.str (pyStr "rgb_led")]),
    (pyStr "components", .dict [(pyStr "rgb", .none)]), (pyStr "buses", .dict [(pyStr "b", .none)]),
    (pyStr "pins", .dict [(pyStr "p", .none)]), (pyStr "known_hardware_constraints", .list [])]

/-- The files of the bench: the path `true` is the test configuration. -/
def benchFiles : ConfigurationFiles Bool where
  load path := .ok (if path = true then benchTestFile else benchBoardFile)
  resolve _ _ := false
  pathExists _ := true
  isFile _ := true
  uuid text := if text = codes benchUuid.str then some benchUuid else none

/-- What is loaded from the files. -/
def benchConfigurations : LoadedConfigurations where
  test := ⟨pyStr "bench", benchUuid, [⟨pyStr "rgb_led", true,
    [(pyStr "colour", .str (pyStr "RGB(1, 20,255)"))]⟩]⟩
  board := ⟨pyStr "Flight Computer V1", pyStr "flightcomputer-v1", pyStr "1.7",
    ⟨pyStr "U1", pyStr "STM32F405RGT6", pyStr "v", pyStr "LQFP64"⟩, [pyStr "rgb_led"]⟩

/-- The response of a firmware with two capabilities. -/
def benchResponse : StartTestResponse where
  commandId := 1
  device := ⟨pyStr "000000010000000200000003", pyStr "STM32F405RGT6", pyStr "flightcomputer-v1",
    pyStr "Flight Computer V1", pyStr "1.7"⟩
  firmware := ⟨pyStr "0.1.0", pyStr "unknown"⟩
  capabilities := [pyStr "imu", pyStr "rgb_led"]

/-- A firmware that is idle, whose hardware answers once. -/
def benchSession : SessionState FlightComputerComponents where
  runner := ⟨none, 0⟩
  device :=
    { statusLeds := ⟨false, false⟩
      rgbLed := ⟨false, false, .colourReady, { kind := .message, name := none }, [true], []⟩
      imu := ⟨⟨false, [], []⟩, .initializing, 0, { kind := .message, name := none }, []⟩
      barometer :=
        { driver := ⟨false, ⟨none, none, 0⟩, [], [], [], []⟩
          state := .initializing
          nextSampleAt := 0
          latestEvent := { kind := .message, name := none }
          ticks := [] }
      sdCard := ⟨.initial ⟨[], [], [], []⟩, .announceInsertion, 0, 0, 0,
        { kind := .message, name := none }, [0], [false], []⟩ }
  actions := []

/-- The RGB test of the bench runs, and its start returns. -/
theorem every_dispatched_test_runs_bench :
    pyStr "rgb_led" ∈ benchResponse.capabilities ∧
      ∃ commandId type colour payload component, commandId.toNat = 0 + 2 ∧
        ReachesComponent (productionRegistry ⟨0, ⟨0, -2, -7, -3, -4, -5⟩⟩) ⟨fun _ => false, turquoiseOnly⟩
          ⟨pyStr "rgb_led", true, [(pyStr "colour", .str (pyStr "RGB(1, 20,255)"))]⟩ commandId type
          colour payload component ∧
        ∀ metadata : SessionMetadata, ∃ t,
          processLine (productionRegistry ⟨0, ⟨0, -2, -7, -3, -4, -5⟩⟩) metadata payload
              benchSession =
            some (some (testMessage "TEST_STARTED" commandId type "running"), t) := by
  have loaded : loadConfigurations benchFiles turquoiseOnly true = .ok benchConfigurations := rfl
  have passed : (validateSession benchConfigurations benchResponse).passed = true := by decide
  have answers : AnswersAtStart benchSession.device :=
    ⟨List.cons_ne_nil _ _, List.cons_ne_nil _ _, List.cons_ne_nil _ _⟩
  obtain ⟨offered, commandId, type, colour, payload, component, number, reaches, starts⟩ :=
    @every_dispatched_test_runs _ _ _ ⟨fun _ => false, turquoiseOnly⟩
      knowsDefaultColour_turquoiseOnly _ loaded _ passed ⟨0, ⟨0, -2, -7, -3, -4, -5⟩⟩ 0 _ rfl
  exact ⟨offered, commandId, type, colour, payload, component, number, reaches,
    fun metadata => starts metadata benchSession rfl answers⟩

end FlightComputer
