import FlightComputer.BoardTester.Colours
import FlightComputer.BoardTester.TestReports
import FlightComputer.Library.Excepts
import Mathlib.Data.List.Dedup

/-!
# Loading the configurations

`load_configurations` (`configuration.py`) reads the test configuration and the board
configuration that it refers to, and raises `ConfigurationError` at the first thing that is
not as it should be. What the files contain, and what `uuid.UUID` makes of a text, is given
(`ConfigurationFiles`).

What has been loaded is in order (`loadConfigurations_accepted`): every test is of a
supported type that the board can run, no type occurs twice, and only the RGB LED has a
parameter, which is a colour.
-/

set_option autoImplicit false

namespace FlightComputer.BoardTester

open Library

/-- What loading asks of files and of Python: what `json.load` returns for a path, or the
message with which the file is refused; `(path.parent / reference).resolve()`; whether a path
exists and is a file; and `uuid.UUID`, which may raise `ValueError`. -/
structure ConfigurationFiles (π : Type) where
  load : π → Except PyStr PyJson
  resolve : π → PyStr → π
  pathExists : π → Bool
  isFile : π → Bool
  uuid : PyStr → Option UUID

/-- `SUPPORTED_TEST_TYPES` -/
def supportedTestTypes : List PyStr :=
  [pyStr "status_led_red", pyStr "status_led_green", pyStr "rgb_led", pyStr "imu",
    pyStr "barometer", pyStr "sd_card"]

instance (uuid : UUID) : Decidable uuid.IsVersion4 := by
  unfold UUID.IsVersion4
  infer_instance

/-! ## Checks -/

/-- `raise ConfigurationError(...)`, unless something holds. -/
def requireThat (holds : Bool) (message : List PyStr) : Except ConfigurationError Unit :=
  if holds = true then .ok () else .error ⟨message.flatten⟩

/-- `raise ConfigurationError(...)`, where there is no value. -/
def requireSome {α : Type} (value : Option α) (message : List PyStr) :
    Except ConfigurationError α :=
  match value with
  | some value => .ok value
  | none => .error ⟨message.flatten⟩

/-- A JSON object. -/
def asObject : PyJson → Option PyDict
  | .dict members => some members
  | _ => none

/-- A string that is not blank. -/
def asText : PyJson → Option PyStr
  | .str text => if (pyStrip text).isEmpty then none else some text
  | _ => none

/-- An array of strings that are not blank. -/
def asTexts : PyJson → Option (List PyStr)
  | .list elements => elements.mapM asText
  | _ => none

section Fields

variable {π : Type} (files : ConfigurationFiles π) (path : π)

/-- `_load_json_object` -/
def loadJsonObject : Except ConfigurationError PyDict := do
  let value ← (files.load path).mapError ConfigurationError.mk
  requireSome (asObject value) [pyStr "top level must be a JSON object"]

/-- `_require_exact_keys` -/
def requireExactKeys (value : PyDict) (required : List PyStr) (location : PyStr) :
    Except ConfigurationError Unit := do
  let present := value.map Prod.fst
  let missing := required.filter fun key => !present.contains key
  requireThat missing.isEmpty
    [location, pyStr " is missing required field(s): ", joinSorted missing]
  let unknown := present.filter fun key => !required.contains key
  requireThat unknown.isEmpty [location, pyStr " contains unknown field(s): ", joinSorted unknown]

/-- `_require_string` -/
def requireConfigString (value : PyDict) (field location : PyStr) :
    Except ConfigurationError PyStr :=
  requireSome ((value.lookup field).bind asText)
    [location, pyStr ".", field, pyStr " must be a non-empty string"]

/-- `_require_object` -/
def requireConfigObject (value : PyDict) (field location : PyStr) :
    Except ConfigurationError PyDict :=
  requireSome ((value.lookup field).bind asObject)
    [location, pyStr ".", field, pyStr " must be a JSON object"]

/-- `_require_schema_version` -/
def requireSchemaVersion (value : PyDict) : Except ConfigurationError Unit :=
  match value.lookup (pyStr "schema_version") with
  | some (.int 1) => .ok ()
  | _ => .error ⟨pyStr "schema_version must be the integer 1"⟩

end Fields

/-! ## The board -/

/-- The location of the fields of a board configuration. -/
def boardConfig : PyStr := pyStr "board config"

/-- The fields of a board configuration. -/
def boardFields : List PyStr :=
  [pyStr "schema_version", pyStr "name", pyStr "board_id", pyStr "revision", pyStr "source",
    pyStr "mcu", pyStr "test_capabilities", pyStr "components", pyStr "buses", pyStr "pins",
    pyStr "known_hardware_constraints"]

/-- `source_fields` -/
def sourceFields : List PyStr :=
  [pyStr "manufacturing_revision", pyStr "schematic_title", pyStr "schematic_revision",
    pyStr "kicad_project", pyStr "schematic", pyStr "pcb"]

/-- `mcu_fields` -/
def mcuFields : List PyStr :=
  [pyStr "reference", pyStr "model", pyStr "schematic_value", pyStr "package"]

/-- The checks of the `source` object. Python goes through a set of fields in an order of its
own. -/
def checkSource (value : PyDict) (revision : PyStr) : Except ConfigurationError Unit := do
  let source ← requireConfigObject value (pyStr "source") boardConfig
  requireExactKeys source sourceFields (pyStr "source")
  sourceFields.forM fun field => do
    let _ ← requireConfigString source field (pyStr "source")
  let manufactured ← requireConfigString source (pyStr "manufacturing_revision") (pyStr "source")
  requireThat (manufactured == revision)
    [pyStr "source.manufacturing_revision must match board config.revision"]

/-- A JSON array that is not empty. -/
def asElements : PyJson → Option (List PyJson)
  | .list (element :: elements) => some (element :: elements)
  | _ => none

/-- The checks of `test_capabilities`. -/
def requireCapabilities (value : PyDict) : Except ConfigurationError (List PyStr) := do
  let elements ← requireSome ((value.lookup (pyStr "test_capabilities")).bind asElements)
    [pyStr "board config.test_capabilities must be a non-empty array"]
  let capabilities ← requireSome (elements.mapM asText)
    [pyStr "board config.test_capabilities must contain only non-empty strings"]
  let duplicates := capabilities.dedup.filter fun capability =>
    decide (1 < capabilities.count capability)
  requireThat duplicates.isEmpty
    [pyStr "board config.test_capabilities contains duplicate value(s): ", joinSorted duplicates]
  let unsupported := capabilities.dedup.filter fun capability =>
    !supportedTestTypes.contains capability
  requireThat unsupported.isEmpty
    [pyStr "board config.test_capabilities contains unsupported value(s): ",
      joinSorted unsupported]
  pure capabilities

/-- The checks of `components`, `buses` and `pins`. -/
def checkHardware (value : PyDict) : Except ConfigurationError Unit := do
  let components ← requireConfigObject value (pyStr "components") boardConfig
  let buses ← requireConfigObject value (pyStr "buses") boardConfig
  let pins ← requireConfigObject value (pyStr "pins") boardConfig
  [(pyStr "components", components), (pyStr "buses", buses), (pyStr "pins", pins)].forM
    fun collection => requireThat (!collection.2.isEmpty)
      [pyStr "board config.", collection.1, pyStr " must not be empty"]

/-- The check of `known_hardware_constraints`. -/
def checkConstraints (value : PyDict) : Except ConfigurationError Unit := do
  let _ ← requireSome ((value.lookup (pyStr "known_hardware_constraints")).bind asTexts)
    [pyStr "board config.known_hardware_constraints must be an array of non-empty strings"]

/-- The strings of the `mcu` object. -/
def readMcu (mcu : PyDict) : Except ConfigurationError McuConfiguration := do
  let reference ← requireConfigString mcu (pyStr "reference") (pyStr "mcu")
  let model ← requireConfigString mcu (pyStr "model") (pyStr "mcu")
  let schematicValue ← requireConfigString mcu (pyStr "schematic_value") (pyStr "mcu")
  let package ← requireConfigString mcu (pyStr "package") (pyStr "mcu")
  pure ⟨reference, model, schematicValue, package⟩

/-- `load_board_configuration`, once the file has been read. -/
def readBoardConfiguration (value : PyDict) : Except ConfigurationError BoardConfiguration := do
  requireExactKeys value boardFields boardConfig
  requireSchemaVersion value
  let name ← requireConfigString value (pyStr "name") boardConfig
  let boardId ← requireConfigString value (pyStr "board_id") boardConfig
  let revision ← requireConfigString value (pyStr "revision") boardConfig
  checkSource value revision
  let mcu ← requireConfigObject value (pyStr "mcu") boardConfig
  requireExactKeys mcu mcuFields (pyStr "mcu")
  let capabilities ← requireCapabilities value
  checkHardware value
  checkConstraints value
  let mcu ← readMcu mcu
  pure ⟨name, boardId, revision, mcu, capabilities⟩

/-- `load_board_configuration` -/
def loadBoardConfiguration {π : Type} (files : ConfigurationFiles π) (path : π) :
    Except ConfigurationError BoardConfiguration := do
  let value ← loadJsonObject files path
  readBoardConfiguration value

/-! ## The tests -/

/-- The location of the fields of a test configuration. -/
def testConfig : PyStr := pyStr "test config"

/-- The colour of an RGB test, whose parameters have no other key. -/
def onlyColour (parameters : PyDict) : Option PyJson :=
  if (parameters.map Prod.fst).all (· == pyStr "colour") then parameters.lookup (pyStr "colour")
  else none

/-- The checks of the `parameters` of a test. -/
def checkParameters (colours : ColourLibrary) (location testType : PyStr) (parameters : PyDict) :
    Except ConfigurationError Unit :=
  if testType = pyStr "rgb_led" then
    if parameters.isEmpty then .ok ()
    else do
      let colour ← requireSome (onlyColour parameters)
        [location, pyStr ".parameters may contain only colour"]
      let _ ← (colourToRgb colours colour).mapError fun error =>
        ⟨[location, pyStr ".parameters.colour: ", pyStr error.message].flatten⟩
  else requireThat parameters.isEmpty
    [location, pyStr ".parameters must be empty for ", testType]

/-- A JSON boolean. -/
def asBool : PyJson → Option Bool
  | .bool value => some value
  | _ => none

/-- One round of the loop over the tests, with the types of the earlier ones. -/
def loadTestDefinition (colours : ColourLibrary) (location : PyStr) (seenTypes : List PyStr)
    (definition : PyJson) : Except ConfigurationError TestDefinition := do
  let definition ← requireSome (asObject definition) [location, pyStr " must be a JSON object"]
  requireExactKeys definition [pyStr "type", pyStr "enabled", pyStr "parameters"] location
  let testType ← requireConfigString definition (pyStr "type") location
  requireThat (supportedTestTypes.contains testType)
    [location, pyStr ".type is unsupported: ", testType, pyStr "; supported types: ",
      joinSorted supportedTestTypes]
  requireThat (!seenTypes.contains testType) [location, pyStr ".type is duplicated: ", testType]
  let enabled ← requireSome ((definition.lookup (pyStr "enabled")).bind asBool)
    [location, pyStr ".enabled must be a boolean"]
  let parameters ← requireConfigObject definition (pyStr "parameters") location
  checkParameters colours location testType parameters
  pure ⟨testType, enabled, parameters⟩

/-- The loop over the tests. -/
def loadTestDefinitions (colours : ColourLibrary) :
    Nat → List PyStr → List PyJson → Except ConfigurationError (List TestDefinition)
  | _, _, [] => pure []
  | index, seenTypes, definition :: definitions => do
      let location := pyStr "tests[" ++ codes (decimalText index) ++ pyStr "]"
      let test ← loadTestDefinition colours location seenTypes definition
      let tests ← loadTestDefinitions colours (index + 1) (test.type :: seenTypes) definitions
      pure (test :: tests)

section Loading

variable {π : Type} (files : ConfigurationFiles π) (colours : ColourLibrary) (path : π)

/-- The check of `uuid`. -/
def requireUuid (value : PyDict) : Except ConfigurationError UUID := do
  let text ← requireConfigString value (pyStr "uuid") testConfig
  let uuid ← requireSome (files.uuid text) [pyStr "test config.uuid must be a valid UUID"]
  requireThat (decide (uuid.IsVersion4) && (codes uuid.str == text))
    [pyStr "test config.uuid must be a canonical lowercase UUID v4"]
  pure uuid

/-- The path of the board configuration. -/
def requireBoardPath (value : PyDict) : Except ConfigurationError π := do
  let reference ← requireConfigString value (pyStr "board_config") testConfig
  let boardPath := files.resolve path reference
  requireThat (files.pathExists boardPath)
    [pyStr "referenced board configuration does not exist: ", reference]
  requireThat (files.isFile boardPath)
    [pyStr "referenced board configuration is not a file: ", reference]
  pure boardPath

/-- `load_test_configuration`, with the path of the board configuration. -/
def loadTestConfiguration : Except ConfigurationError (TestConfiguration × π) := do
  let value ← loadJsonObject files path
  requireExactKeys value
    [pyStr "schema_version", pyStr "name", pyStr "uuid", pyStr "board_config", pyStr "tests"]
    testConfig
  requireSchemaVersion value
  let name ← requireConfigString value (pyStr "name") testConfig
  let uuid ← requireUuid files value
  let boardPath ← requireBoardPath files path value
  let tests ← requireSome ((value.lookup (pyStr "tests")).bind asElements)
    [pyStr "test config.tests must be a non-empty array"]
  let definitions ← loadTestDefinitions colours 0 [] tests
  pure (⟨name, uuid, definitions⟩, boardPath)

/-- `load_configurations` -/
def loadConfigurations : Except ConfigurationError LoadedConfigurations := do
  let loaded ← loadTestConfiguration files colours path
  let board ← loadBoardConfiguration files loaded.2
  let unsupported := (loaded.1.tests.map TestDefinition.type).filter fun testType =>
    !board.testCapabilities.contains testType
  requireThat unsupported.isEmpty
    [pyStr "test config defines type(s) not advertised by board ", board.boardId, pyStr ": ",
      (pyStr ", ").intercalate unsupported]
  pure ⟨loaded.1, board⟩

end Loading

/-! ## What has been accepted -/

/-- A test that can be dispatched: its type is supported, and only the RGB LED may have a
parameter, a colour. -/
structure TestDefinition.IsAccepted (colours : ColourLibrary) (definition : TestDefinition) :
    Prop where
  supported : definition.type ∈ supportedTestTypes
  bare : definition.type ≠ pyStr "rgb_led" → definition.parameters = []
  coloured : definition.parameters = [] ∨ ∃ colour rgb,
    definition.parameters.lookup (pyStr "colour") = some colour ∧
      colourToRgb colours colour = .ok rgb

/-- **Configurations that are in order.** -/
structure AreAccepted (colours : ColourLibrary) (configurations : LoadedConfigurations) :
    Prop where
  definitions : ∀ definition ∈ configurations.test.tests, definition.IsAccepted colours
  distinct : (configurations.test.tests.map TestDefinition.type).Nodup
  capable : ∀ definition ∈ configurations.test.tests,
    definition.type ∈ configurations.board.testCapabilities
  version4 : configurations.test.uuid.IsVersion4
  capabilities : configurations.board.testCapabilities.Nodup ∧
    ∀ capability ∈ configurations.board.testCapabilities, capability ∈ supportedTestTypes

theorem requireThat_eq_ok_iff (holds : Bool) (message : List PyStr) (result : Unit) :
    requireThat holds message = .ok result ↔ holds = true := by
  cases holds with
  | false => exact iff_of_false (fun raised => by cases raised) Bool.false_ne_true
  | true => exact iff_of_true rfl rfl

theorem requireSome_eq_ok_iff {α : Type} (value : Option α) (message : List PyStr) (result : α) :
    requireSome value message = .ok result ↔ value = some result := by
  cases value with
  | none => exact iff_of_false (fun raised => by cases raised) (Option.some_ne_none _).symm
  | some value =>
      rw [requireSome, Except.ok.injEq, Option.some.injEq]

theorem mapError_eq_ok_iff {ε ε' α : Type} (f : ε → ε') (call : Except ε α) (result : α) :
    call.mapError f = .ok result ↔ call = .ok result := by
  cases call with
  | error error =>
      exact iff_of_false (fun raised => by cases raised) (fun raised => by cases raised)
  | ok value => rw [Except.mapError, Except.ok.injEq, Except.ok.injEq]

/-- The parameters that are accepted. -/
theorem checkParameters_ok {colours : ColourLibrary} {location testType : PyStr}
    {parameters : PyDict}
    (checked : checkParameters colours location testType parameters = .ok ()) :
    (testType ≠ pyStr "rgb_led" → parameters = []) ∧
      (parameters = [] ∨ ∃ colour rgb, parameters.lookup (pyStr "colour") = some colour ∧
        colourToRgb colours colour = .ok rgb) := by
  unfold checkParameters at checked
  split_ifs at checked with isRgb empty
  · have nothing := List.isEmpty_iff.mp empty
    exact ⟨fun _ => nothing, .inl nothing⟩
  · obtain ⟨colour, found, checked⟩ := (except_bind_eq_ok_iff _ _ _).mp checked
    obtain ⟨rgb, converted, _⟩ := (except_bind_eq_ok_iff _ _ _).mp checked
    rw [requireSome_eq_ok_iff, onlyColour, Option.ite_none_right_eq_some] at found
    rw [mapError_eq_ok_iff] at converted
    exact ⟨fun other => absurd isRgb other, .inr ⟨colour, rgb, found.2, converted⟩⟩
  · have nothing := List.isEmpty_iff.mp ((requireThat_eq_ok_iff _ _ _).mp checked)
    exact ⟨fun _ => nothing, .inl nothing⟩

/-- **One test.** -/
theorem loadTestDefinition_ok {colours : ColourLibrary} {location : PyStr}
    {seenTypes : List PyStr} {value : PyJson} {test : TestDefinition}
    (loaded : loadTestDefinition colours location seenTypes value = .ok test) :
    test.IsAccepted colours ∧ test.type ∉ seenTypes := by
  unfold loadTestDefinition at loaded
  obtain ⟨definition, _, loaded⟩ := (except_bind_eq_ok_iff _ _ _).mp loaded
  obtain ⟨_, _, loaded⟩ := (except_bind_eq_ok_iff _ _ _).mp loaded
  obtain ⟨testType, _, loaded⟩ := (except_bind_eq_ok_iff _ _ _).mp loaded
  obtain ⟨_, supported, loaded⟩ := (except_bind_eq_ok_iff _ _ _).mp loaded
  obtain ⟨_, fresh, loaded⟩ := (except_bind_eq_ok_iff _ _ _).mp loaded
  obtain ⟨enabled, _, loaded⟩ := (except_bind_eq_ok_iff _ _ _).mp loaded
  obtain ⟨parameters, _, loaded⟩ := (except_bind_eq_ok_iff _ _ _).mp loaded
  obtain ⟨⟨⟩, checked, loaded⟩ := (except_bind_eq_ok_iff _ _ _).mp loaded
  obtain rfl := Except.ok.inj loaded
  rw [requireThat_eq_ok_iff] at supported fresh
  obtain ⟨bare, coloured⟩ := checkParameters_ok checked
  refine ⟨⟨List.contains_iff_mem.mp supported, bare, coloured⟩, fun seen => ?_⟩
  rw [Bool.not_eq_true', List.contains_eq_mem, decide_eq_false_iff_not] at fresh
  exact fresh seen

/-- **The tests are accepted**, and their types are new. -/
theorem loadTestDefinitions_ok {colours : ColourLibrary} {values : List PyJson} :
    ∀ {index : Nat} {seenTypes : List PyStr} {tests : List TestDefinition},
      loadTestDefinitions colours index seenTypes values = .ok tests →
        (∀ test ∈ tests, test.IsAccepted colours ∧ test.type ∉ seenTypes) ∧
          (tests.map TestDefinition.type).Nodup := by
  induction values with
  | nil =>
      intro index seenTypes tests loaded
      obtain rfl := Except.ok.inj loaded
      exact ⟨fun _ listed => absurd listed List.not_mem_nil, List.nodup_nil⟩
  | cons value values ih =>
      intro index seenTypes tests loaded
      unfold loadTestDefinitions at loaded
      obtain ⟨test, first, loaded⟩ := (except_bind_eq_ok_iff _ _ _).mp loaded
      obtain ⟨others, rest, loaded⟩ := (except_bind_eq_ok_iff _ _ _).mp loaded
      obtain rfl := Except.ok.inj loaded
      have here := loadTestDefinition_ok first
      obtain ⟨later, distinct⟩ := ih rest
      refine ⟨List.forall_mem_cons.mpr ⟨here, fun other listed => ?_⟩, ?_⟩
      · obtain ⟨accepted, unseen⟩ := later other listed
        exact ⟨accepted, fun seen => unseen (List.mem_cons_of_mem _ seen)⟩
      · rw [List.map_cons, List.nodup_cons]
        refine ⟨fun again => ?_, distinct⟩
        obtain ⟨other, listed, same⟩ := List.mem_map.mp again
        refine (later other listed).2 ?_
        rw [same]
        exact List.mem_cons_self

theorem requireUuid_ok {π : Type} {files : ConfigurationFiles π} {value : PyDict} {uuid : UUID}
    (required : requireUuid files value = .ok uuid) : uuid.IsVersion4 := by
  unfold requireUuid at required
  obtain ⟨text, _, required⟩ := (except_bind_eq_ok_iff _ _ _).mp required
  obtain ⟨found, _, required⟩ := (except_bind_eq_ok_iff _ _ _).mp required
  obtain ⟨_, canonical, required⟩ := (except_bind_eq_ok_iff _ _ _).mp required
  obtain rfl := Except.ok.inj required
  rw [requireThat_eq_ok_iff, Bool.and_eq_true] at canonical
  exact of_decide_eq_true canonical.1

theorem requireCapabilities_ok {value : PyDict} {capabilities : List PyStr}
    (required : requireCapabilities value = .ok capabilities) :
    capabilities.Nodup ∧ ∀ capability ∈ capabilities, capability ∈ supportedTestTypes := by
  unfold requireCapabilities at required
  obtain ⟨elements, _, required⟩ := (except_bind_eq_ok_iff _ _ _).mp required
  obtain ⟨texts, _, required⟩ := (except_bind_eq_ok_iff _ _ _).mp required
  obtain ⟨_, distinct, required⟩ := (except_bind_eq_ok_iff _ _ _).mp required
  obtain ⟨_, supported, required⟩ := (except_bind_eq_ok_iff _ _ _).mp required
  obtain rfl := Except.ok.inj required
  rw [requireThat_eq_ok_iff, List.isEmpty_iff, List.filter_eq_nil_iff] at distinct supported
  constructor
  · refine List.nodup_iff_count_le_one.mpr fun capability => ?_
    by_cases listed : capability ∈ texts
    · have once := distinct capability (List.mem_dedup.mpr listed)
      rw [decide_eq_true_eq] at once
      exact Nat.le_of_not_lt once
    · rw [List.count_eq_zero_of_not_mem listed]
      exact Nat.zero_le 1
  · intro capability listed
    have known := supported capability (List.mem_dedup.mpr listed)
    rw [Bool.not_eq_true', Bool.not_eq_false] at known
    exact List.contains_iff_mem.mp known

theorem readBoardConfiguration_ok {value : PyDict} {board : BoardConfiguration}
    (read : readBoardConfiguration value = .ok board) :
    requireCapabilities value = .ok board.testCapabilities := by
  unfold readBoardConfiguration at read
  obtain ⟨_, _, read⟩ := (except_bind_eq_ok_iff _ _ _).mp read
  obtain ⟨_, _, read⟩ := (except_bind_eq_ok_iff _ _ _).mp read
  obtain ⟨_, _, read⟩ := (except_bind_eq_ok_iff _ _ _).mp read
  obtain ⟨_, _, read⟩ := (except_bind_eq_ok_iff _ _ _).mp read
  obtain ⟨_, _, read⟩ := (except_bind_eq_ok_iff _ _ _).mp read
  obtain ⟨_, _, read⟩ := (except_bind_eq_ok_iff _ _ _).mp read
  obtain ⟨_, _, read⟩ := (except_bind_eq_ok_iff _ _ _).mp read
  obtain ⟨_, _, read⟩ := (except_bind_eq_ok_iff _ _ _).mp read
  obtain ⟨capabilities, required, read⟩ := (except_bind_eq_ok_iff _ _ _).mp read
  obtain ⟨_, _, read⟩ := (except_bind_eq_ok_iff _ _ _).mp read
  obtain ⟨_, _, read⟩ := (except_bind_eq_ok_iff _ _ _).mp read
  obtain ⟨_, _, read⟩ := (except_bind_eq_ok_iff _ _ _).mp read
  obtain rfl := Except.ok.inj read
  exact required

/-- **Configurations that have been loaded are in order.** -/
theorem loadConfigurations_accepted {π : Type} {files : ConfigurationFiles π}
    {colours : ColourLibrary} {path : π} {configurations : LoadedConfigurations}
    (loaded : loadConfigurations files colours path = .ok configurations) :
    AreAccepted colours configurations := by
  unfold loadConfigurations at loaded
  obtain ⟨⟨test, boardPath⟩, testLoaded, loaded⟩ := (except_bind_eq_ok_iff _ _ _).mp loaded
  obtain ⟨board, boardLoaded, loaded⟩ := (except_bind_eq_ok_iff _ _ _).mp loaded
  obtain ⟨_, capable, loaded⟩ := (except_bind_eq_ok_iff _ _ _).mp loaded
  obtain rfl := Except.ok.inj loaded
  obtain ⟨_, _, boardRead⟩ := (except_bind_eq_ok_iff _ _ _).mp boardLoaded
  unfold loadTestConfiguration at testLoaded
  obtain ⟨_, _, testLoaded⟩ := (except_bind_eq_ok_iff _ _ _).mp testLoaded
  obtain ⟨_, _, testLoaded⟩ := (except_bind_eq_ok_iff _ _ _).mp testLoaded
  obtain ⟨_, _, testLoaded⟩ := (except_bind_eq_ok_iff _ _ _).mp testLoaded
  obtain ⟨_, _, testLoaded⟩ := (except_bind_eq_ok_iff _ _ _).mp testLoaded
  obtain ⟨uuid, uuidRequired, testLoaded⟩ := (except_bind_eq_ok_iff _ _ _).mp testLoaded
  obtain ⟨_, _, testLoaded⟩ := (except_bind_eq_ok_iff _ _ _).mp testLoaded
  obtain ⟨_, _, testLoaded⟩ := (except_bind_eq_ok_iff _ _ _).mp testLoaded
  obtain ⟨definitions, looped, testLoaded⟩ := (except_bind_eq_ok_iff _ _ _).mp testLoaded
  obtain ⟨rfl, rfl⟩ := Prod.mk.inj (Except.ok.inj testLoaded)
  obtain ⟨accepted, distinct⟩ := loadTestDefinitions_ok looped
  rw [requireThat_eq_ok_iff, List.isEmpty_iff, List.filter_eq_nil_iff] at capable
  refine ⟨fun definition listed => (accepted definition listed).1, distinct,
    fun definition listed => ?_, requireUuid_ok uuidRequired,
    requireCapabilities_ok (readBoardConfiguration_ok boardRead)⟩
  have known := capable definition.type (List.mem_map_of_mem listed)
  rw [Bool.not_eq_true', Bool.not_eq_false] at known
  exact List.contains_iff_mem.mp known

end FlightComputer.BoardTester
