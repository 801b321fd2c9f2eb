import FlightComputer.BoardTester.Framing
import FlightComputer.BoardTester.SessionMessages
import FlightComputer.Library.Raising

/-!
# Configurations, session validation and test reports

What the tester knows of a test run: the loaded configurations (`configuration.py`), the
comparison of the board with the metadata of the firmware (`session_validation.py`), and
the report file (`json_report.py`).

The report file is the list of its versions: every write replaces the whole file, and a
function of `json_report.py` either writes one version or raises `ReportError` and leaves the
file as it is. Whether the operations on the file succeed is given in advance. Timestamps
and the paths of files are left out.
-/

set_option autoImplicit false

namespace FlightComputer.BoardTester

open Library Raising

/-! ## Configurations -/

/-- `TestDefinition` -/
structure TestDefinition where
  type : PyStr
  enabled : Bool
  parameters : PyDict

/-- `TestConfiguration` -/
structure TestConfiguration where
  name : PyStr
  uuid : UUID
  tests : List TestDefinition

/-- `TestConfiguration.enabled_tests` -/
def TestConfiguration.enabledTests (configuration : TestConfiguration) : List TestDefinition :=
  configuration.tests.filter TestDefinition.enabled

/-- `McuConfiguration` -/
structure McuConfiguration where
  reference : PyStr
  model : PyStr
  schematicValue : PyStr
  package : PyStr

/-- `BoardConfiguration` -/
structure BoardConfiguration where
  name : PyStr
  boardId : PyStr
  revision : PyStr
  mcu : McuConfiguration
  testCapabilities : List PyStr

/-- `LoadedConfigurations` -/
structure LoadedConfigurations where
  test : TestConfiguration
  board : BoardConfiguration

/-- `ConfigurationError`, without the path of the file. -/
structure ConfigurationError where
  message : PyStr
  deriving DecidableEq

/-! ## Session validation -/

/-- `SessionValidation` -/
structure SessionValidation where
  boardCapabilities : List PyStr
  firmwareCapabilities : List PyStr
  failures : List PyStr
  deriving DecidableEq

/-- `SessionValidation.passed` -/
def SessionValidation.passed (validation : SessionValidation) : Bool := validation.failures.isEmpty

/-- The comparison of one field. -/
def fieldFailure (field expected received : PyStr) : List PyStr :=
  if expected = received then []
  else [field ++ pyStr " mismatch: expected " ++ expected ++ pyStr ", received " ++ received]

/-- The capabilities of the board that the firmware lacks. -/
def missingCapabilities (board : BoardConfiguration) (response : StartTestResponse) : List PyStr :=
  board.testCapabilities.filter fun capability => !response.capabilities.contains capability

/-- `validate_session` -/
def validateSession (configurations : LoadedConfigurations) (response : StartTestResponse) :
    SessionValidation :=
  let board := configurations.board
  let device := response.device
  let missing := missingCapabilities board response
  { boardCapabilities := board.testCapabilities
    firmwareCapabilities := response.capabilities
    failures :=
      fieldFailure (pyStr "MCU") board.mcu.model device.mcu ++
      fieldFailure (pyStr "board ID") board.boardId device.boardId ++
      fieldFailure (pyStr "board name") board.name device.boardName ++
      fieldFailure (pyStr "board revision") board.revision device.boardRevision ++
      if missing.isEmpty then []
      else [pyStr "firmware is missing board capability/capabilities: " ++
        (pyStr ", ").intercalate missing] }

/-! ## Exceptions -/

/-- The subclasses of `UsbTransportError`. -/
inductive UsbErrorKind where
  | discovery
  | connection
  | timeout
  deriving DecidableEq

/-- A `UsbTransportError`, with its message. -/
structure UsbTransportError where
  kind : UsbErrorKind
  message : PyStr
  deriving DecidableEq

/-- A `ReportError`, by its cause. -/
inductive ReportError where
  | notCreated
  | alreadyExists
  | notUpdated
  | reservedFields (fields : List PyStr)
  deriving DecidableEq

/-- The exceptions of the tester. -/
inductive TesterError where
  | usbTransport (error : UsbTransportError)
  | protocolMessage (error : ProtocolMessageError)
  | report (error : ReportError)
  | framing (error : FramingError)
  | recursion
  | keyboardInterrupt
  | value (error : ValueError)
  | overflow
  | assertion
  deriving DecidableEq

/-- `(ProtocolMessageError, UsbTransportError)` -/
def TesterError.isExchangeError : TesterError → Bool
  | .usbTransport _ => true
  | .protocolMessage _ => true
  | _ => false

/-- `(UsbTransportError, ProtocolMessageError, ReportError)` -/
def TesterError.isHandled : TesterError → Bool
  | .report _ => true
  | error => error.isExchangeError

theorem TesterError.isHandled_of_isExchangeError {error : TesterError}
    (exchange : error.isExchangeError = true) : error.isHandled = true := by
  cases error with
  | report _ => rfl
  | _ => exact exchange

/-! ## Reports -/

/-- The `details` of a result: those of the handler, `{"failure": str(error)}`, or the text
for a cancelled test, with the error of a stop that has not been acknowledged. -/
inductive ResultDetails where
  | handler (members : PyDict)
  | failure (error : TesterError)
  | cancelled (unacknowledged : Option TesterError)

/-- The names of the fields of some details. -/
def ResultDetails.fields : ResultDetails → List PyStr
  | .handler members => members.map Prod.fst
  | .failure _ => [pyStr "failure"]
  | .cancelled _ => [pyStr "failure"]

/-- `_RESERVED_RESULT_FIELDS` -/
def reservedResultFields : List PyStr := [pyStr "type", pyStr "status", pyStr "completed_at"]

/-- An element of the `results` array. -/
structure ReportResult where
  type : PyStr
  status : PyStr
  details : ResultDetails

/-- The report, without its timestamps. -/
structure Report where
  status : PyStr
  testConfiguration : UUID × PyStr
  boardConfiguration : PyStr × PyStr × PyStr
  device : DeviceMetadata
  firmware : FirmwareMetadata
  capabilities : List PyStr
  results : List ReportResult
  sessionValidation : Option SessionValidation
  failure : Option PyStr

/-- What the creation of the file comes to. -/
inductive CreationAnswer where
  | created
  | exists
  | failed
  deriving DecidableEq

/-- The report file: what its creation and each of its updates will come to, the number of
updates so far, and the versions that have been written. -/
structure ReportFile where
  creation : CreationAnswer
  updates : Nat → Bool
  updateCalls : Nat
  versions : List Report

/-- A call that works on the report file. -/
abbrev ReportCall (α : Type) : Type := Raising TesterError ReportFile α

/-- The content of the file. -/
def ReportFile.current (file : ReportFile) : Option Report := file.versions.getLast?

/-- A version is written. -/
def ReportFile.write (report : Report) (file : ReportFile) : ReportFile :=
  { file with versions := file.versions ++ [report] }

/-- The initial content of a report. -/
def initialReport (configurations : LoadedConfigurations) (response : StartTestResponse) : Report where
  status := pyStr "in_progress"
  testConfiguration := (configurations.test.uuid, configurations.test.name)
  boardConfiguration :=
    (configurations.board.boardId, configurations.board.name, configurations.board.revision)
  device := response.device
  firmware := response.firmware
  capabilities := response.capabilities
  results := []
  sessionValidation := none
  failure := none

/-- `create_initial_report` -/
def createInitialReport (configurations : LoadedConfigurations) (response : StartTestResponse) :
    ReportCall Unit := do
  match (← get).creation with
  | .created => modify (ReportFile.write (initialReport configurations response))
  | .exists => throw (.report .alreadyExists)
  | .failed => throw (.report .notCreated)

/-- The file after a change, which may leave it as it is. -/
def ReportFile.update (change : Report → Option Report) (file : ReportFile) : ReportFile :=
  match file.current.bind change with
  | some report => file.write report
  | none => file

/-- Read the report and write what it is changed into. -/
def updateReport (change : Report → Option Report) : ReportCall Unit := do
  let file ← get
  modify fun file => { file with updateCalls := file.updateCalls + 1 }
  if file.updates file.updateCalls && file.current.isSome then modify (ReportFile.update change)
  else throw (.report .notUpdated)

/-- The report with the result of the session validation. -/
def validatedReport (validation : SessionValidation) (report : Report) : Report :=
  if validation.passed then
    { report with sessionValidation := some validation, failure := none }
  else
    { report with
      sessionValidation := some validation
      status := pyStr "failed"
      failure := some ((pyStr "; ").intercalate validation.failures) }

/-- `record_session_validation` -/
def recordSessionValidation (validation : SessionValidation) : ReportCall Unit :=
  updateReport fun report => some (validatedReport validation report)

/-- The report with one more result. -/
def Report.withResult (result : ReportResult) (report : Report) : Report :=
  { report with
    results := report.results ++ [result]
    status := if result.status ≠ pyStr "passed" then pyStr "failed" else report.status }

/-- `record_component_result` -/
def recordComponentResult (result : ReportResult) : ReportCall Unit := do
  let reserved := reservedResultFields.filter fun field => result.details.fields.contains field
  if !reserved.isEmpty then throw (.report (.reservedFields reserved))
  else updateReport fun report => some (report.withResult result)

/-- The report as passed, unless a result is not. -/
def finalizedReport (report : Report) : Option Report :=
  if report.results.any fun result => decide (result.status ≠ pyStr "passed") then none
  else some { report with status := pyStr "passed" }

/-- `finalize_component_run` -/
def finalizeComponentRun : ReportCall Unit := updateReport finalizedReport

/-! ## What the report functions do -/

/-- **Once a report has failed, it stays failed.** -/
def StaysFailed (versions : List Report) : Prop :=
  versions.Pairwise fun earlier later =>
    earlier.status = pyStr "failed" → later.status = pyStr "failed"

/-- A version that is failed if the one before it was. -/
theorem StaysFailed.write {versions : List Report} (stays : StaysFailed versions) {report : Report}
    (keeps : ∀ last, versions.getLast? = some last → last.status = pyStr "failed" →
      report.status = pyStr "failed") : StaysFailed (versions ++ [report]) := by
  refine List.pairwise_append.mpr ⟨stays, List.pairwise_singleton .., ?_⟩
  intro earlier listed later among failed
  rw [List.mem_singleton.mp among]
  obtain ⟨before, after, rfl⟩ := List.append_of_mem listed
  rcases List.eq_nil_or_concat after with rfl | ⟨middle, last, rfl⟩
  · exact keeps earlier List.getLast?_concat failed
  · rw [List.concat_eq_append, ← List.cons_append, ← List.append_assoc] at keeps
    refine keeps last List.getLast?_concat ?_
    obtain ⟨_, _, across⟩ := List.pairwise_append.mp stays
    rw [List.concat_eq_append] at stays
    obtain ⟨_, later, _⟩ := List.pairwise_append.mp stays
    exact List.rel_of_pairwise_cons later (List.mem_append_right _ List.mem_cons_self) failed

/-- The result, as far as the summary is concerned. -/
def ReportResult.summary (result : ReportResult) : PyStr × PyStr := (result.type, result.status)

/-- Whether all results are passed. -/
def AllPassed (results : List ReportResult) : Prop :=
  ∀ result ∈ results, result.status = pyStr "passed"

instance (results : List ReportResult) : Decidable (AllPassed results) :=
  inferInstanceAs (Decidable (∀ result ∈ results, _))

/-- The status of a report while tests run. -/
def Report.IsOpen (report : Report) : Prop :=
  report.status = if AllPassed report.results then pyStr "in_progress" else pyStr "failed"

theorem Report.IsOpen.withResult {report : Report} (isOpen : report.IsOpen) (result : ReportResult) :
    (report.withResult result).IsOpen := by
  have all : AllPassed (report.withResult result).results ↔
      AllPassed report.results ∧ result.status = pyStr "passed" := by
    constructor
    · intro passed
      exact ⟨fun other listed => passed other (List.mem_append_left _ listed),
        passed result (List.mem_append_right _ List.mem_cons_self)⟩
    · rintro ⟨passed, last⟩ other listed
      rcases List.mem_append.mp listed with early | late
      · exact passed other early
      · rwa [List.mem_singleton.mp late]
  show (if result.status ≠ pyStr "passed" then pyStr "failed" else report.status) =
    if AllPassed (report.withResult result).results then pyStr "in_progress" else pyStr "failed"
  by_cases last : result.status = pyStr "passed"
  · rw [if_neg (not_not.mpr last), isOpen]
    exact if_congr (by rw [all, and_iff_left last]) rfl rfl
  · rw [if_pos last]
    exact (if_neg fun passed => last (all.mp passed).2).symm

/-- A report with passed results only is finalized as passed. -/
theorem finalizedReport_eq (report : Report) :
    finalizedReport report =
      if AllPassed report.results then some { report with status := pyStr "passed" } else none := by
  have some_other : (report.results.any fun result => decide (result.status ≠ pyStr "passed")) =
      true ↔ ¬AllPassed report.results := by
    rw [List.any_eq_true, AllPassed]
    constructor
    · rintro ⟨result, listed, other⟩ passed
      exact of_decide_eq_true other (passed result listed)
    · intro failed
      obtain ⟨result, both⟩ := not_forall.mp failed
      obtain ⟨listed, other⟩ := Classical.not_imp.mp both
      exact ⟨result, listed, decide_eq_true other⟩
  rw [finalizedReport]
  by_cases passed : AllPassed report.results
  · rw [if_neg fun other => some_other.mp other passed, if_pos passed]
  · rw [if_pos (some_other.mpr passed), if_neg passed]

/-- **What an update does.** -/
theorem triple_updateReport (change : Report → Option Report) (file : ReportFile) :
    Triple (fun x => x = file) (updateReport change)
      (fun _ t => file.updates file.updateCalls = true ∧
        t = ReportFile.update change { file with updateCalls := file.updateCalls + 1 })
      (fun error t => error = .report .notUpdated ∧
        t = { file with updateCalls := file.updateCalls + 1 } ∧
        (file.current.isSome = true → file.updates file.updateCalls = false)) := by
  refine Triple.bind (M := fun read t => read = file ∧ t = file)
    (.get fun _ same => ⟨same, same⟩) fun read => ?_
  refine Triple.bind (M := fun _ t => read = file ∧
    t = { file with updateCalls := file.updateCalls + 1 }) (.change ?_) fun _ => ?_
  · rintro t ⟨rfl, rfl⟩
    exact ⟨rfl, rfl⟩
  · refine Triple.ite (fun done => .change ?_) fun undone => .throw ?_
    · rintro t ⟨rfl, rfl⟩
      exact ⟨(Bool.and_eq_true_iff.mp done).1, rfl⟩
    · rintro t ⟨rfl, rfl⟩
      refine ⟨rfl, rfl, fun present => Bool.eq_false_iff.mpr fun updated => ?_⟩
      exact undone (Bool.and_eq_true_iff.mpr ⟨updated, present⟩)

end FlightComputer.BoardTester
