import FlightComputer.BoardTester.Runner

/-!
# How a run ends

Whatever the runner calls comes to (`RunnerContract`), the body of its `with` statement ends
in one of a few ways (`BodyEnd`), and the report then tells which tests have been handled and
what they came to.
-/

set_option autoImplicit false

namespace FlightComputer.BoardTester

open Library Raising

variable {κ : Type}

/-! ## What the runner calls -/

/-- **What the calls of the runner may come to**: the states between calls, the results of
opening the connection, of START_TEST, of a handler by its test and its command id, and of
closing the connection, and the states in which an exception has been raised. -/
structure RunnerContract (κ : Type) where
  ready : κ → Prop
  opens : Except TesterError Unit → Prop
  starts : Except TesterError StartTestResponse → Prop
  ends : TestDefinition → Int → HandlerEnd → Prop
  raised : TesterError → κ → Prop
  closes : Except TesterError Unit → Prop

/-- The workflows come to nothing else. An interrupted handler leaves a state between
calls. -/
structure RunnerContract.Met (contract : RunnerContract κ) (workflows : RunnerWorkflows κ) :
    Prop where
  openConnection : Triple contract.ready workflows.openConnection
    (fun value session => contract.opens (.ok value) ∧ contract.ready session)
    fun error _ => contract.opens (.error error)
  startTest : ∀ uuid, Triple contract.ready (workflows.startTest uuid)
    (fun response session => contract.starts (.ok response) ∧ contract.ready session)
    fun error session => contract.starts (.error error) ∧ contract.raised error session
  runHandler : ∀ definition commandId, Triple contract.ready
    (workflows.runHandler definition commandId)
    (fun result session => contract.ends definition commandId (.ok result) ∧
      contract.ready session)
    fun error session => contract.ends definition commandId (.error error) ∧
      if error = .keyboardInterrupt then contract.ready session
      else contract.raised error session
  stopComponentTest : ∀ commandId testType, Triple contract.ready
    (workflows.stopComponentTest commandId testType) (fun _ => contract.ready) contract.raised
  closeConnection : ∀ first, Triple (fun session => session = first) workflows.closeConnection
    (fun value session => contract.closes (.ok value) ∧ session = first)
    fun error session => contract.closes (.error error) ∧ session = first

/-! ## Handled tests -/

/-- The status that is recorded for a handler. -/
def endStatus : HandlerEnd → PyStr
  | .ok result => result.status
  | .error error => if error = .keyboardInterrupt then pyStr "stopped" else pyStr "failed"

/-- A handled test, as far as the summary is concerned. -/
def handledSummary (item : TestDefinition × HandlerEnd) : PyStr × PyStr :=
  (item.1.type, endStatus item.2)

/-- The fields of some details can be recorded. -/
def Recordable (fields : List PyStr) : Prop := ∀ field ∈ reservedResultFields, field ∉ fields

/-- The handler has returned details that can be recorded. -/
def Returned (ended : HandlerEnd) : Prop :=
  ∃ result, ended = .ok result ∧ Recordable (result.details.map Prod.fst)

/-- The handler has returned details that cannot be recorded. -/
def Unrecordable (ended : HandlerEnd) : Prop :=
  ∃ result, ended = .ok result ∧ ¬Recordable (result.details.map Prod.fst)

/-- **The tests that have been handled** are the first ones, in order. -/
structure HandledAs (contract : RunnerContract κ) (enabled : List TestDefinition)
    (handled : List (TestDefinition × HandlerEnd)) (later : List TestDefinition) : Prop where
  order : handled.map Prod.fst ++ later = enabled
  ended : ∀ (index : Nat) (item : TestDefinition × HandlerEnd), handled[index]? = some item →
    contract.ends item.1 (2 + (index : Int)) item.2

/-- One more test has been handled. -/
theorem HandledAs.append {contract : RunnerContract κ} {enabled later : List TestDefinition}
    {handled : List (TestDefinition × HandlerEnd)} {definition : TestDefinition}
    (before : HandledAs contract enabled handled (definition :: later)) {ended : HandlerEnd}
    (last : contract.ends definition (2 + (handled.length : Int)) ended) :
    HandledAs contract enabled (handled ++ [(definition, ended)]) later := by
  refine ⟨?_, ?_⟩
  · rw [List.map_append, List.append_assoc]
    exact before.order
  · intro index item found
    rcases Nat.lt_trichotomy index handled.length with early | rfl | late
    · rw [List.getElem?_append_left early] at found
      exact before.ended index item found
    · rw [List.getElem?_concat_length] at found
      obtain rfl := Option.some.inj found
      exact last
    · rw [List.getElem?_eq_none (by rw [List.length_append, List.length_singleton]; omega)] at found
      exact absurd found.symm (Option.some_ne_none _)

/-- The report tells of the handled tests. -/
structure Reports (s : RunState κ) (report : Report) : Prop where
  current : s.file.current = some report
  results : report.results.map ReportResult.summary = s.handled.map handledSummary
  lasting : StaysFailed s.file.versions

/-- The session has been started and validated. -/
structure InSession (contract : RunnerContract κ) (configurations : LoadedConfigurations)
    (s : RunState κ) : Prop where
  reportCreated : s.reportCreated = true
  creation : s.file.creation = .created
  started : ∃ response, contract.starts (.ok response) ∧
    (validateSession configurations response).passed = true ∧
    s.validation = some (validateSession configurations response)

/-- **Between two tests.** -/
structure Between (contract : RunnerContract κ) (configurations : LoadedConfigurations)
    (later : List TestDefinition) (s : RunState κ) : Prop
    extends InSession contract configurations s where
  handledAs : HandledAs contract configurations.test.enabledTests s.handled later
  returned : ∀ item ∈ s.handled, Returned item.2
  updateCalls : s.file.updateCalls = s.handled.length + 1
  updated : ∀ call < s.file.updateCalls, s.file.updates call = true
  report : ∃ report, Reports s report ∧ report.IsOpen
  ready : contract.ready s.session

/-- **How the body of the `with` statement ends.** -/
inductive BodyEnd (contract : RunnerContract κ) (configurations : LoadedConfigurations)
    (t : RunState κ) : Except TesterError (Option Nat) → Prop where
  | notStarted {error : TesterError} (starts : contract.starts (.error error))
      (raised : contract.raised error t.session) (unwritten : t.file.versions = [])
      (reportCreated : t.reportCreated = false) : BodyEnd contract configurations t (.error error)
  | notCreated {reason : ReportError} (ready : contract.ready t.session)
      (creation : t.file.creation ≠ .created) (unwritten : t.file.versions = [])
      (reportCreated : t.reportCreated = false) :
      BodyEnd contract configurations t (.error (.report reason))
  | notUpdated {reason : ReportError} {report : Report}
      (session : contract.ready t.session ∨
        ∃ error, error.isExchangeError = true ∧ contract.raised error t.session)
      (cause : (∃ call < configurations.test.enabledTests.length + 2,
        t.file.updates call = false) ∨ ∃ index < configurations.test.enabledTests.length,
          ∃ definition ended, contract.ends definition (2 + (index : Int)) ended ∧
            Unrecordable ended)
      (reportCreated : t.reportCreated = true) (current : t.file.current = some report)
      (status : report.status ≠ pyStr "passed") :
      BodyEnd contract configurations t (.error (.report reason))
  | invalid {response : StartTestResponse} {report : Report}
      (starts : contract.starts (.ok response))
      (invalid : (validateSession configurations response).passed = false)
      (validation : t.validation = some (validateSession configurations response))
      (reportCreated : t.reportCreated = true) (handled : t.handled = [])
      (reports : Reports t report) (status : report.status = pyStr "failed")
      (ready : contract.ready t.session) : BodyEnd contract configurations t (.ok none)
  | finished {report : Report} (session : InSession contract configurations t)
      (handledAs : HandledAs contract configurations.test.enabledTests t.handled [])
      (returned : ∀ item ∈ t.handled, Returned item.2)
      (updated : ∀ call < configurations.test.enabledTests.length + 2, t.file.updates call = true)
      (reports : Reports t report)
      (status : report.status =
        if AllPassed report.results then pyStr "passed" else pyStr "failed")
      (completed : t.componentRunCompleted = true) (ready : contract.ready t.session) :
      BodyEnd contract configurations t (.ok none)
  | cancelled {report : Report} {later : List TestDefinition}
      (session : InSession contract configurations t)
      (handledAs : HandledAs contract configurations.test.enabledTests t.handled later)
      (last : ∃ item ∈ t.handled, item.2 = .error .keyboardInterrupt)
      (reports : Reports t report) (status : report.status = pyStr "failed")
      (stopped : contract.ready t.session ∨
        ∃ error, error.isExchangeError = true ∧ contract.raised error t.session) :
      BodyEnd contract configurations t (.ok (some 130))
  | failed {report : Report} {later : List TestDefinition} {error : TesterError}
      (session : InSession contract configurations t)
      (handledAs : HandledAs contract configurations.test.enabledTests t.handled later)
      (last : ∃ item ∈ t.handled, item.2 = .error error) (exchange : error.isExchangeError = true)
      (reports : Reports t report) (status : report.status = pyStr "failed")
      (raised : contract.raised error t.session) : BodyEnd contract configurations t (.error error)
  | escaped {report : Report} {error : TesterError}
      (last : ∃ item ∈ t.handled, ∃ error, item.2 = .error error)
      (other : error.isExchangeError = false) (reportCreated : t.reportCreated = true)
      (current : t.file.current = some report) (status : report.status ≠ pyStr "passed")
      (raised : contract.raised error t.session) : BodyEnd contract configurations t (.error error)

/-! ## The parts of a run -/

section Parts

variable {contract : RunnerContract κ} {workflows : RunnerWorkflows κ}

/-- **A call of a workflow** changes the session only. -/
theorem triple_onSession {α : Type} {call : Raising TesterError κ α} {after : α → κ → Prop}
    {raised : TesterError → κ → Prop} (triple : Triple contract.ready call after raised)
    (s : RunState κ) (ready : contract.ready s.session) :
    Triple (fun x => x = s) (onSession call)
      (fun value t => ∃ session, t = { s with session := session } ∧ after value session)
      (fun error t => ∃ session, t = { s with session := session } ∧ raised error session) := by
  refine Triple.within triple ?_ ?_ ?_
  · rintro _ rfl
    exact ready
  · rintro _ session value rfl holds
    exact ⟨session, rfl, holds⟩
  · rintro _ session error rfl holds
    exact ⟨session, rfl, holds⟩

/-- The state after an update of the report. -/
def RunState.updated (change : Report → Option Report) (s : RunState κ) : RunState κ :=
  { s with file := { s.file with updateCalls := s.file.updateCalls + 1 }.update change }

/-- The state after an update that has failed. -/
def RunState.notUpdated (s : RunState κ) : RunState κ :=
  { s with file := { s.file with updateCalls := s.file.updateCalls + 1 } }

/-- An update of the report, as the runner makes it. -/
theorem triple_onFile_update (change : Report → Option Report) (s : RunState κ) :
    Triple (fun x => x = s) (onFile (updateReport change))
      (fun _ t => s.file.updates s.file.updateCalls = true ∧ t = s.updated change)
      (fun error t => error = .report .notUpdated ∧ t = s.notUpdated ∧
        (s.file.current.isSome = true → s.file.updates s.file.updateCalls = false)) := by
  refine Triple.within (triple_updateReport change s.file) ?_ ?_ ?_
  · rintro _ rfl
    rfl
  · rintro _ file value rfl ⟨updated, rfl⟩
    exact ⟨updated, rfl⟩
  · rintro _ file error rfl ⟨same, rfl, cause⟩
    exact ⟨same, rfl, cause⟩

/-- The state after an outcome has been remembered. -/
def RunState.remembered (s : RunState κ) (definition : TestDefinition) (status : PyStr) :
    RunState κ :=
  { s with outcomes := s.outcomes ++ [⟨definition.type, status⟩] }

/-- Why an outcome could not be recorded, and what has changed nevertheless. -/
structure NotRecorded (s t : RunState κ) (details : ResultDetails) : Prop where
  unchanged : ∃ outcomes calls, t =
    { s with outcomes := outcomes, file := { s.file with updateCalls := calls } }
  cause : s.file.updates s.file.updateCalls = false ∨ ¬Recordable details.fields

/-- **An outcome is recorded**, unless the report cannot be updated. -/
theorem triple_recordOutcome (definition : TestDefinition) (status : PyStr)
    (details : ResultDetails) {s : RunState κ} (written : s.file.current.isSome = true) :
    Triple (fun x => x = s) (recordOutcome definition status details)
      (fun _ t => s.file.updates s.file.updateCalls = true ∧ Recordable details.fields ∧
        t = (s.remembered definition status).updated fun report =>
          some (report.withResult ⟨definition.type, status, details⟩))
      (fun error t => (∃ reason, error = .report reason) ∧ NotRecorded s t details) := by
  refine Triple.bind (M := fun _ t => t = s.remembered definition status) (.change ?_) fun _ => ?_
  · rintro _ rfl
    rfl
  by_cases reserved : (reservedResultFields.filter fun field => details.fields.contains field) = []
  · have plain : recordComponentResult ⟨definition.type, status, details⟩ =
        updateReport fun report =>
          some (report.withResult ⟨definition.type, status, details⟩) := by
      rw [recordComponentResult, reserved]
      rfl
    rw [plain]
    refine (triple_onFile_update _ (s.remembered definition status)).mono (fun _ same => same)
      ?_ ?_
    · rintro _ t ⟨updated, rfl⟩
      refine ⟨updated, ?_, rfl⟩
      intro field among listed
      exact List.filter_eq_nil_iff.mp reserved field among (List.contains_iff_mem.mpr listed)
    · rintro _ t ⟨rfl, rfl, cause⟩
      exact ⟨⟨_, rfl⟩, ⟨_, _, rfl⟩, .inl (cause written)⟩
  · have refused : recordComponentResult ⟨definition.type, status, details⟩ =
        throw (.report (.reservedFields
          (reservedResultFields.filter fun field => details.fields.contains field))) := by
      rw [recordComponentResult, if_pos]
      rw [Bool.not_eq_true', List.isEmpty_eq_false_iff]
      exact reserved
    rw [refused]
    have none : Triple (fun x => x = s.file) (throw (.report (.reservedFields
        (reservedResultFields.filter fun field => details.fields.contains field))) : ReportCall Unit)
        (fun _ _ => False) (fun error t => (∃ reason, error = .report reason) ∧ t = s.file) :=
      .throw fun _ same => ⟨⟨_, rfl⟩, same⟩
    refine Triple.within none ?_ (fun _ _ _ _ never => never.elim) ?_
    · rintro _ rfl
      rfl
    · rintro _ _ error rfl ⟨reason, rfl⟩
      obtain ⟨field, listed⟩ := List.exists_mem_of_ne_nil _ reserved
      obtain ⟨among, contained⟩ := List.mem_filter.mp listed
      exact ⟨reason, ⟨_, s.file.updateCalls, rfl⟩,
        .inr fun recordable => recordable field among (List.contains_iff_mem.mp contained)⟩

/-- The state after a handler has run. -/
def RunState.handling (s : RunState κ) (session : κ) (item : TestDefinition × HandlerEnd) :
    RunState κ :=
  { s with session := session, handled := s.handled ++ [item] }

/-- What a handler has come to, and what it has left. -/
structure Handled (contract : RunnerContract κ) (s : RunState κ) (definition : TestDefinition)
    (commandId : Int) (ended : HandlerEnd) (session : κ) : Prop where
  ends : contract.ends definition commandId ended
  returned : ∀ result, ended = .ok result → contract.ready session
  raised : ∀ error, ended = .error error → error ≠ .keyboardInterrupt →
    contract.raised error session
  interrupted : ended = .error .keyboardInterrupt → contract.ready session

theorem triple_handle (met : contract.Met workflows) (definition : TestDefinition)
    (commandId : Int) {s : RunState κ} (ready : contract.ready s.session) :
    Triple (fun x => x = s) (handle workflows definition commandId)
      (fun ended t => ∃ session, t = s.handling session (definition, ended) ∧
        Handled contract s definition commandId ended session)
      (fun _ _ => False) := by
  refine Triple.bind (M := fun ended t => ∃ session, t = { s with session := session } ∧
      Handled contract s definition commandId ended session)
    ((Triple.attempt (triple_onSession (met.runHandler definition commandId) s ready)).mono
      (fun _ same => same) ?_ fun _ _ never => never) fun ended => ?_
  · intro ended t outcome
    cases ended with
    | ok result =>
        obtain ⟨session, same, ends, kept⟩ := outcome
        refine ⟨session, same, ends, fun _ _ => kept, ?_, ?_⟩
        · rintro _ ⟨⟩
        · rintro ⟨⟩
    | error error =>
        obtain ⟨session, same, ends, left⟩ := outcome
        refine ⟨session, same, ends, ?_, ?_, ?_⟩
        · rintro _ ⟨⟩
        · intro _ same other
          obtain rfl := Except.error.inj same
          rwa [if_neg other] at left
        · intro same
          rwa [if_pos (Except.error.inj same)] at left
  · refine Triple.bind (M := fun _ t => ∃ session, t = s.handling session (definition, ended) ∧
      Handled contract s definition commandId ended session) (.change ?_)
      fun _ => .pure fun _ holds => holds
    rintro _ ⟨session, rfl, holds⟩
    exact ⟨session, rfl, holds⟩

variable {configurations : LoadedConfigurations} {later : List TestDefinition}
  {definition : TestDefinition} {s : RunState κ}

/-- **The report, once the outcome of a handler has been recorded.** -/
theorem Between.reports_recorded
    (before : Between contract configurations (definition :: later) s) (ended : HandlerEnd)
    (session : κ) (details : ResultDetails) :
    ∃ report, Reports (((s.handling session (definition, ended)).remembered definition
        (endStatus ended)).updated fun report =>
          some (report.withResult ⟨definition.type, endStatus ended, details⟩)) report ∧
      report.IsOpen ∧ ∃ result ∈ report.results, result.status = endStatus ended := by
  obtain ⟨report, ⟨current, results, lasting⟩, isOpen⟩ := before.report
  have written : ReportFile.update
      (fun report => some (report.withResult ⟨definition.type, endStatus ended, details⟩))
      { s.file with updateCalls := s.file.updateCalls + 1 } =
      ReportFile.write (report.withResult ⟨definition.type, endStatus ended, details⟩)
        { s.file with updateCalls := s.file.updateCalls + 1 } := by
    rw [ReportFile.update]
    have same : ReportFile.current { s.file with updateCalls := s.file.updateCalls + 1 } =
      some report := current
    rw [same]
    rfl
  refine ⟨report.withResult ⟨definition.type, endStatus ended, details⟩, ⟨?_, ?_, ?_⟩,
    isOpen.withResult _, ⟨definition.type, endStatus ended, details⟩,
    List.mem_append_right _ List.mem_cons_self, rfl⟩
  · exact (congrArg ReportFile.current written).trans List.getLast?_concat
  · show List.map _ (report.results ++ _) = List.map _ (s.handled ++ _)
    rw [List.map_append, List.map_append, results]
    rfl
  · refine (congrArg (StaysFailed ∘ ReportFile.versions) written).mpr (lasting.write ?_)
    intro last isLast failed
    obtain rfl := Option.some.inj (current.symm.trans isLast)
    show (if _ then _ else report.status) = _
    split_ifs
    · rfl
    · exact failed

/-- An open report has not passed. -/
theorem Report.IsOpen.ne_passed {report : Report} (isOpen : report.IsOpen) :
    report.status ≠ pyStr "passed" := by
  rw [isOpen]
  split_ifs
  · decide
  · decide

/-- An open report with a result that is not passed has failed. -/
theorem Report.IsOpen.failed {report : Report} (isOpen : report.IsOpen) {status : PyStr}
    (result : ∃ result ∈ report.results, result.status = status) (other : status ≠ pyStr "passed") :
    report.status = pyStr "failed" := by
  obtain ⟨result, listed, rfl⟩ := result
  exact isOpen.trans (if_neg fun passed => other (passed result listed))

/-- **The state once the outcome of a handler has been recorded.** -/
structure Recorded (contract : RunnerContract κ) (configurations : LoadedConfigurations)
    (later : List TestDefinition) (before : RunState κ) (item : TestDefinition × HandlerEnd)
    (session : κ) (t : RunState κ) : Prop extends InSession contract configurations t where
  handledAs : HandledAs contract configurations.test.enabledTests t.handled later
  handled : t.handled = before.handled ++ [item]
  updateCalls : t.file.updateCalls = t.handled.length + 1
  updated : ∀ call < t.file.updateCalls, t.file.updates call = true
  report : ∃ report, Reports t report ∧ report.IsOpen ∧
    ∃ result ∈ report.results, result.status = endStatus item.2
  session : t.session = session

/-- An update keeps what the file will answer. -/
theorem ReportFile.update_answers (change : Report → Option Report) (file : ReportFile) :
    (file.update change).creation = file.creation ∧ (file.update change).updates = file.updates ∧
      (file.update change).updateCalls = file.updateCalls := by
  rw [ReportFile.update]
  cases file.current.bind change with
  | none => exact ⟨rfl, rfl, rfl⟩
  | some report => exact ⟨rfl, rfl, rfl⟩

/-- **The outcome of a handler is recorded**, unless the report cannot be updated. -/
theorem triple_recordHandled (before : Between contract configurations (definition :: later) s)
    {ended : HandlerEnd} {session : κ} {details : ResultDetails}
    (ends : contract.ends definition (2 + (s.handled.length : Int)) ended)
    (kept : contract.ready session ∨
      ∃ error, error.isExchangeError = true ∧ contract.raised error session)
    (fields : Recordable details.fields ∨ ∃ result, ended = .ok result ∧
      details = .handler result.details) :
    Triple (fun x => x = s.handling session (definition, ended))
      (recordOutcome definition (endStatus ended) details)
      (fun _ t => Recorded contract configurations later s (definition, ended) session t ∧
        Recordable details.fields)
      (fun error t => BodyEnd contract configurations t (.error error)) := by
  have handledAs := before.handledAs.append ends
  have below : s.handled.length < configurations.test.enabledTests.length := by
    rw [← before.handledAs.order, List.length_append, List.length_map, List.length_cons]
    omega
  obtain ⟨report, reports, isOpen⟩ := before.report
  have written : (s.handling session (definition, ended)).file.current.isSome = true := by
    show s.file.current.isSome = true
    rw [reports.current]
    rfl
  refine (triple_recordOutcome definition (endStatus ended) details written).mono
    (fun _ same => same) ?_ ?_
  · rintro _ t ⟨updated, recordable, rfl⟩
    obtain ⟨creation, updates, calls⟩ := ReportFile.update_answers
      (fun report => some (report.withResult ⟨definition.type, endStatus ended, details⟩))
      { s.file with updateCalls := s.file.updateCalls + 1 }
    refine ⟨⟨⟨before.reportCreated, creation.trans before.creation, before.started⟩, handledAs, rfl,
      ?_, ?_, before.reports_recorded ended session details, rfl⟩, recordable⟩
    · refine calls.trans ?_
      show s.file.updateCalls + 1 = (s.handled ++ [(definition, ended)]).length + 1
      rw [before.updateCalls, List.length_append, List.length_singleton]
    · intro call early
      have early' : call < s.file.updateCalls + 1 := Nat.lt_of_lt_of_eq early calls
      refine (congrFun updates call).trans ?_
      rcases Nat.lt_succ_iff_lt_or_eq.mp early' with earlier | rfl
      · exact before.updated call earlier
      · exact updated
  · rintro _ t ⟨⟨reason, rfl⟩, ⟨outcomes, calls, rfl⟩, cause⟩
    refine .notUpdated kept ?_ before.reportCreated reports.current isOpen.ne_passed
    rcases cause with refused | reserved
    · refine .inl ⟨s.file.updateCalls, ?_, refused⟩
      rw [before.updateCalls]
      omega
    · obtain ⟨result, returned, rfl⟩ := fields.resolve_left reserved
      exact .inr ⟨s.handled.length, below, definition, ended, ends, result, returned, reserved⟩

/-- The details of an exception can be recorded. -/
theorem recordable_failure : Recordable [pyStr "failure"] := by
  intro field reserved listed
  obtain rfl := List.mem_singleton.mp listed
  exact absurd reserved (by decide)

/-- **The branch for a `KeyboardInterrupt`.** -/
theorem triple_cancelTest (met : contract.Met workflows)
    (before : Between contract configurations (definition :: later) s) {session : κ}
    (ends : contract.ends definition (2 + (s.handled.length : Int)) (.error .keyboardInterrupt))
    (ready : contract.ready session) :
    Triple (fun x => x = s.handling session (definition, .error .keyboardInterrupt))
      (cancelTest workflows definition (2 + (s.handled.length : Int)))
      (fun code t => ∃ exit, code = some exit ∧
        BodyEnd contract configurations t (.ok (some exit)))
      (fun error t => BodyEnd contract configurations t (.error error)) := by
  have item : ∀ session, ∃ item ∈ (s.handling session (definition,
      Except.error TesterError.keyboardInterrupt)).handled,
      item.2 = .error .keyboardInterrupt := fun _ =>
    ⟨_, List.mem_append_right _ List.mem_cons_self, rfl⟩
  obtain ⟨report, reports, isOpen⟩ := before.report
  have stop : Triple (fun x => x = s.handling session (definition, .error .keyboardInterrupt))
      (attempt (onSession (workflows.stopComponentTest (2 + (s.handled.length : Int) + 1000)
        definition.type)))
      (fun stopped t => ∃ session, t = s.handling session (definition, .error .keyboardInterrupt) ∧
        ((∃ value, stopped = .ok value ∧ contract.ready session) ∨
          ∃ error, stopped = .error error ∧ contract.raised error session))
      (fun error t => BodyEnd contract configurations t (.error error)) := by
    refine (Triple.attempt (triple_onSession (met.stopComponentTest _ _) _ ready)).mono
      (fun _ same => same) ?_ fun _ _ never => never.elim
    intro stopped t outcome
    cases stopped with
    | ok value =>
        obtain ⟨session, rfl, kept⟩ := outcome
        exact ⟨session, rfl, .inl ⟨value, rfl, kept⟩⟩
    | error error =>
        obtain ⟨session, rfl, raised⟩ := outcome
        exact ⟨session, rfl, .inr ⟨error, rfl, raised⟩⟩
  refine Triple.bind stop fun stopped => ?_
  refine Triple.bind (M := fun _ t => ∃ session,
    t = s.handling session (definition, .error .keyboardInterrupt) ∧ (contract.ready session ∨
      ∃ error, error.isExchangeError = true ∧ contract.raised error session)) ?_
    fun unacknowledged => ?_
  · cases stopped with
    | ok value =>
        refine .pure ?_
        rintro t ⟨session, rfl, ⟨_, _, kept⟩ | ⟨_, other, _⟩⟩
        · exact ⟨session, rfl, .inl kept⟩
        · cases other
    | error error =>
        refine Triple.ite (fun exchange => .pure ?_) fun other => .throw ?_
        · rintro t ⟨session, rfl, ⟨_, other, _⟩ | ⟨_, same, raised⟩⟩
          · cases other
          · obtain rfl := Except.error.inj same
            exact ⟨session, rfl, .inr ⟨_, exchange, raised⟩⟩
        · rintro t ⟨session, rfl, ⟨_, other, _⟩ | ⟨_, same, raised⟩⟩
          · cases other
          · obtain rfl := Except.error.inj same
            obtain ⟨_, among, ended⟩ := item session
            exact .escaped ⟨_, among, _, ended⟩ (Bool.eq_false_iff.mpr other)
              before.reportCreated reports.current isOpen.ne_passed raised
  · refine Triple.of_state ?_
    rintro _ ⟨session, rfl, kept⟩
    refine Triple.bind (triple_recordHandled before ends kept (.inl recordable_failure)) fun _ => ?_
    refine Triple.bind (M := fun _ => Recorded contract configurations later s
      (definition, .error .keyboardInterrupt) session) (.change ?_) fun _ => .pure ?_
    · rintro t ⟨⟨session', handledAs, handled, calls, updated, report, same⟩, _⟩
      obtain ⟨report, ⟨current, results, lasting⟩, rest⟩ := report
      exact ⟨⟨session'.reportCreated, session'.creation, session'.started⟩, handledAs, handled,
        calls, updated, ⟨report, ⟨current, results, lasting⟩, rest⟩, same⟩
    · rintro t ⟨session', handledAs, handled, _, _, ⟨report, reports, isOpen, result⟩, rfl⟩
      refine ⟨130, rfl, .cancelled session' handledAs ?_ reports
        (isOpen.failed result (by decide : pyStr "stopped" ≠ pyStr "passed")) kept⟩
      rw [handled]
      exact item t.session

/-- **One test.** -/
theorem triple_runComponent (met : contract.Met workflows)
    (before : Between contract configurations (definition :: later) s) :
    Triple (fun x => x = s)
      (runComponent workflows definition (2 + (s.handled.length : Int)))
      (fun code t => (code = none ∧ Between contract configurations later t ∧
          t.handled.length = s.handled.length + 1) ∨
        ∃ exit, code = some exit ∧ BodyEnd contract configurations t (.ok (some exit)))
      (fun error t => BodyEnd contract configurations t (.error error)) := by
  refine Triple.bind ((triple_handle met definition _ before.ready).mono (fun _ same => same)
    (fun _ _ holds => holds) fun _ _ never => never.elim) fun ended => Triple.of_state ?_
  rintro _ ⟨session, rfl, ends, returned, raised, interrupted⟩
  cases ended with
  | ok result =>
      refine Triple.bind (triple_recordHandled before ends (.inl (returned result rfl))
        (.inr ⟨result, rfl, rfl⟩)) fun _ => .pure ?_
      · rintro t ⟨⟨session', handledAs, handled, calls, updated, ⟨report, reports, isOpen, _⟩,
          rfl⟩, recordable⟩
        refine .inl ⟨rfl, ⟨session', handledAs, ?_, calls, updated, ⟨report, reports, isOpen⟩,
          returned result rfl⟩, ?_⟩
        · rw [handled]
          intro item listed
          rcases List.mem_append.mp listed with early | late
          · exact before.returned item early
          · rw [List.mem_singleton.mp late]
            exact ⟨result, rfl, recordable⟩
        · rw [handled, List.length_append, List.length_singleton]
  | error error =>
      have item : ∃ item ∈ (s.handling session (definition, Except.error error)).handled,
          item.2 = .error error := ⟨_, List.mem_append_right _ List.mem_cons_self, rfl⟩
      refine Triple.ite (fun exchange => ?_) fun other => Triple.ite (fun cancelled => ?_)
        fun unknown => .throw ?_
      · have other : error ≠ .keyboardInterrupt := by
          rintro rfl
          cases exchange
        have raised := raised error rfl other
        have status : endStatus (.error error) = pyStr "failed" := if_neg other
        have recorded : Triple _ (recordOutcome definition (endStatus (.error error))
            (.failure error)) _ _ :=
          triple_recordHandled before ends (.inr ⟨error, exchange, raised⟩)
            (.inl recordable_failure)
        rw [status] at recorded
        refine Triple.bind recorded fun _ => .throw ?_
        rintro t ⟨⟨session', handledAs, handled, _, _, ⟨report, reports, isOpen, result⟩, rfl⟩, _⟩
        refine .failed session' handledAs ?_ exchange reports
          (isOpen.failed result (status ▸ by decide)) raised
        rw [handled]
        exact item
      · subst cancelled
        exact (triple_cancelTest met before ends (interrupted rfl)).mono (fun _ same => same)
          (fun _ _ holds => .inr holds) fun _ _ holds => holds
      · rintro _ rfl
        obtain ⟨report, reports, isOpen⟩ := before.report
        obtain ⟨_, among, ended⟩ := item
        exact .escaped ⟨_, among, _, ended⟩ (Bool.eq_false_iff.mpr other) before.reportCreated
          reports.current isOpen.ne_passed (raised error rfl unknown)

/-- **The loop over the enabled tests.** -/
theorem triple_runComponents (met : contract.Met workflows)
    {definitions : List TestDefinition} {s : RunState κ}
    (before : Between contract configurations definitions s) :
    Triple (fun x => x = s)
      (runComponents workflows (2 + (s.handled.length : Int)) definitions)
      (fun code t => (code = none ∧ Between contract configurations [] t) ∨
        ∃ exit, code = some exit ∧ BodyEnd contract configurations t (.ok (some exit)))
      (fun error t => BodyEnd contract configurations t (.error error)) := by
  induction definitions generalizing s with
  | nil =>
      refine .pure ?_
      rintro _ rfl
      exact .inl ⟨rfl, before⟩
  | cons definition later ih =>
      refine Triple.bind (triple_runComponent met before) fun code => ?_
      cases code with
      | some code =>
          refine .pure ?_
          rintro t (⟨other, _⟩ | ⟨exit, same, ended⟩)
          · cases other
          · exact .inr ⟨exit, same, ended⟩
      | none =>
          refine Triple.of_state ?_
          rintro t (⟨_, next, length⟩ | ⟨_, other, _⟩)
          · have counted : (2 + (s.handled.length : Int)) + 1 = 2 + (t.handled.length : Int) := by
              rw [length]
              omega
            rw [counted]
            exact ih next
          · cases other

/-- The report once the run is finalized. -/
theorem Between.reports_finalized (before : Between contract configurations [] s) :
    ∃ report, Reports (s.updated finalizedReport) report ∧
      report.status = if AllPassed report.results then pyStr "passed" else pyStr "failed" := by
  obtain ⟨report, ⟨current, results, lasting⟩, isOpen⟩ := before.report
  have current' : ReportFile.current { s.file with updateCalls := s.file.updateCalls + 1 } =
    some report := current
  by_cases passed : AllPassed report.results
  · have written : ReportFile.update finalizedReport
        { s.file with updateCalls := s.file.updateCalls + 1 } =
        ReportFile.write { report with status := pyStr "passed" }
          { s.file with updateCalls := s.file.updateCalls + 1 } := by
      rw [ReportFile.update, current', Option.bind_some, finalizedReport_eq, if_pos passed]
    refine ⟨{ report with status := pyStr "passed" }, ⟨?_, results, ?_⟩, (if_pos passed).symm⟩
    · exact (congrArg ReportFile.current written).trans List.getLast?_concat
    · refine (congrArg (StaysFailed ∘ ReportFile.versions) written).mpr (lasting.write ?_)
      intro last isLast failed
      obtain rfl := Option.some.inj (current.symm.trans isLast)
      rw [isOpen, if_pos passed] at failed
      exact absurd failed (by decide)
  · have kept : ReportFile.update finalizedReport
        { s.file with updateCalls := s.file.updateCalls + 1 } =
        { s.file with updateCalls := s.file.updateCalls + 1 } := by
      rw [ReportFile.update, current', Option.bind_some, finalizedReport_eq, if_neg passed]
    refine ⟨report, ⟨?_, results, ?_⟩, ?_⟩
    · exact (congrArg ReportFile.current kept).trans current
    · exact (congrArg (StaysFailed ∘ ReportFile.versions) kept).mpr lasting
    · rw [if_neg passed, isOpen, if_neg passed]

/-- **The tests of a validated session.** -/
theorem triple_runSession (met : contract.Met workflows)
    (before : Between contract configurations configurations.test.enabledTests s)
    (first : s.handled = []) :
    Triple (fun x => x = s) (runSession workflows configurations)
      (fun code t => BodyEnd contract configurations t (.ok code))
      (fun error t => BodyEnd contract configurations t (.error error)) := by
  have loop := triple_runComponents met before
  rw [first] at loop
  refine Triple.bind loop fun code => ?_
  cases code with
  | some code =>
      refine .pure ?_
      rintro t (⟨other, _⟩ | ⟨exit, same, ended⟩)
      · cases other
      · obtain rfl := Option.some.inj same
        exact ended
  | none =>
      refine Triple.of_state ?_
      rintro t (⟨_, last⟩ | ⟨_, other, _⟩)
      · have length : t.handled.length = configurations.test.enabledTests.length := by
          rw [← last.handledAs.order, List.append_nil, List.length_map]
        obtain ⟨report, reports, isOpen⟩ := last.report
        have written : t.file.current.isSome = true := by
          rw [reports.current]
          rfl
        refine Triple.bind ((triple_onFile_update _ t).mono (fun _ same => same)
          (fun _ _ holds => holds) ?_) fun _ => ?_
        · rintro _ t ⟨rfl, rfl, cause⟩
          exact .notUpdated (.inl last.ready)
            (.inl ⟨_, by rw [last.updateCalls, length]; omega, cause written⟩)
            last.reportCreated reports.current isOpen.ne_passed
        · refine Triple.bind (M := fun _ t => BodyEnd contract configurations t (.ok none))
            (.change ?_) fun _ => .pure fun _ holds => holds
          rintro _ ⟨updated, rfl⟩
          obtain ⟨report, reports, status⟩ := last.reports_finalized
          obtain ⟨creation, updates, _⟩ := ReportFile.update_answers finalizedReport
            { t.file with updateCalls := t.file.updateCalls + 1 }
          refine .finished ⟨last.reportCreated, creation.trans last.creation, last.started⟩
            last.handledAs last.returned ?_
            ⟨reports.current, reports.results, reports.lasting⟩ status rfl last.ready
          intro call early
          refine (congrFun updates call).trans ?_
          rcases Nat.lt_succ_iff_lt_or_eq.mp early with earlier | rfl
          · refine last.updated call ?_
            rw [last.updateCalls, length]
            exact earlier
          · rwa [last.updateCalls, length] at updated
      · cases other

/-- The state when the body of the `with` statement begins. -/
structure Opened (contract : RunnerContract κ) (s : RunState κ) : Prop where
  ready : contract.ready s.session
  unwritten : s.file.versions = []
  updateCalls : s.file.updateCalls = 0
  reportCreated : s.reportCreated = false
  handled : s.handled = []

/-- **The report is created**, if that succeeds. -/
theorem triple_createInitialReport (response : StartTestResponse) (file : ReportFile) :
    Triple (fun x => x = file) (createInitialReport configurations response)
      (fun _ t => file.creation = .created ∧
        t = file.write (initialReport configurations response))
      (fun error t => (∃ reason, error = .report reason) ∧ t = file ∧
        file.creation ≠ .created) := by
  refine Triple.bind (M := fun seen t => seen = file ∧ t = file)
    (.get fun _ same => ⟨same, same⟩) fun seen => ?_
  cases created : seen.creation with
  | created =>
      refine .change ?_
      rintro _ ⟨rfl, rfl⟩
      exact ⟨created, rfl⟩
  | «exists» =>
      refine .throw ?_
      rintro _ ⟨rfl, rfl⟩
      exact ⟨⟨_, rfl⟩, rfl, created ▸ CreationAnswer.noConfusion⟩
  | failed =>
      refine .throw ?_
      rintro _ ⟨rfl, rfl⟩
      exact ⟨⟨_, rfl⟩, rfl, created ▸ CreationAnswer.noConfusion⟩

/-- The state once the report has been created and the session has been validated. -/
def RunState.begun (s : RunState κ) (configurations : LoadedConfigurations)
    (response : StartTestResponse) (session : κ) : RunState κ :=
  { s with
    session := session
    file := s.file.write (initialReport configurations response)
    reportCreated := true
    validation := some (validateSession configurations response) }

/-- The report once the session validation has been recorded. -/
theorem Opened.reports_validated (opened : Opened contract s) (response : StartTestResponse)
    (session : κ) :
    Reports ((s.begun configurations response session).updated fun report =>
        some (validatedReport (validateSession configurations response) report))
      (validatedReport (validateSession configurations response)
        (initialReport configurations response)) := by
  have written : ReportFile.update
      (fun report => some (validatedReport (validateSession configurations response) report))
      { s.file.write (initialReport configurations response) with
        updateCalls := s.file.updateCalls + 1 } =
      ReportFile.write (validatedReport (validateSession configurations response)
        (initialReport configurations response))
        { s.file.write (initialReport configurations response) with
          updateCalls := s.file.updateCalls + 1 } := by
    have current : ReportFile.current { s.file.write (initialReport configurations response) with
        updateCalls := s.file.updateCalls + 1 } = some (initialReport configurations response) :=
      List.getLast?_concat
    rw [ReportFile.update, current]
    rfl
  refine ⟨(congrArg ReportFile.current written).trans List.getLast?_concat, ?_, ?_⟩
  · show List.map _ (validatedReport _ _).results = List.map _ s.handled
    rw [opened.handled, validatedReport]
    split_ifs
    · rfl
    · rfl
  · refine (congrArg (StaysFailed ∘ ReportFile.versions) written).mpr (StaysFailed.write ?_ ?_)
    · show StaysFailed (s.file.versions ++ [_])
      rw [opened.unwritten]
      exact List.pairwise_singleton ..
    · intro last isLast failed
      obtain rfl := Option.some.inj (List.getLast?_concat.symm.trans isLast)
      exact absurd failed (by decide : pyStr "in_progress" ≠ pyStr "failed")

/-- **The body of the `with` statement.** -/
theorem triple_connectedRun (met : contract.Met workflows) (opened : Opened contract s) :
    Triple (fun x => x = s) (connectedRun workflows configurations)
      (fun code t => BodyEnd contract configurations t (.ok code))
      (fun error t => BodyEnd contract configurations t (.error error)) := by
  refine Triple.bind ((triple_onSession (met.startTest _) s opened.ready).mono (fun _ same => same)
    (fun _ _ holds => holds) ?_) fun response => Triple.of_state ?_
  · rintro error t ⟨session, rfl, starts, raised⟩
    exact .notStarted starts raised opened.unwritten opened.reportCreated
  rintro _ ⟨session, rfl, starts, ready⟩
  refine Triple.bind (M := fun _ t => s.file.creation = .created ∧
      t = { s with
        session := session
        file := s.file.write (initialReport configurations response) })
    (Triple.within (triple_createInitialReport response s.file) ?_ ?_ ?_) fun _ => ?_
  · rintro _ rfl
    rfl
  · rintro _ file value rfl ⟨creation, rfl⟩
    exact ⟨creation, rfl⟩
  · rintro _ file error rfl ⟨⟨reason, rfl⟩, rfl, creation⟩
    exact .notCreated ready creation opened.unwritten opened.reportCreated
  refine Triple.bind (M := fun _ t => s.file.creation = .created ∧
      t = { s with
        session := session
        file := s.file.write (initialReport configurations response)
        reportCreated := true })
    (.change fun t holds => ⟨holds.1, by rw [holds.2]⟩) fun _ => ?_
  refine Triple.bind (M := fun _ t => s.file.creation = .created ∧
      t = s.begun configurations response session)
    (.change fun t holds => ⟨holds.1, by rw [holds.2]; rfl⟩) fun _ => Triple.of_state ?_
  rintro _ ⟨creation, rfl⟩
  have current : (s.begun configurations response session).file.current =
      some (initialReport configurations response) := List.getLast?_concat
  have reports : Reports ((s.begun configurations response session).updated _) _ :=
    opened.reports_validated response session
  obtain ⟨creations, updates, calls⟩ := ReportFile.update_answers
    (fun report => some (validatedReport (validateSession configurations response) report))
    { (s.begun configurations response session).file with updateCalls := s.file.updateCalls + 1 }
  refine Triple.bind ((triple_onFile_update _ (s.begun configurations response session)).mono
    (fun _ same => same) (fun _ _ holds => holds) ?_) fun _ => Triple.of_state ?_
  · rintro _ t ⟨rfl, rfl, cause⟩
    refine .notUpdated (.inl ready) (.inl ⟨s.file.updateCalls, ?_, cause ?_⟩) rfl current
      (by decide : pyStr "in_progress" ≠ pyStr "passed")
    · rw [opened.updateCalls]
      omega
    · rw [current]
      rfl
  rintro _ ⟨updated, rfl⟩
  refine Triple.ite (fun passed => ?_) fun invalid => .pure ?_
  · have between : Between contract configurations configurations.test.enabledTests
        ((s.begun configurations response session).updated fun report =>
          some (validatedReport (validateSession configurations response) report)) := by
      refine ⟨⟨rfl, creations.trans creation, response, starts, passed, rfl⟩, ⟨?_, ?_⟩, ?_, ?_, ?_,
        ⟨_, reports, ?_⟩, ready⟩
      · show List.map _ s.handled ++ _ = _
        rw [opened.handled]
        rfl
      · intro index item found
        have none : s.handled[index]? = some item := found
        rw [opened.handled] at none
        exact absurd none.symm (Option.some_ne_none _)
      · intro item listed
        have none : item ∈ s.handled := listed
        rw [opened.handled] at none
        exact absurd none List.not_mem_nil
      · refine calls.trans ?_
        show s.file.updateCalls + 1 = s.handled.length + 1
        rw [opened.updateCalls, opened.handled]
        rfl
      · intro call early
        have early' : call < s.file.updateCalls + 1 := Nat.lt_of_lt_of_eq early calls
        refine (congrFun updates call).trans ?_
        rw [opened.updateCalls] at early'
        obtain rfl : call = 0 := by omega
        have first : s.file.updates s.file.updateCalls = true := updated
        rw [opened.updateCalls] at first
        exact first
      · rw [validatedReport, if_pos passed]
        exact (if_pos fun _ listed => absurd listed List.not_mem_nil).symm
    exact triple_runSession met between opened.handled
  · rintro _ rfl
    refine .invalid starts (Bool.eq_false_iff.mpr invalid) rfl rfl opened.handled reports ?_ ready
    rw [validatedReport, if_neg invalid]

/-! ## The whole run -/

/-- What an exception makes `run` come to. -/
def exitOfError (error : TesterError) : Except TesterError Nat :=
  if error.isHandled then .ok 1 else .error error

/-- What `run` comes to, once the connection has been closed. -/
def exitOf (validation : Option SessionValidation) :
    Except TesterError (Option Nat) → Except TesterError Nat
  | .ok none => .ok (if validation.any SessionValidation.passed then 0 else 1)
  | .ok (some code) => .ok code
  | .error error => exitOfError error

/-- **How a run ends.** -/
inductive RunEnd (contract : RunnerContract κ) (configurations : LoadedConfigurations)
    (t : RunState κ) : Except TesterError Nat → Prop where
  | unopened {error : TesterError} (opens : contract.opens (.error error))
      (unwritten : t.file.versions = []) : RunEnd contract configurations t (exitOfError error)
  | closed {result : Except TesterError (Option Nat)} (opens : contract.opens (.ok ()))
      (body : BodyEnd contract configurations t result) (closes : contract.closes (.ok ())) :
      RunEnd contract configurations t (exitOf t.validation result)
  | unclosed {result : Except TesterError (Option Nat)} {error : TesterError}
      (opens : contract.opens (.ok ())) (body : BodyEnd contract configurations t result)
      (closes : contract.closes (.error error)) :
      RunEnd contract configurations t (exitOfError error)

/-- A summary changes nothing else. -/
theorem BodyEnd.summarize {t : RunState κ} {result : Except TesterError (Option Nat)}
    (ended : BodyEnd contract configurations t result)
    (summaries : List (List TestOutcome × Bool)) :
    BodyEnd contract configurations { t with summaries := summaries } result := by
  cases ended with
  | notStarted starts raised unwritten created => exact .notStarted starts raised unwritten created
  | notCreated ready creation unwritten created =>
      exact .notCreated ready creation unwritten created
  | notUpdated session cause created current status =>
      exact .notUpdated session cause created current status
  | invalid starts invalid validation created handled reports status ready =>
      exact .invalid starts invalid validation created handled
        ⟨reports.current, reports.results, reports.lasting⟩ status ready
  | finished session handledAs returned updated reports status completed ready =>
      exact .finished ⟨session.reportCreated, session.creation, session.started⟩ handledAs returned
        updated ⟨reports.current, reports.results, reports.lasting⟩ status completed ready
  | cancelled session handledAs last reports status stopped =>
      exact .cancelled ⟨session.reportCreated, session.creation, session.started⟩ handledAs last
        ⟨reports.current, reports.results, reports.lasting⟩ status stopped
  | failed session handledAs last exchange reports status raised =>
      exact .failed ⟨session.reportCreated, session.creation, session.started⟩ handledAs last
        exchange ⟨reports.current, reports.results, reports.lasting⟩ status raised
  | escaped last other created current status raised =>
      exact .escaped last other created current status raised

theorem RunEnd.summarize {t : RunState κ} {result : Except TesterError Nat}
    (ended : RunEnd contract configurations t result)
    (summaries : List (List TestOutcome × Bool)) :
    RunEnd contract configurations { t with summaries := summaries } result := by
  cases ended with
  | unopened opens unwritten => exact .unopened opens unwritten
  | closed opens body closes => exact .closed opens (body.summarize summaries) closes
  | unclosed opens body closes => exact .unclosed opens (body.summarize summaries) closes

/-- The body of a run that goes on has validated the session. -/
theorem BodyEnd.validation {t : RunState κ}
    (ended : BodyEnd contract configurations t (.ok none)) :
    ∃ validation, t.validation = some validation := by
  cases ended with
  | invalid _ _ validation => exact ⟨_, validation⟩
  | finished session =>
      obtain ⟨_, _, _, validation⟩ := session.started
      exact ⟨_, validation⟩

/-- What the `with` statement comes to. -/
def WithEnd (contract : RunnerContract κ) (configurations : LoadedConfigurations)
    (result : Except TesterError (Option Nat)) (t : RunState κ) : Prop :=
  (∃ error, result = .error error ∧ contract.opens (.error error) ∧ t.file.versions = []) ∨
    (contract.opens (.ok ()) ∧
      ((contract.closes (.ok ()) ∧ BodyEnd contract configurations t result) ∨
        ∃ error body, result = .error error ∧ contract.closes (.error error) ∧
          BodyEnd contract configurations t body))

/-- **The `with` statement.** -/
theorem triple_withConnection (met : contract.Met workflows) (opened : Opened contract s) :
    Triple (fun x => x = s) (withConnection workflows configurations)
      (fun code => WithEnd contract configurations (.ok code))
      (fun error => WithEnd contract configurations (.error error)) := by
  refine Triple.bind ((triple_onSession met.openConnection s opened.ready).mono
    (fun _ same => same) (fun _ _ holds => holds) ?_) fun _ => Triple.of_state ?_
  · rintro error _ ⟨session, rfl, opens⟩
    exact .inl ⟨error, rfl, opens, opened.unwritten⟩
  rintro _ ⟨session, rfl, opens, ready⟩
  have opened' : Opened contract { s with session := session } :=
    ⟨ready, opened.unwritten, opened.updateCalls, opened.reportCreated, opened.handled⟩
  refine Triple.ensuring (triple_connectedRun met opened') fun result => Triple.of_state ?_
  intro t outcome
  have body : BodyEnd contract configurations t result := by
    cases result with
    | ok code => exact outcome
    | error error => exact outcome
  refine Triple.within (met.closeConnection t.session) ?_ ?_ ?_
  · rintro _ rfl
    rfl
  · rintro _ _ value rfl ⟨closes, rfl⟩
    cases result with
    | ok code => exact .inr ⟨opens, .inl ⟨closes, body⟩⟩
    | error error => exact .inr ⟨opens, .inl ⟨closes, body⟩⟩
  · rintro _ _ error rfl ⟨closes, rfl⟩
    exact .inr ⟨opens, .inr ⟨error, result, rfl, closes, body⟩⟩

theorem triple_summarizeFailure {t : RunState κ} {result : Except TesterError Nat}
    (ended : RunEnd contract configurations t result) :
    Triple (fun x => x = t) summarizeFailure
      (fun _ t => RunEnd contract configurations t result)
      (fun error t => RunEnd contract configurations t (.error error)) := by
  refine Triple.bind (M := fun _ x => x = t) (.get fun _ same => same) fun _ => Triple.ite
    (fun _ => .change ?_) fun _ => .pure ?_
  · rintro _ rfl
    exact ended.summarize _
  · rintro _ rfl
    exact ended

theorem triple_concludeRun {t : RunState κ} {validation : SessionValidation}
    (validated : t.validation = some validation)
    (ended : RunEnd contract configurations t (exitOf (some validation) (.ok none))) :
    Triple (fun x => x = t) concludeRun (fun code t => RunEnd contract configurations t (.ok code))
      (fun error t => RunEnd contract configurations t (.error error)) := by
  refine Triple.bind (M := fun seen x => seen = t ∧ x = t) (.get ?_) fun seen => ?_
  · rintro _ rfl
    exact ⟨rfl, rfl⟩
  refine Triple.of_state ?_
  rintro last ⟨rfl, rfl⟩
  rw [validated]
  refine Triple.bind (M := fun _ x => x = last) (.get fun _ same => same) fun now => ?_
  refine Triple.bind (M := fun _ t => RunEnd contract configurations t
    (exitOf (some validation) (.ok none))) (.change ?_) fun _ => ?_
  · rintro _ rfl
    exact ended.summarize _
  · refine Triple.ite (fun passed => .pure ?_) fun failed => .pure ?_
    · intro t ended
      rwa [exitOf, Option.any_some, if_pos passed] at ended
    · intro t ended
      rwa [exitOf, Option.any_some, if_neg failed] at ended

/-- **What a run comes to**, if the configurations have been loaded and the firmware has been
flashed. -/
theorem triple_run (met : contract.Met workflows) (opened : Opened contract s) :
    Triple (fun x => x = s) (run workflows (.ok configurations) (.ok ()))
      (fun code t => RunEnd contract configurations t (.ok code))
      (fun error t => RunEnd contract configurations t (.error error)) := by
  refine Triple.bind ((Triple.attempt (triple_withConnection met opened)).mono (fun _ same => same)
    (fun _ _ holds => holds) fun _ _ never => never.elim) fun result => ?_
  cases result with
  | error error =>
      have ends : ∀ t, WithEnd contract configurations (.error error) t →
          RunEnd contract configurations t (exitOfError error) := by
        rintro t (⟨_, same, opens, unwritten⟩ | ⟨opens, ⟨closes, body⟩ | ⟨_, _, same, closes, body⟩⟩)
        · obtain rfl := Except.error.inj same
          exact .unopened opens unwritten
        · exact .closed opens body closes
        · obtain rfl := Except.error.inj same
          exact .unclosed opens body closes
      refine Triple.of_state fun t with_ => ?_
      have ended := ends t with_
      refine Triple.ite (fun handled => ?_) fun unhandled => .throw ?_
      · rw [exitOfError, if_pos handled] at ended
        refine Triple.bind (triple_summarizeFailure ended) fun _ => .pure fun _ holds => holds
      · rintro _ rfl
        rwa [exitOfError, if_neg unhandled] at ended
  | ok code =>
      refine Triple.of_state fun t with_ => ?_
      obtain ⟨_, other, _⟩ | ⟨opens, ⟨closes, body⟩ | ⟨_, _, other, _⟩⟩ := with_
      · cases other
      · have ended := RunEnd.closed opens body closes
        cases code with
        | some code =>
            refine .pure ?_
            rintro _ rfl
            exact ended
        | none =>
            obtain ⟨validation, validated⟩ := body.validation
            rw [validated] at ended
            exact triple_concludeRun validated ended
      · cases other

end Parts

/-! ## Runs end -/

/-- The workflows always end. -/
structure RunnerWorkflows.End (workflows : RunnerWorkflows κ) : Prop where
  openConnection : Ends (fun _ => True) workflows.openConnection
  startTest : ∀ uuid, Ends (fun _ => True) (workflows.startTest uuid)
  runHandler : ∀ definition commandId,
    Ends (fun _ => True) (workflows.runHandler definition commandId)
  stopComponentTest : ∀ commandId testType,
    Ends (fun _ => True) (workflows.stopComponentTest commandId testType)
  closeConnection : Ends (fun _ => True) workflows.closeConnection

/-- What the operations on a file come to. -/
def ReportFile.Answers (creation : CreationAnswer) (updates : Nat → Bool) (file : ReportFile) :
    Prop :=
  file.creation = creation ∧ file.updates = updates

section Ends

variable {workflows : RunnerWorkflows κ} {creation : CreationAnswer} {updates : Nat → Bool}

/-- What the operations on the report file come to. -/
def Answers (creation : CreationAnswer) (updates : Nat → Bool) (s : RunState κ) : Prop :=
  s.file.Answers creation updates

theorem ends_onSession {α : Type} {call : Raising TesterError κ α}
    (ends : Ends (fun _ => True) call) : Ends (Answers creation updates) (onSession call) :=
  .within ends (fun _ _ => trivial) fun _ _ holds _ => holds

theorem ends_onFile {α : Type} {call : ReportCall α}
    (ends : Ends (ReportFile.Answers creation updates) call) :
    Ends (Answers creation updates) (onFile call : RunnerCall κ α) :=
  .within ends (fun _ holds => holds) fun _ _ _ holds => holds

theorem ends_updateReport (change : Report → Option Report) :
    Ends (ReportFile.Answers creation updates) (updateReport change) := by
  refine .bind .get fun _ => .bind (.change fun _ holds => holds) fun _ =>
    .ite (.change fun file holds => ?_) (.throw _)
  obtain ⟨sameCreation, sameUpdates, _⟩ := ReportFile.update_answers change file
  exact ⟨sameCreation.trans holds.1, sameUpdates.trans holds.2⟩

theorem ends_recordOutcome (definition : TestDefinition) (status : PyStr) (details : ResultDetails) :
    Ends (Answers creation updates)
      (recordOutcome definition status details : RunnerCall κ Unit) :=
  .bind (.change fun _ holds => holds) fun _ =>
    ends_onFile (.ite (.throw _) (ends_updateReport _))

theorem ends_createInitialReport (configurations : LoadedConfigurations)
    (response : StartTestResponse) :
    Ends (ReportFile.Answers creation updates) (createInitialReport configurations response) := by
  refine .bind .get fun file => ?_
  cases file.creation with
  | created => exact .change fun _ holds => holds
  | «exists» => exact .throw _
  | failed => exact .throw _

variable (end_ : workflows.End)
include end_

theorem ends_cancelTest (definition : TestDefinition) (commandId : Int) :
    Ends (Answers creation updates) (cancelTest workflows definition commandId) := by
  refine .bind (.attempt (ends_onSession (end_.stopComponentTest _ _))) fun stopped => ?_
  refine .bind ?_ fun _ => .bind (ends_recordOutcome _ _ _) fun _ =>
    .bind (.change fun _ holds => holds) fun _ => .pure _
  cases stopped with
  | ok value => exact .pure _
  | error error => exact .ite (.pure _) (.throw _)

theorem ends_runComponents (definitions : List TestDefinition) :
    ∀ commandId, Ends (Answers creation updates) (runComponents workflows commandId definitions) := by
  induction definitions with
  | nil => exact fun _ => .pure _
  | cons definition definitions ih =>
      intro commandId
      refine .bind (.bind (.bind (.attempt (ends_onSession (end_.runHandler _ _))) fun _ =>
        .bind (.change fun _ holds => holds) fun _ => .pure _) fun ended => ?_) fun code => ?_
      · cases ended with
        | ok result => exact .bind (ends_recordOutcome _ _ _) fun _ => .pure _
        | error error =>
            exact .ite (.bind (ends_recordOutcome _ _ _) fun _ => .throw _)
              (.ite (ends_cancelTest end_ _ _) (.throw _))
      · cases code with
        | none => exact ih _
        | some code => exact .pure _

theorem ends_connectedRun (configurations : LoadedConfigurations) :
    Ends (Answers creation updates) (connectedRun workflows configurations) := by
  refine .bind (ends_onSession (end_.startTest _)) fun response =>
    .bind (ends_onFile (ends_createInitialReport _ _)) fun _ =>
      .bind (.change fun _ holds => holds) fun _ => .bind (.change fun _ holds => holds) fun _ =>
        .bind (ends_onFile (ends_updateReport _)) fun _ => .ite ?_ (.pure _)
  refine .bind (ends_runComponents end_ _ _) fun code => ?_
  cases code with
  | none =>
      exact .bind (ends_onFile (ends_updateReport _)) fun _ =>
        .bind (.change fun _ holds => holds) fun _ => .pure _
  | some code => exact .pure _

/-- **A run ends**, if the workflows do. -/
theorem ends_run (configurations : LoadedConfigurations) :
    Ends (Answers creation updates) (run workflows (.ok configurations) (.ok ())) := by
  refine .bind (.attempt (.bind (ends_onSession end_.openConnection) fun _ =>
    .ensuring (ends_connectedRun end_ configurations) (ends_onSession end_.closeConnection)))
    fun result => ?_
  cases result with
  | error error =>
      exact .ite (.bind (.bind .get fun _ => .ite (.change fun _ holds => holds) (.pure _))
        fun _ => .pure _) (.throw _)
  | ok code =>
      cases code with
      | some code => exact .pure _
      | none =>
          refine .bind .get fun s => ?_
          cases s.validation with
          | none => exact .throw _
          | some validation =>
              exact .bind .get fun _ => .bind (.change fun _ holds => holds) fun _ =>
                .ite (.pure _) (.pure _)

end Ends

end FlightComputer.BoardTester
