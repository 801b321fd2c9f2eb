import FlightComputer.BoardTester.RunnerReports

/-!
# The exit code and the report

A run whose session exchange, whose handlers, whose stops and whose connection come to
given results (`SessionAnswers`), with the report file as it may be. It always returns. If
the report can be written, it tells of the tests that have been handled (`report_content`).
The exit code is 0 exactly for a report that has passed, except in two situations
(`exit_status_agrees_iff`).
-/

set_option autoImplicit false

namespace FlightComputer.BoardTester

open Library Raising

/-! ## Given results -/

/-- `ProtocolMessageError` or `UsbTransportError` -/
inductive ExchangeError where
  | usbTransport (error : UsbTransportError)
  | protocolMessage (error : ProtocolMessageError)
  deriving DecidableEq

/-- The exception that is raised. -/
def ExchangeError.raised : ExchangeError → TesterError
  | .usbTransport error => .usbTransport error
  | .protocolMessage error => .protocolMessage error

/-- What the handler of a test comes to. -/
inductive TestEnding where
  | returned (passed : Bool) (details : PyDict)
  | raised (error : ExchangeError)
  | interrupted

/-- What it comes to, for the runner. -/
def TestEnding.handlerEnd : TestEnding → HandlerEnd
  | .returned passed details => .ok ⟨if passed then pyStr "passed" else pyStr "failed", details⟩
  | .raised error => .error error.raised
  | .interrupted => .error .keyboardInterrupt

/-- The status that the test has had. -/
def TestEnding.status : TestEnding → PyStr
  | .returned true _ => pyStr "passed"
  | .returned false _ => pyStr "failed"
  | .raised _ => pyStr "failed"
  | .interrupted => pyStr "stopped"

/-- **What everything comes to**: opening the connection, START_TEST, the handlers by their
command ids, the stop of an interrupted test, and closing the connection. -/
structure SessionAnswers where
  opening : Option UsbTransportError
  response : Except ExchangeError StartTestResponse
  ending : Int → TestEnding
  stopping : Option ExchangeError
  closing : Option UsbTransportError

/-- The result of a call that may raise an exception. -/
def resultOf : Option TesterError → Except TesterError Unit
  | none => .ok ()
  | some error => .error error

/-- The workflows with these results. -/
def answeredWorkflows (answers : SessionAnswers) : RunnerWorkflows Unit where
  openConnection := settle (resultOf (answers.opening.map .usbTransport))
  startTest _ := settle (answers.response.mapError ExchangeError.raised)
  runHandler _ commandId := settle (answers.ending commandId).handlerEnd
  stopComponentTest _ _ := settle (resultOf (answers.stopping.map ExchangeError.raised))
  closeConnection := settle (resultOf (answers.closing.map .usbTransport))

/-- What the runner may assume of them. -/
def answeredContract (answers : SessionAnswers) : RunnerContract Unit where
  ready _ := True
  opens result := result = resultOf (answers.opening.map .usbTransport)
  starts result := result = answers.response.mapError ExchangeError.raised
  ends _ commandId ended := ended = (answers.ending commandId).handlerEnd
  raised error _ := error.isExchangeError = true
  closes result := result = resultOf (answers.closing.map .usbTransport)

theorem ExchangeError.isExchangeError_raised (error : ExchangeError) :
    error.raised.isExchangeError = true := by
  cases error with
  | usbTransport error => rfl
  | protocolMessage error => rfl

/-- The results are the given ones. -/
theorem answeredContract_met (answers : SessionAnswers) :
    (answeredContract answers).Met (answeredWorkflows answers) where
  openConnection := by
    refine .settle fun s _ => ?_
    cases opening : resultOf (answers.opening.map .usbTransport) with
    | ok value => exact ⟨opening.symm, trivial⟩
    | error error => exact opening.symm
  startTest _ := by
    refine .settle fun s _ => ?_
    cases response : answers.response with
    | ok value => exact ⟨congrArg (Except.mapError ExchangeError.raised) response.symm, trivial⟩
    | error error => exact ⟨congrArg (Except.mapError ExchangeError.raised) response.symm, error.isExchangeError_raised⟩
  runHandler _ commandId := by
    refine .settle fun s _ => ?_
    cases ending : answers.ending commandId with
    | returned passed details => exact ⟨congrArg TestEnding.handlerEnd ending.symm, trivial⟩
    | raised error =>
        refine ⟨congrArg TestEnding.handlerEnd ending.symm, ?_⟩
        split_ifs
        · trivial
        · exact error.isExchangeError_raised
    | interrupted => exact ⟨congrArg TestEnding.handlerEnd ending.symm, trivial⟩
  stopComponentTest _ _ := by
    refine .settle fun s _ => ?_
    cases stopping : answers.stopping with
    | none => trivial
    | some error => exact error.isExchangeError_raised
  closeConnection first := by
    refine .settle fun s same => ?_
    cases closing : resultOf (answers.closing.map .usbTransport) with
    | ok value => exact ⟨closing.symm, same⟩
    | error error => exact ⟨closing.symm, same⟩

theorem ends_answeredWorkflows (answers : SessionAnswers) : (answeredWorkflows answers).End where
  openConnection := .settle _
  startTest _ := .settle _
  runHandler _ _ := .settle _
  stopComponentTest _ _ := .settle _
  closeConnection := .settle _

/-! ## Results of the first tests -/

/-- The results of tests, in the order in which they are run. -/
def expectedResults (answers : SessionAnswers) (tests : List TestDefinition) :
    List (PyStr × PyStr) :=
  tests.mapIdx fun index definition =>
    (definition.type, (answers.ending (2 + (index : Int))).status)

/-- The results are those of the tests. -/
theorem map_fst_expectedResults (answers : SessionAnswers) (tests : List TestDefinition) :
    (expectedResults answers tests).map Prod.fst = tests.map TestDefinition.type := by
  refine List.ext_getElem? fun index => ?_
  rw [List.getElem?_map, expectedResults, List.getElem?_mapIdx, List.getElem?_map, Option.map_map]
  rfl

theorem endStatus_handlerEnd (ending : TestEnding) : endStatus ending.handlerEnd = ending.status := by
  cases ending with
  | returned passed details => cases passed <;> rfl
  | raised error => cases error <;> rfl
  | interrupted => rfl

section Results

variable {answers : SessionAnswers} {configurations : LoadedConfigurations}
  {handled : List (TestDefinition × HandlerEnd)} {later enabled : List TestDefinition}

/-- **The handled tests are the first ones, with what their handlers have come to.** -/
theorem HandledAs.summaries
    (handledAs : HandledAs (answeredContract answers) enabled handled later) :
    handled.map handledSummary = expectedResults answers (enabled.take handled.length) := by
  have tests : enabled.take handled.length = handled.map Prod.fst := by
    rw [← handledAs.order, List.take_left']
    exact List.length_map ..
  rw [tests]
  refine List.ext_getElem? fun index => ?_
  rw [List.getElem?_map, expectedResults, List.getElem?_mapIdx, List.getElem?_map]
  cases found : handled[index]? with
  | none => rfl
  | some item =>
      have ended : item.2 = (answers.ending (2 + (index : Int))).handlerEnd :=
        handledAs.ended index item found
      rw [Option.map_some, Option.map_some, Option.map_some, handledSummary, ended,
        endStatus_handlerEnd]

/-- A handled test has an index. -/
theorem HandledAs.exists_index
    (handledAs : HandledAs (answeredContract answers) enabled handled later)
    {item : TestDefinition × HandlerEnd} (listed : item ∈ handled) :
    ∃ index < enabled.length, item.2 = (answers.ending (2 + (index : Int))).handlerEnd := by
  obtain ⟨index, found⟩ := List.mem_iff_getElem?.mp listed
  refine ⟨index, ?_, handledAs.ended index item found⟩
  obtain ⟨inside, _⟩ := List.getElem?_eq_some_iff.mp found
  rw [← handledAs.order, List.length_append, List.length_map]
  omega

/-- All results are passed exactly if all tests have passed. -/
theorem allPassed_iff {results : List ReportResult} {tests : List TestDefinition}
    (same : results.map ReportResult.summary = expectedResults answers tests) :
    AllPassed results ↔
      ∀ index < tests.length, (answers.ending (2 + (index : Int))).status = pyStr "passed" := by
  have length : results.length = tests.length := by
    have lengths := congrArg List.length same
    rwa [List.length_map, expectedResults, List.length_mapIdx] at lengths
  have status : ∀ (index : Nat) (result : ReportResult), results[index]? = some result →
      result.status = (answers.ending (2 + (index : Int))).status := by
    intro index result found
    have pairs := congrArg (fun list => list[index]?) same
    rw [List.getElem?_map, found, Option.map_some, expectedResults, List.getElem?_mapIdx] at pairs
    obtain ⟨definition, _, pair⟩ := Option.map_eq_some_iff.mp pairs.symm
    exact (Prod.mk.inj pair).2.symm
  constructor
  · intro passed index inside
    have found := List.getElem?_eq_getElem (length ▸ inside)
    rw [← status index _ found]
    exact passed _ (List.mem_of_getElem? found)
  · intro passed result listed
    obtain ⟨index, found⟩ := List.mem_iff_getElem?.mp listed
    rw [status index result found]
    refine passed index ?_
    obtain ⟨inside, _⟩ := List.getElem?_eq_some_iff.mp found
    exact length ▸ inside

/-! ## Runs -/

/-- The session validation passes. -/
def Validates (configurations : LoadedConfigurations) (answers : SessionAnswers) : Prop :=
  ∃ response, answers.response = .ok response ∧
    (validateSession configurations response).passed = true

/-- **All tests are completed**: the session starts and validates, every handler returns, and
the report can be written. -/
structure Completes (configurations : LoadedConfigurations) (answers : SessionAnswers)
    (creation : CreationAnswer) (updates : Nat → Bool) : Prop where
  validates : Validates configurations answers
  created : creation = .created
  updated : ∀ call < configurations.test.enabledTests.length + 2, updates call = true
  returned : ∀ index < configurations.test.enabledTests.length, ∃ passed details,
    answers.ending (2 + (index : Int)) = .returned passed details ∧
      Recordable (details.map Prod.fst)

/-- All enabled tests have passed. -/
def AllTestsPass (configurations : LoadedConfigurations) (answers : SessionAnswers) : Prop :=
  ∀ index < configurations.test.enabledTests.length,
    (answers.ending (2 + (index : Int))).status = pyStr "passed"

/-- The status of the report, once there is one. -/
def RunState.reportStatus {κ : Type} (s : RunState κ) : Option PyStr :=
  s.file.current.map Report.status

/-- The status of the report of completed tests. -/
structure CompletedRun (configurations : LoadedConfigurations) (answers : SessionAnswers)
    (t : RunState Unit) : Prop where
  validated : t.validation.any SessionValidation.passed = true
  passed : AllTestsPass configurations answers → t.reportStatus = some (pyStr "passed")
  failed : ¬AllTestsPass configurations answers → t.reportStatus = some (pyStr "failed")

variable {creation : CreationAnswer} {updates : Nat → Bool} {t : RunState Unit}

theorem starts_ok {response : StartTestResponse}
    (starts : (answeredContract answers).starts (.ok response)) :
    answers.response = .ok response := by
  have same : Except.ok response = answers.response.mapError ExchangeError.raised := starts
  cases answered : answers.response with
  | ok value =>
      rw [answered] at same
      exact congrArg Except.ok (Except.ok.inj same).symm
  | error error =>
      rw [answered] at same
      cases same

/-- **How the body of the `with` statement ends**: all tests are completed, or the report has
not passed and the exit code is not 0. -/
theorem BodyEnd.completes {result : Except TesterError (Option Nat)}
    (body : BodyEnd (answeredContract answers) configurations t result)
    (kept : Answers creation updates t) :
    (Completes configurations answers creation updates ∧ result = .ok none ∧
        CompletedRun configurations answers t) ∨
      (¬Completes configurations answers creation updates ∧
        t.reportStatus ≠ some (pyStr "passed") ∧
        ∃ code, exitOf t.validation result = .ok code ∧ code ≠ 0) := by
  obtain ⟨creations, update⟩ := kept
  have handledError : ∀ {error : TesterError}, error.isHandled = true →
      ∃ code, exitOf t.validation (.error error) = .ok code ∧ code ≠ 0 := by
    intro error handled
    exact ⟨1, if_pos handled, Nat.one_ne_zero⟩
  have notPassed : ∀ {report : Report}, t.file.current = some report →
      report.status ≠ pyStr "passed" → t.reportStatus ≠ some (pyStr "passed") := by
    intro report current status same
    rw [RunState.reportStatus, current] at same
    exact status (Option.some.inj same)
  have unwritten : t.file.versions = [] → t.reportStatus ≠ some (pyStr "passed") := by
    intro none same
    rw [RunState.reportStatus, ReportFile.current, none] at same
    cases same
  have interrupted : ∀ {later error}, HandledAs (answeredContract answers)
      configurations.test.enabledTests t.handled later →
      (∃ item ∈ t.handled, item.2 = .error error) →
      ¬Completes configurations answers creation updates := by
    rintro later error handledAs ⟨item, listed, ended⟩ completes
    obtain ⟨index, inside, same⟩ := handledAs.exists_index listed
    obtain ⟨passed, details, ending, _⟩ := completes.returned index inside
    rw [ended, ending] at same
    cases same
  cases body with
  | @notStarted error starts raised none _ =>
      have exchange : error.isExchangeError = true := raised
      refine .inr ⟨?_, unwritten none,
        handledError (TesterError.isHandled_of_isExchangeError exchange)⟩
      rintro ⟨⟨response, started, _⟩, _, _, _⟩
      have same : Except.error error = answers.response.mapError ExchangeError.raised := starts
      rw [started] at same
      cases same
  | notCreated _ creation none _ =>
      exact .inr ⟨fun completes => creation (creations.trans completes.created), unwritten none,
        handledError rfl⟩
  | notUpdated _ cause _ current status =>
      refine .inr ⟨?_, notPassed current status, handledError rfl⟩
      intro completes
      rcases cause with ⟨call, early, refused⟩ | ⟨index, inside, definition, ended, ends,
        result, returned, unrecordable⟩
      · rw [update, completes.updated call early] at refused
        cases refused
      · obtain ⟨passed, details, ending, recordable⟩ := completes.returned index inside
        have same : ended = (answers.ending (2 + (index : Int))).handlerEnd := ends
        rw [returned, ending] at same
        obtain rfl := Except.ok.inj same
        exact unrecordable recordable
  | @invalid response report starts invalid validation _ _ reports status _ =>
      refine .inr ⟨?_, notPassed reports.current (status ▸ by decide), 1, ?_, Nat.one_ne_zero⟩
      · rintro ⟨⟨response', started, passed⟩, _, _, _⟩
        obtain rfl := Except.ok.inj ((starts_ok starts).symm.trans started)
        rw [invalid] at passed
        cases passed
      · rw [exitOf, validation, Option.any_some, invalid]
        rfl
  | @finished report session handledAs returned updated reports status _ _ =>
      obtain ⟨response, starts, passed, validation⟩ := session.started
      have length : t.handled.length = configurations.test.enabledTests.length := by
        rw [← handledAs.order, List.append_nil, List.length_map]
      have summaries := reports.results.trans handledAs.summaries
      rw [length, List.take_length] at summaries
      have all := allPassed_iff summaries
      refine .inl ⟨⟨⟨response, starts_ok starts, passed⟩, creations ▸ session.creation,
        update ▸ updated, ?_⟩, rfl, ?_, ?_, ?_⟩
      · intro index inside
        have found := List.getElem?_eq_getElem (length ▸ inside)
        obtain ⟨result, ended, recordable⟩ := returned _ (List.mem_of_getElem? found)
        have same : _ = (answers.ending (2 + (index : Int))).handlerEnd :=
          handledAs.ended index _ found
        rw [ended] at same
        cases ending : answers.ending (2 + (index : Int)) with
        | returned passed details =>
            rw [ending] at same
            obtain rfl := Except.ok.inj same
            exact ⟨passed, details, rfl, recordable⟩
        | raised error =>
            rw [ending] at same
            cases same
        | interrupted =>
            rw [ending] at same
            cases same
      · rw [validation]
        exact passed
      · intro tests
        rw [RunState.reportStatus, reports.current, Option.map_some, status, if_pos (all.mpr tests)]
      · intro tests
        rw [RunState.reportStatus, reports.current, Option.map_some, status,
          if_neg fun passed => tests (all.mp passed)]
  | cancelled _ handledAs last reports status _ =>
      exact .inr ⟨interrupted handledAs last, notPassed reports.current (status ▸ by decide), 130,
        rfl, by decide⟩
  | @failed report later error _ handledAs last exchange reports status _ =>
      exact .inr ⟨interrupted handledAs last, notPassed reports.current (status ▸ by decide),
        handledError (TesterError.isHandled_of_isExchangeError exchange)⟩
  | escaped _ other _ _ _ raised =>
      rw [show _ = true from raised] at other
      cases other

/-- The state when `run` is called. -/
theorem opened_initial (creation : CreationAnswer) (updates : Nat → Bool) :
    Opened (answeredContract answers) (RunState.initial () creation updates) :=
  ⟨trivial, rfl, rfl, rfl, rfl⟩

/-- **A run with given results returns an exit code.** -/
theorem exists_run (configurations : LoadedConfigurations) (answers : SessionAnswers)
    (creation : CreationAnswer) (updates : Nat → Bool) :
    ∃ code t, run (answeredWorkflows answers) (.ok configurations) (.ok ())
        (.initial () creation updates) = some (.ok code, t) ∧
      RunEnd (answeredContract answers) configurations t (.ok code) ∧
      Answers creation updates t := by
  obtain ⟨result, t, ended, kept⟩ := ends_run (ends_answeredWorkflows answers) configurations
    (.initial () creation updates) ⟨rfl, rfl⟩
  have outcome := triple_run (answeredContract_met answers) (opened_initial creation updates)
    _ result t rfl ended
  have returns : ∀ result, RunEnd (answeredContract answers) configurations t result →
      ∃ code, result = .ok code := by
    intro result runEnd
    cases runEnd with
    | @unopened error opens _ =>
        have same : Except.error error = resultOf (answers.opening.map .usbTransport) := opens
        cases opening : answers.opening with
        | none =>
            rw [opening] at same
            cases same
        | some usb =>
            rw [opening] at same
            obtain rfl := Except.error.inj same
            exact ⟨1, rfl⟩
    | closed _ body _ =>
        rcases body.completes kept with ⟨_, rfl, _⟩ | ⟨_, _, code, same, _⟩
        · exact ⟨_, rfl⟩
        · exact ⟨code, same⟩
    | @unclosed body error _ _ closes =>
        have same : Except.error error = resultOf (answers.closing.map .usbTransport) := closes
        cases closing : answers.closing with
        | none =>
            rw [closing] at same
            cases same
        | some usb =>
            rw [closing] at same
            obtain rfl := Except.error.inj same
            exact ⟨1, rfl⟩
  cases result with
  | ok code => exact ⟨code, t, ended, outcome, kept⟩
  | error error =>
      obtain ⟨code, same⟩ := returns _ outcome
      cases same

/-- How a run with given results ends: the connection is not opened, or its body ends and
the connection is closed or not. -/
theorem RunEnd.answered {code : Nat}
    (ended : RunEnd (answeredContract answers) configurations t (.ok code)) :
    (answers.opening ≠ none ∧ code = 1 ∧ t.file.versions = []) ∨
      ∃ result, answers.opening = none ∧
        BodyEnd (answeredContract answers) configurations t result ∧
        ((answers.closing = none ∧ exitOf t.validation result = .ok code) ∨
          (answers.closing ≠ none ∧ code = 1)) := by
  generalize exit : Except.ok code = final at ended
  have opened : (answeredContract answers).opens (.ok ()) → answers.opening = none := by
    intro opens
    have same : Except.ok () = resultOf (answers.opening.map .usbTransport) := opens
    cases opening : answers.opening with
    | none => rfl
    | some usb =>
        rw [opening] at same
        cases same
  cases ended with
  | @unopened error opens unwritten =>
      have same : Except.error error = resultOf (answers.opening.map .usbTransport) := opens
      cases opening : answers.opening with
      | none =>
          rw [opening] at same
          cases same
      | some usb =>
          rw [opening] at same
          obtain rfl := Except.error.inj same
          exact .inl ⟨Option.some_ne_none _, Except.ok.inj exit, unwritten⟩
  | @closed result opens body closes =>
      refine .inr ⟨result, opened opens, body, .inl ⟨?_, rfl⟩⟩
      have same : Except.ok () = resultOf (answers.closing.map .usbTransport) := closes
      cases closing : answers.closing with
      | none => rfl
      | some usb =>
          rw [closing] at same
          cases same
  | @unclosed result error opens body closes =>
      have same : Except.error error = resultOf (answers.closing.map .usbTransport) := closes
      cases closing : answers.closing with
      | none =>
          rw [closing] at same
          cases same
      | some usb =>
          rw [closing] at same
          obtain rfl := Except.error.inj same
          exact .inr ⟨result, opened opens, body,
            .inr ⟨Option.some_ne_none _, Except.ok.inj exit⟩⟩

end Results

/-! ## The exit code -/

/-- **The exit code agrees with the report, exactly unless** the connection is opened, all
tests are completed, and they all pass if and only if the connection cannot be closed. -/
theorem exit_status_agrees_iff (configurations : LoadedConfigurations) (answers : SessionAnswers)
    (creation : CreationAnswer) (updates : Nat → Bool) :
    ∃ code t, run (answeredWorkflows answers) (.ok configurations) (.ok ())
        (.initial () creation updates) = some (.ok code, t) ∧
      ((code = 0 ↔ t.reportStatus = some (pyStr "passed")) ↔
        ¬(answers.opening = none ∧ Completes configurations answers creation updates ∧
          (AllTestsPass configurations answers ↔ answers.closing ≠ none))) := by
  obtain ⟨code, t, ended, runEnd, kept⟩ := exists_run configurations answers creation updates
  refine ⟨code, t, ended, ?_⟩
  rcases runEnd.answered with ⟨opening, rfl, unwritten⟩ | ⟨result, opening, body, closing⟩
  · -- without a connection there is no report, and the exit code is 1
    refine iff_of_true (iff_of_false Nat.one_ne_zero ?_) fun both => opening both.1
    rw [RunState.reportStatus, ReportFile.current, unwritten]
    exact fun same => Option.some_ne_none _ same.symm
  rcases body.completes kept with ⟨completes, rfl, completed⟩ | ⟨incomplete, status, exit, same, positive⟩
  · have zero : exitOf t.validation (.ok none) = .ok 0 := congrArg Except.ok (if_pos completed.validated)
    have passed : t.reportStatus = some (pyStr "passed") ↔ AllTestsPass configurations answers := by
      constructor
      · intro same
        by_contra failed
        rw [completed.failed failed] at same
        exact absurd (Option.some.inj same) (by decide)
      · exact completed.passed
    rw [passed]
    rcases closing with ⟨closing, exit⟩ | ⟨closing, rfl⟩
    · obtain rfl := Except.ok.inj (zero.symm.trans exit)
      rw [closing]
      constructor
      · intro agrees both
        exact (both.2.2.mp (agrees.mp rfl)) rfl
      · intro other
        refine iff_of_true rfl ?_
        by_contra failed
        exact other ⟨opening, completes, iff_of_false failed fun none => none rfl⟩
    · constructor
      · intro agrees both
        exact Nat.one_ne_zero (agrees.mpr (both.2.2.mpr closing))
      · intro other
        refine iff_of_false Nat.one_ne_zero fun all => ?_
        exact other ⟨opening, completes, iff_of_true all closing⟩
  · refine iff_of_true (iff_of_false ?_ status) fun both => incomplete both.2.1
    rcases closing with ⟨_, exit'⟩ | ⟨_, rfl⟩
    · obtain rfl := Except.ok.inj (same.symm.trans exit')
      exact positive
    · exact Nat.one_ne_zero

/-- The exit code and the status of the report of a run with given results. -/
def exitAndStatus (configurations : LoadedConfigurations) (answers : SessionAnswers) :
    Option (Option Nat × Option PyStr) :=
  let ended : Option (Except TesterError Nat × RunState Unit) :=
    run (answeredWorkflows answers) (.ok configurations) (.ok ())
      (.initial () .created fun _ => true)
  ended.map fun ended => (ended.1.toOption, ended.2.reportStatus)

theorem length_zeroDigits :
    (List.replicate 32 (⟨0, by decide⟩ : Fin 16)).length = 32 := List.length_replicate

/-- A configuration with one test, of the barometer. -/
def barometerOnly : LoadedConfigurations where
  test := ⟨pyStr "Barometer", ⟨List.replicate 32 ⟨0, by decide⟩, length_zeroDigits⟩,
    [⟨pyStr "barometer", true, []⟩]⟩
  board :=
    { name := pyStr "Flight Computer V1"
      boardId := pyStr "flightcomputer-v1"
      revision := pyStr "1.7"
      mcu := ⟨pyStr "U1", pyStr "STM32F405RGT6", pyStr "STM32F405", pyStr "LQFP-64"⟩
      testCapabilities := [pyStr "barometer"] }

/-- The metadata of a firmware for this board. -/
def matchingResponse : StartTestResponse where
  commandId := 1
  device := ⟨pyStr "0123456789ABCDEF01234567", pyStr "STM32F405RGT6", pyStr "flightcomputer-v1",
    pyStr "Flight Computer V1", pyStr "1.7"⟩
  firmware := ⟨pyStr "0.1.0", pyStr "unknown"⟩
  capabilities := [pyStr "barometer"]

/-- The handler of every test returns. -/
def handlersReturn (passed : Bool) (closing : Option UsbTransportError) : SessionAnswers where
  opening := none
  response := .ok matchingResponse
  ending _ := .returned passed []
  stopping := none
  closing := closing

/-- A run whose only test fails returns 0, and a run whose report has passed returns 1, if the
connection cannot be closed. -/
theorem failed_test_returns_zero :
    exitAndStatus barometerOnly (handlersReturn false none) =
        some (some 0, some (pyStr "failed")) ∧
      exitAndStatus barometerOnly (handlersReturn true (some ⟨.connection, []⟩)) =
        some (some 1, some (pyStr "passed")) := by
  decide +kernel

/-! ## The report -/

section Content

variable {answers : SessionAnswers} {configurations : LoadedConfigurations} {t : RunState Unit}
  {report : Report}

/-- **What a report tells** of a run with given results. -/
structure Tells (answers : SessionAnswers) (configurations : LoadedConfigurations)
    (versions : List Report) (report : Report) : Prop where
  results : ∃ count, report.results.map ReportResult.summary =
    expectedResults answers (configurations.test.enabledTests.take count)
  passed : report.status = pyStr "passed" ↔ Validates configurations answers ∧
    report.results.map ReportResult.summary =
      configurations.test.enabledTests.map fun test => (test.type, pyStr "passed")
  otherwise : report.status ≠ pyStr "passed" → report.status = pyStr "failed"
  lasting : StaysFailed versions

/-- A report that has failed, because the validation has or because a test has not passed. -/
theorem Reports.tells_failed (reports : Reports t report)
    (results : ∃ count, t.handled.map handledSummary =
      expectedResults answers (configurations.test.enabledTests.take count))
    (status : report.status = pyStr "failed")
    (cause : ¬Validates configurations answers ∨
      ∃ item ∈ t.handled, endStatus item.2 ≠ pyStr "passed") :
    Tells answers configurations t.file.versions report where
  results := reports.results ▸ results
  passed := by
    refine iff_of_false (status ▸ by decide) ?_
    rintro ⟨validates, passed⟩
    rcases cause with invalid | ⟨item, listed, other⟩
    · exact invalid validates
    · have among : handledSummary item ∈ t.handled.map handledSummary :=
        List.mem_map_of_mem listed
      rw [← reports.results, passed] at among
      obtain ⟨test, _, same⟩ := List.mem_map.mp among
      exact other (congrArg Prod.snd same).symm
  otherwise _ := status
  lasting := reports.lasting

/-- The report of completed tests. -/
theorem Reports.tells_finished (reports : Reports t report)
    (validates : Validates configurations answers)
    (results : t.handled.map handledSummary =
      expectedResults answers configurations.test.enabledTests)
    (status : report.status = if AllPassed report.results then pyStr "passed" else pyStr "failed") :
    Tells answers configurations t.file.versions report where
  results := ⟨configurations.test.enabledTests.length, by
    rw [reports.results, results, List.take_length]⟩
  passed := by
    have types : report.results.map ReportResult.type =
        configurations.test.enabledTests.map TestDefinition.type := by
      have same := congrArg (List.map Prod.fst) (reports.results.trans results)
      rw [map_fst_expectedResults, List.map_map] at same
      exact same
    have all : AllPassed report.results ↔ report.results.map ReportResult.summary =
        configurations.test.enabledTests.map fun test => (test.type, pyStr "passed") := by
      constructor
      · intro passed
        have same := congrArg (List.map fun type => (type, pyStr "passed")) types
        rw [List.map_map, List.map_map] at same
        refine Eq.trans ?_ same
        exact List.map_congr_left fun result listed =>
          congrArg (Prod.mk result.type) (passed result listed)
      · intro same result listed
        have among : result.summary ∈ report.results.map ReportResult.summary :=
          List.mem_map_of_mem listed
        rw [same] at among
        obtain ⟨test, _, pair⟩ := List.mem_map.mp among
        exact (congrArg Prod.snd pair).symm
    rw [status, ← all, and_iff_right validates]
    split_ifs with passed
    · exact iff_of_true rfl passed
    · exact iff_of_false (by decide) passed
  otherwise other := by
    rw [status] at other ⊢
    split_ifs at other ⊢ with passed
    · exact absurd rfl other
    · rfl
  lasting := reports.lasting

end Content

/-- **The content of the report.** If the report can be written, a run returns, and its report
tells of the first enabled tests, each with the status that it has had. The report has passed
exactly if the session validation has and every enabled test is recorded as passed, else it
has failed; and once it has failed, it stays failed. -/
theorem report_content (configurations : LoadedConfigurations) (answers : SessionAnswers)
    (recordable : ∀ commandId passed details,
      answers.ending commandId = .returned passed details → Recordable (details.map Prod.fst)) :
    ∃ code t, run (answeredWorkflows answers) (.ok configurations) (.ok ())
        (.initial () .created fun _ => true) = some (.ok code, t) ∧
      ∀ report, t.file.current = some report →
        (∃ count, report.results.map ReportResult.summary =
          expectedResults answers (configurations.test.enabledTests.take count)) ∧
        (report.status = pyStr "passed" ↔ Validates configurations answers ∧
          report.results.map ReportResult.summary =
            configurations.test.enabledTests.map fun test => (test.type, pyStr "passed")) ∧
        (report.status ≠ pyStr "passed" → report.status = pyStr "failed") ∧
        StaysFailed t.file.versions := by
  obtain ⟨code, t, ended, runEnd, kept⟩ :=
    exists_run configurations answers .created fun _ => true
  refine ⟨code, t, ended, ?_⟩
  intro report current
  have written : t.file.versions ≠ [] := by
    intro unwritten
    rw [ReportFile.current, unwritten] at current
    cases current
  suffices tells : Tells answers configurations t.file.versions report from
    ⟨tells.results, tells.passed, tells.otherwise, tells.lasting⟩
  rcases runEnd.answered with ⟨_, _, unwritten⟩ | ⟨result, _, body, _⟩
  · exact absurd unwritten written
  cases body with
  | notStarted _ _ unwritten _ => exact absurd unwritten written
  | notCreated _ _ unwritten _ => exact absurd unwritten written
  | notUpdated _ cause _ _ _ =>
      rcases cause with ⟨call, _, refused⟩ | ⟨index, _, definition, ended, ends, result, returned,
        unrecordable⟩
      · rw [kept.2] at refused
        cases refused
      · have same : ended = (answers.ending (2 + (index : Int))).handlerEnd := ends
        rw [returned] at same
        cases ending : answers.ending (2 + (index : Int)) with
        | returned passed details =>
            rw [ending] at same
            obtain rfl := Except.ok.inj same
            exact absurd (recordable _ passed details ending) unrecordable
        | raised error =>
            rw [ending] at same
            cases same
        | interrupted =>
            rw [ending] at same
            cases same
  | invalid starts invalid _ _ handled reports status _ =>
      obtain rfl := Option.some.inj (reports.current.symm.trans current)
      refine reports.tells_failed ⟨0, ?_⟩ status (.inl ?_)
      · rw [handled]
        rfl
      · rintro ⟨response, started, passed⟩
        obtain rfl := Except.ok.inj ((starts_ok starts).symm.trans started)
        rw [invalid] at passed
        cases passed
  | finished session handledAs _ _ reports status _ _ =>
      obtain rfl := Option.some.inj (reports.current.symm.trans current)
      obtain ⟨response, starts, passed, _⟩ := session.started
      have length : t.handled.length = configurations.test.enabledTests.length := by
        rw [← handledAs.order, List.append_nil, List.length_map]
      refine reports.tells_finished ⟨response, starts_ok starts, passed⟩ ?_ status
      rw [handledAs.summaries, length, List.take_length]
  | cancelled _ handledAs last reports status _ =>
      obtain rfl := Option.some.inj (reports.current.symm.trans current)
      obtain ⟨item, listed, interrupted⟩ := last
      refine reports.tells_failed ⟨_, handledAs.summaries⟩ status (.inr ⟨item, listed, ?_⟩)
      rw [interrupted]
      exact (by decide : pyStr "stopped" ≠ pyStr "passed")
  | @failed _ _ error _ handledAs last exchange reports status _ =>
      obtain rfl := Option.some.inj (reports.current.symm.trans current)
      obtain ⟨item, listed, raised⟩ := last
      refine reports.tells_failed ⟨_, handledAs.summaries⟩ status (.inr ⟨item, listed, ?_⟩)
      rw [raised, endStatus]
      split_ifs
      · decide
      · decide
  | escaped _ other _ _ _ raised =>
      rw [show _ = true from raised] at other
      cases other

/-- The report of a run with a passed barometer, whose connection cannot be closed. -/
theorem report_content_barometer : ∃ code t report,
    run (answeredWorkflows (handlersReturn true (some ⟨.connection, []⟩)))
        (.ok barometerOnly) (.ok ()) (.initial () .created fun _ => true) = some (.ok code, t) ∧
      t.file.current = some report ∧ report.status = pyStr "passed" ∧
      report.results.map ReportResult.summary = [(pyStr "barometer", pyStr "passed")] ∧
      Validates barometerOnly (handlersReturn true (some ⟨.connection, []⟩)) ∧
      StaysFailed t.file.versions := by
  obtain ⟨code, t, ended, content⟩ :=
    report_content barometerOnly (handlersReturn true (some ⟨.connection, []⟩)) (by
      intro commandId passed details ending field reserved listed
      obtain ⟨-, rfl⟩ := TestEnding.returned.inj ending
      cases listed)
  have status : (run (answeredWorkflows (handlersReturn true (some ⟨.connection, []⟩)))
        (.ok barometerOnly) (.ok ()) (.initial () .created fun _ => true) :
        Option (Except TesterError Nat × RunState Unit)).bind (fun ended => ended.2.reportStatus) =
      some (pyStr "passed") := by decide +kernel
  rw [ended] at status
  obtain ⟨report, current, passed⟩ := Option.map_eq_some_iff.mp status
  obtain ⟨_, allPassed, _, lasting⟩ := content report current
  obtain ⟨validates, results⟩ := allPassed.mp passed
  exact ⟨code, t, report, ended, current, passed, results, validates, lasting⟩

end FlightComputer.BoardTester
