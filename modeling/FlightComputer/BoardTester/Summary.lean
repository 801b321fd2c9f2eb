import FlightComputer.BoardTester.RunnerResults

/-!
# The summary of a run

`print_test_summary` of `summary.py`, and what the operator reads at the end of a run. Whatever
the runner calls does, a run that returns and has created a report prints its summary once
(twice, with the same content, if the connection of a cancelled run cannot be closed), and the
summary agrees with the report and with the exit code (`summary_agrees_with_report`).

The styles of the texts are left out, and `str.upper` is a parameter.
-/

set_option autoImplicit false

namespace FlightComputer.BoardTester

open Library Raising

/-! ## What is printed -/

/-- `TEST_DISPLAY_NAMES` -/
def testDisplayNames : List (PyStr × PyStr) :=
  [(pyStr "status_led_red", pyStr "Status LED Red"),
    (pyStr "status_led_green", pyStr "Status LED Green"),
    (pyStr "rgb_led", pyStr "RGB LED"),
    (pyStr "imu", pyStr "IMU"),
    (pyStr "barometer", pyStr "Barometer"),
    (pyStr "sd_card", pyStr "SD Card")]

/-- `TEST_DISPLAY_NAMES.get(definition.type, definition.type)` -/
def displayName (definition : TestDefinition) : PyStr :=
  (testDisplayNames.lookup definition.type).getD definition.type

/-- `results_by_type.get(...)`: in the dictionary, a later outcome replaces an earlier one. -/
def statusOf (outcomes : List TestOutcome) (type : PyStr) : Option PyStr :=
  (outcomes.reverse.map fun outcome => (outcome.testType, outcome.status)).lookup type

/-- The rows of the table, `all_passed` and `all_ran`. -/
structure SummaryTable where
  rows : List (PyStr × PyStr)
  allPassed : Bool
  allRan : Bool

/-- The row of one test. -/
def SummaryTable.addRow (upper : PyStr → PyStr) (outcomes : List TestOutcome)
    (table : SummaryTable) (definition : TestDefinition) : SummaryTable :=
  let row (result : PyStr) := table.rows ++ [(displayName definition, result)]
  match statusOf outcomes definition.type with
  | none => ⟨row (pyStr "NOT RUN"), false, false⟩
  | some status =>
      if status = pyStr "passed" then ⟨row (pyStr "PASS"), table.allPassed, table.allRan⟩
      else if status = pyStr "failed" then ⟨row (pyStr "FAIL"), false, table.allRan⟩
      else ⟨row (upper status), false, false⟩

/-- The table, and the label of the full test. -/
structure PrintedSummary where
  rows : List (PyStr × PyStr)
  label : PyStr
  deriving DecidableEq

/-- `print_test_summary` -/
def testSummary (upper : PyStr → PyStr) (definitions : List TestDefinition)
    (outcomes : List TestOutcome) (completed : Bool) : PrintedSummary :=
  let table := definitions.foldl (SummaryTable.addRow upper outcomes) ⟨[], true, true⟩
  { rows := table.rows
    label :=
      if completed && table.allRan then
        if table.allPassed then pyStr "PASS" else pyStr "FAIL"
      else pyStr "NOT COMPLETED" }

/-- The summaries that a run has printed. -/
def RunState.printed {κ : Type} (s : RunState κ) (upper : PyStr → PyStr)
    (configurations : LoadedConfigurations) : List PrintedSummary :=
  s.summaries.map fun summary =>
    testSummary upper configurations.test.enabledTests summary.1 summary.2

/-! ## The rows -/

/-- The text for a status. -/
def shownStatus (upper : PyStr → PyStr) : Option PyStr → PyStr
  | none => pyStr "NOT RUN"
  | some status =>
      if status = pyStr "passed" then pyStr "PASS"
      else if status = pyStr "failed" then pyStr "FAIL"
      else upper status

/-- The tests by their names, the first of them with these statuses, the others not run. -/
def shownRows (upper : PyStr → PyStr) (tests : List TestDefinition) (statuses : List PyStr) :
    List (PyStr × PyStr) :=
  tests.mapIdx fun index definition => (displayName definition, shownStatus upper statuses[index]?)

/-- The test has passed or failed. -/
def HasRun (status : PyStr) : Prop := status = pyStr "passed" ∨ status = pyStr "failed"

instance (status : PyStr) : Decidable (HasRun status) := inferInstanceAs (Decidable (_ ∨ _))

/-- The row of one test, and what it says of all tests. -/
theorem SummaryTable.addRow_eq (upper : PyStr → PyStr) (outcomes : List TestOutcome)
    (table : SummaryTable) (definition : TestDefinition) :
    table.addRow upper outcomes definition =
      { rows := table.rows ++
          [(displayName definition, shownStatus upper (statusOf outcomes definition.type))]
        allPassed := table.allPassed &&
          (statusOf outcomes definition.type).any fun status => decide (status = pyStr "passed")
        allRan := table.allRan &&
          (statusOf outcomes definition.type).any fun status => decide (HasRun status) } := by
  rw [SummaryTable.addRow]
  cases statusOf outcomes definition.type with
  | none => simp [shownStatus]
  | some status =>
      by_cases passed : status = pyStr "passed"
      · simp [shownStatus, passed, HasRun]
      · by_cases failed : status = pyStr "failed"
        · have other : pyStr "failed" ≠ pyStr "passed" := failed ▸ passed
          simp [shownStatus, failed, other, HasRun]
        · simp [shownStatus, passed, failed, HasRun]

/-- **The whole table.** -/
theorem foldl_addRow (upper : PyStr → PyStr) (outcomes : List TestOutcome)
    (definitions : List TestDefinition) (table : SummaryTable) :
    definitions.foldl (SummaryTable.addRow upper outcomes) table =
      { rows := table.rows ++ definitions.map fun definition =>
          (displayName definition, shownStatus upper (statusOf outcomes definition.type))
        allPassed := table.allPassed && definitions.all fun definition =>
          (statusOf outcomes definition.type).any fun status => decide (status = pyStr "passed")
        allRan := table.allRan && definitions.all fun definition =>
          (statusOf outcomes definition.type).any fun status => decide (HasRun status) } := by
  induction definitions generalizing table with
  | nil => simp
  | cons definition definitions ih =>
      rw [List.foldl_cons, ih, SummaryTable.addRow_eq]
      simp [Bool.and_assoc]

/-- The first outcome is found, unless a later one is of the same type. -/
theorem statusOf_cons (outcome : TestOutcome) (outcomes : List TestOutcome) (type : PyStr) :
    statusOf (outcome :: outcomes) type =
      (statusOf outcomes type).or (if type = outcome.testType then some outcome.status else none) := by
  rw [statusOf, statusOf, List.reverse_cons, List.map_append, List.lookup_append]
  congr 1
  by_cases same : type = outcome.testType
  · rw [if_pos same, same]
    simp
  · rw [if_neg same]
    simp [same]

/-- A test without an outcome has no status. -/
theorem statusOf_eq_none {outcomes : List TestOutcome} {type : PyStr}
    (absent : type ∉ outcomes.map TestOutcome.testType) : statusOf outcomes type = none := by
  induction outcomes with
  | nil => rfl
  | cons outcome outcomes ih =>
      obtain ⟨other, absent⟩ := not_or.mp (List.mem_cons.not.mp absent)
      rw [statusOf_cons, ih absent, if_neg other]
      rfl

/-- **The status of a test**, if the outcomes are those of the first tests. -/
theorem statusOf_getElem {tests : List TestDefinition} {outcomes : List TestOutcome}
    (order : outcomes.map TestOutcome.testType <+: tests.map TestDefinition.type)
    (distinct : (tests.map TestDefinition.type).Nodup) (index : Nat)
    (inside : index < tests.length) :
    statusOf outcomes tests[index].type = (outcomes.map TestOutcome.status)[index]? := by
  induction tests generalizing outcomes index with
  | nil => exact absurd inside (Nat.not_lt_zero index)
  | cons definition tests ih =>
      obtain ⟨new, distinct⟩ := List.nodup_cons.mp distinct
      cases outcomes with
      | nil => rfl
      | cons outcome outcomes =>
          obtain ⟨same, order⟩ := List.cons_prefix_cons.mp order
          have first : outcome.testType = definition.type := same
          cases index with
          | zero =>
              have missing : definition.type ∉ outcomes.map TestOutcome.testType :=
                fun listed => new (order.subset listed)
              rw [List.getElem_cons_zero, statusOf_cons, statusOf_eq_none missing,
                if_pos first.symm]
              rfl
          | succ index =>
              have inside : index < tests.length := Nat.lt_of_succ_lt_succ inside
              have differs : tests[index].type ≠ outcome.testType := fun equal =>
                new (first ▸ equal ▸ List.mem_map_of_mem (List.getElem_mem inside))
              rw [List.getElem_cons_succ, statusOf_cons, if_neg differs, Option.or_none,
                ih order distinct index inside]
              rfl

/-- Every test has a status of a kind, if there are as many outcomes as tests and each is of
this kind. -/
theorem all_statusOf_iff {tests : List TestDefinition} {outcomes : List TestOutcome}
    (order : outcomes.map TestOutcome.testType <+: tests.map TestDefinition.type)
    (distinct : (tests.map TestDefinition.type).Nodup) (kind : PyStr → Prop) [DecidablePred kind] :
    (tests.all fun definition =>
        (statusOf outcomes definition.type).any fun status => decide (kind status)) = true ↔
      outcomes.length = tests.length ∧ ∀ outcome ∈ outcomes, kind outcome.status := by
  have short : outcomes.length ≤ tests.length := by
    have le := order.length_le
    rwa [List.length_map, List.length_map] at le
  rw [List.all_eq_true]
  constructor
  · intro all
    have each : ∀ index (inside : index < tests.length), ∃ outcome,
        outcomes[index]? = some outcome ∧ kind outcome.status := by
      intro index inside
      have some_kind := all _ (List.getElem_mem inside)
      rw [statusOf_getElem order distinct index inside, List.getElem?_map] at some_kind
      cases found : outcomes[index]? with
      | none =>
          rw [found] at some_kind
          exact absurd some_kind Bool.false_ne_true
      | some outcome =>
          rw [found] at some_kind
          exact ⟨outcome, rfl, of_decide_eq_true some_kind⟩
    refine ⟨short.antisymm (Nat.le_of_not_lt fun fewer => ?_), fun outcome listed => ?_⟩
    · obtain ⟨_, found, _⟩ := each outcomes.length fewer
      rw [List.getElem?_eq_none (Nat.le_refl _)] at found
      exact absurd found.symm (Option.some_ne_none _)
    · obtain ⟨index, found⟩ := List.mem_iff_getElem?.mp listed
      obtain ⟨inside, _⟩ := List.getElem?_eq_some_iff.mp found
      obtain ⟨_, same, holds⟩ := each index (Nat.lt_of_lt_of_le inside short)
      obtain rfl := Option.some.inj (found.symm.trans same)
      exact holds
  · rintro ⟨length, all⟩ definition listed
    obtain ⟨index, inside, rfl⟩ := List.getElem_of_mem listed
    have within : index < outcomes.length := length ▸ inside
    rw [statusOf_getElem order distinct index inside, List.getElem?_map,
      List.getElem?_eq_getElem within]
    exact decide_eq_true (all _ (List.getElem_mem within))

/-- **The summary of the first tests.** -/
theorem testSummary_eq (upper : PyStr → PyStr) {tests : List TestDefinition}
    {outcomes : List TestOutcome}
    (order : outcomes.map TestOutcome.testType <+: tests.map TestDefinition.type)
    (distinct : (tests.map TestDefinition.type).Nodup) (completed : Bool) :
    testSummary upper tests outcomes completed =
      { rows := shownRows upper tests (outcomes.map TestOutcome.status)
        label :=
          if completed = true ∧ outcomes.length = tests.length ∧
              ∀ outcome ∈ outcomes, HasRun outcome.status then
            if ∀ outcome ∈ outcomes, outcome.status = pyStr "passed" then pyStr "PASS"
            else pyStr "FAIL"
          else pyStr "NOT COMPLETED" } := by
  rw [testSummary, foldl_addRow]
  refine PrintedSummary.mk.injEq .. |>.mpr ⟨?_, ?_⟩
  · refine List.ext_getElem ?_ fun index inside _ => ?_
    · simp [shownRows]
    · have inside : index < tests.length := by simpa using inside
      simp [shownRows, statusOf_getElem order distinct index inside]
  · have ran := all_statusOf_iff order distinct HasRun
    have passed := all_statusOf_iff order distinct fun status => status = pyStr "passed"
    by_cases all : completed = true ∧ outcomes.length = tests.length ∧
        ∀ outcome ∈ outcomes, HasRun outcome.status
    · rw [if_pos all]
      refine (if_pos (Bool.and_eq_true_iff.mpr ⟨all.1, ran.mpr all.2⟩)).trans ?_
      exact if_congr (passed.trans (and_iff_right all.2.1)) rfl rfl
    · rw [if_neg all]
      refine if_neg fun both => all ?_
      obtain ⟨done, rest⟩ := Bool.and_eq_true_iff.mp both
      exact ⟨done, ran.mp rest⟩

/-! ## The outcomes and the report -/

/-- An outcome, as the report tells it. -/
def TestOutcome.summary (outcome : TestOutcome) : PyStr × PyStr :=
  (outcome.testType, outcome.status)

section Runs

variable {κ : Type}

/-- **The outcomes follow the report**: they are its results, and some that could not be
recorded, and they are those of the first tests. -/
structure Follows (tests later : List TestDefinition) (unrecorded : List TestOutcome)
    (report : Report) (s : RunState κ) : Prop where
  reportCreated : s.reportCreated = true
  current : s.file.current = some report
  outcomes : s.outcomes.map TestOutcome.summary =
    report.results.map ReportResult.summary ++ unrecorded.map TestOutcome.summary
  order : s.outcomes.map TestOutcome.testType ++ later.map TestDefinition.type =
    tests.map TestDefinition.type

/-- No report has been created, and nothing has been printed. -/
structure Unreported (s : RunState κ) : Prop where
  reportCreated : s.reportCreated = false
  current : s.file.current = none
  outcomes : s.outcomes = []
  summaries : s.summaries = []
  completed : s.componentRunCompleted = false

/-- Between two tests. -/
structure Proceeding (tests later : List TestDefinition) (s : RunState κ) : Prop where
  follows : ∃ report, Follows tests later [] report s ∧ report.IsOpen
  summaries : s.summaries = []
  completed : s.componentRunCompleted = false
  validated : s.validation.any SessionValidation.passed = true

/-- The latest result of the report. -/
def LatestResult (result : ReportResult) (s : RunState κ) : Prop :=
  ∃ report, s.file.current = some report ∧ report.results.getLast? = some result

/-- **The operator has cancelled the run**: the latest handler has been interrupted, and the
report ends with its test, as stopped. -/
def Cancelled (s : RunState κ) : Prop :=
  ∃ definition details, s.handled.getLast? = some (definition, .error .keyboardInterrupt) ∧
    LatestResult ⟨definition.type, pyStr "stopped", details⟩ s

/-- **The connection could not be closed**: closing it has raised an exception. -/
def Unclosed (workflows : RunnerWorkflows κ) (s : RunState κ) : Prop :=
  ∃ session error, workflows.closeConnection session = some (.error error, s.session)

/-- **How the body of the `with` statement leaves the outcomes, the report and the summaries.** -/
inductive BodyOutcome (tests : List TestDefinition) (t : RunState κ) :
    Except TesterError (Option Nat) → Prop where
  | unreported {error : TesterError} (unreported : Unreported t) :
      BodyOutcome tests t (.error error)
  | stopped {error : TesterError} {later : List TestDefinition} {unrecorded : List TestOutcome}
      {report : Report} (follows : Follows tests later unrecorded report t)
      (few : unrecorded.length ≤ 1) (summaries : t.summaries = []) :
      BodyOutcome tests t (.error error)
  | invalid {report : Report} (follows : Follows tests tests [] report t)
      (summaries : t.summaries = []) (completed : t.componentRunCompleted = false)
      (validated : t.validation.any SessionValidation.passed = false) :
      BodyOutcome tests t (.ok none)
  | finished {report : Report} (follows : Follows tests [] [] report t)
      (summaries : t.summaries = []) (completed : t.componentRunCompleted = true)
      (validated : t.validation.any SessionValidation.passed = true)
      (status : report.status =
        if AllPassed report.results then pyStr "passed" else pyStr "failed") :
      BodyOutcome tests t (.ok none)
  | cancelled {later : List TestDefinition} {report : Report}
      (follows : Follows tests later [] report t)
      (summaries : t.summaries = [(t.outcomes, false)]) (cancelled : Cancelled t) :
      BodyOutcome tests t (.ok (some 130))

variable {workflows : RunnerWorkflows κ} {tests later : List TestDefinition}
  {definition : TestDefinition} {configurations : LoadedConfigurations}

/-- **A call of a workflow** changes nothing that is printed. -/
theorem keeps_onSession {α : Type} {P : RunState κ → Prop}
    (keeps : ∀ s session, P s → P { s with session := session }) (call : Raising TesterError κ α) :
    Triple P (onSession call) (fun _ => P) fun error t =>
      P t ∧ ∃ session, call session = some (.error error, t.session) := by
  have any : Triple (fun _ => True) call (fun _ _ => True) fun error t =>
      ∃ session, call session = some (.error error, t) := by
    intro session result t _ called
    cases result with
    | ok _ => trivial
    | error _ => exact ⟨session, called⟩
  exact Triple.within any (fun _ _ => trivial) (fun s session _ holds _ => keeps s session holds)
    fun s session _ holds raised => ⟨keeps s session holds, raised⟩

theorem Follows.congr {unrecorded : List TestOutcome} {report : Report} {s t : RunState κ}
    (follows : Follows tests later unrecorded report s) (created : t.reportCreated = s.reportCreated)
    (file : t.file.current = s.file.current) (outcomes : t.outcomes = s.outcomes) :
    Follows tests later unrecorded report t :=
  ⟨created.trans follows.reportCreated, file.trans follows.current, outcomes ▸ follows.outcomes,
    outcomes ▸ follows.order⟩

/-- A call of a workflow keeps what is between two tests. -/
theorem Proceeding.onSession {s : RunState κ} (proceeding : Proceeding tests later s)
    (session : κ) : Proceeding tests later { s with session := session } := by
  obtain ⟨report, follows, isOpen⟩ := proceeding.follows
  exact ⟨⟨report, follows.congr rfl rfl rfl, isOpen⟩, proceeding.summaries, proceeding.completed,
    proceeding.validated⟩

/-- The handler of the next test has come to this, and nothing of it has been recorded. -/
structure HandlerEnded (tests : List TestDefinition) (definition : TestDefinition)
    (later : List TestDefinition) (ended : HandlerEnd) (s : RunState κ) : Prop where
  proceeding : Proceeding tests (definition :: later) s
  latest : s.handled.getLast? = some (definition, ended)

theorem HandlerEnded.onSession {ended : HandlerEnd} {s : RunState κ}
    (handled : HandlerEnded tests definition later ended s) (session : κ) :
    HandlerEnded tests definition later ended { s with session := session } :=
  ⟨handled.proceeding.onSession session, handled.latest⟩

theorem Unreported.onSession {s : RunState κ} (unreported : Unreported s) (session : κ) :
    Unreported { s with session := session } :=
  ⟨unreported.1, unreported.2, unreported.3, unreported.4, unreported.5⟩

/-- The exchanges before there is a report, one after another. -/
theorem triple_onSession_of_unreported {α : Type} {s : RunState κ} (before : Unreported s)
    {call : Raising TesterError κ α} :
    Triple (fun x => x = s) (onSession call) (fun _ => Unreported) fun _ => Unreported := by
  have keeps := keeps_onSession (P := Unreported)
    (fun _ session holds => holds.onSession session) call
  exact keeps.mono (fun _ same => same ▸ before) (fun _ _ holds => holds) fun _ _ both => both.1

/-- A call of a workflow keeps how the body has ended. -/
theorem BodyOutcome.onSession {result : Except TesterError (Option Nat)} {t : RunState κ}
    (ended : BodyOutcome tests t result) (session : κ) :
    BodyOutcome tests { t with session := session } result := by
  cases ended with
  | unreported unreported => exact .unreported (unreported.onSession session)
  | stopped follows few summaries => exact .stopped (follows.congr rfl rfl rfl) few summaries
  | invalid follows summaries completed validated =>
      exact .invalid (follows.congr rfl rfl rfl) summaries completed validated
  | finished follows summaries completed validated status =>
      exact .finished (follows.congr rfl rfl rfl) summaries completed validated status
  | cancelled follows summaries cancelled =>
      exact .cancelled (follows.congr rfl rfl rfl) summaries cancelled

/-- Between two tests, an exception stops the run. -/
theorem Proceeding.stopped {s : RunState κ} (proceeding : Proceeding tests later s)
    (error : TesterError) : BodyOutcome tests s (.error error) := by
  obtain ⟨report, follows, _⟩ := proceeding.follows
  exact .stopped follows (Nat.zero_le 1) proceeding.summaries

/-- The content of the file after an update. -/
theorem ReportFile.current_update (change : Report → Option Report) (file : ReportFile) :
    (file.update change).current = (file.current.bind change).or file.current := by
  rw [ReportFile.update]
  cases file.current.bind change with
  | none => rfl
  | some report => exact List.getLast?_concat

/-- **A result is recorded**, or the report stays as it is. -/
theorem triple_recordComponentResult (result : ReportResult) (file : ReportFile) :
    Triple (fun x => x = file) (recordComponentResult result)
      (fun _ t => t.current = file.current.map (Report.withResult result))
      (fun _ t => t.current = file.current) := by
  refine Triple.ite (fun _ => .throw ?_) fun _ => ?_
  · rintro _ rfl
    rfl
  · refine (triple_updateReport _ file).mono (fun _ same => same) ?_ ?_
    · rintro _ _ ⟨_, rfl⟩
      rw [ReportFile.current_update]
      show (file.current.bind _).or file.current = _
      cases file.current with
      | none => rfl
      | some report => rfl
    · rintro _ _ ⟨_, rfl, _⟩
      rfl

/-- **An outcome is remembered and recorded**, or it is only remembered. -/
theorem Proceeding.recordOutcome (status : PyStr) (details : ResultDetails) {s : RunState κ}
    (before : Proceeding tests (definition :: later) s) :
    Triple (fun x => x = s) (recordOutcome definition status details)
      (fun _ t => Proceeding tests later t ∧ t.handled = s.handled ∧
        LatestResult ⟨definition.type, status, details⟩ t)
      (fun error t => BodyOutcome tests t (.error error)) := by
  obtain ⟨report, ⟨created, current, outcomes, order⟩, isOpen⟩ := before.follows
  rw [List.map_nil, List.append_nil] at outcomes
  have remembered : (s.remembered definition status).outcomes.map TestOutcome.summary =
      report.results.map ReportResult.summary ++ [(definition.type, status)] := by
    rw [← outcomes]
    exact List.map_append
  have order' : (s.remembered definition status).outcomes.map TestOutcome.testType ++
      later.map TestDefinition.type = tests.map TestDefinition.type := by
    rw [← order, List.map_cons, List.append_cons]
    exact congrArg (· ++ later.map TestDefinition.type) List.map_append
  refine Triple.bind (M := fun _ t => t = s.remembered definition status) (.change ?_) fun _ =>
    Triple.within (triple_recordComponentResult ⟨definition.type, status, details⟩ s.file) ?_ ?_ ?_
  · rintro _ rfl
    rfl
  · rintro _ rfl
    rfl
  · rintro _ file _ rfl recorded
    rw [current] at recorded
    refine ⟨⟨⟨_, ⟨created, recorded, ?_, order'⟩, isOpen.withResult _⟩, before.summaries,
      before.completed, before.validated⟩, rfl, _, recorded, List.getLast?_concat⟩
    rw [List.map_nil, List.append_nil]
    have results : (report.withResult ⟨definition.type, status, details⟩).results.map
        ReportResult.summary = report.results.map ReportResult.summary ++
          [(definition.type, status)] := List.map_append
    exact remembered.trans results.symm
  · rintro _ file _ rfl unchanged
    have follows : Follows tests later [⟨definition.type, status⟩] report
        { s.remembered definition status with file := file } :=
      ⟨created, unchanged.trans current, remembered, order'⟩
    exact .stopped follows (Nat.le_refl 1) before.summaries

/-- **The branch for a `KeyboardInterrupt`** prints a summary. -/
theorem HandlerEnded.cancelTest (commandId : Int) {s : RunState κ}
    (before : HandlerEnded tests definition later (.error .keyboardInterrupt) s) :
    Triple (fun x => x = s) (cancelTest workflows definition commandId)
      (fun code t => ∃ exit, code = some exit ∧ BodyOutcome tests t (.ok (some exit)))
      (fun error t => BodyOutcome tests t (.error error)) := by
  refine Triple.bind (M := fun _ => HandlerEnded tests definition later (.error .keyboardInterrupt))
    ((Triple.attempt (keeps_onSession (fun _ session holds => holds.onSession session) _)).mono
      (fun _ same => same ▸ before) ?_ fun _ _ never => never.elim) fun stopped => ?_
  · intro stopped t kept
    cases stopped with
    | ok _ => exact kept
    | error _ => exact kept.1
  refine Triple.bind (M := fun _ => HandlerEnded tests definition later (.error .keyboardInterrupt))
    ?_ fun unacknowledged => Triple.of_state fun middle ⟨proceeding, interrupted⟩ => ?_
  · cases stopped with
    | ok _ => exact .pure fun _ holds => holds
    | error error =>
        exact Triple.ite (fun _ => .pure fun _ holds => holds) fun _ =>
          .throw fun _ holds => holds.proceeding.stopped error
  refine Triple.bind (proceeding.recordOutcome _ _) fun _ => ?_
  refine Triple.bind (M := fun _ t => BodyOutcome tests t (.ok (some 130))) (.change ?_) fun _ =>
    .pure fun _ ended => ⟨130, rfl, ended⟩
  intro t ⟨recorded, same, latest⟩
  obtain ⟨report, follows, _⟩ := recorded.follows
  refine .cancelled (follows.congr rfl rfl rfl) ?_ ⟨definition, _, same ▸ interrupted, latest⟩
  show t.summaries ++ [(t.outcomes, false)] = _
  rw [recorded.summaries]
  rfl

/-- **One test.** -/
theorem Proceeding.runComponent (commandId : Int) {s : RunState κ}
    (before : Proceeding tests (definition :: later) s) :
    Triple (fun x => x = s) (runComponent workflows definition commandId)
      (fun code t => (code = none ∧ Proceeding tests later t) ∨
        ∃ exit, code = some exit ∧ BodyOutcome tests t (.ok (some exit)))
      (fun error t => BodyOutcome tests t (.error error)) := by
  have handled : Triple (fun x => x = s) (handle workflows definition commandId)
      (HandlerEnded tests definition later) (fun _ _ => False) := by
    refine Triple.bind (M := fun _ => Proceeding tests (definition :: later))
      ((Triple.attempt (keeps_onSession (fun _ session holds => holds.onSession session) _)).mono
        (fun _ same => same ▸ before) ?_ fun _ _ never => never) fun ended =>
      Triple.bind (M := fun _ => HandlerEnded tests definition later ended) (.change ?_)
        fun _ => .pure fun _ holds => holds
    · intro ended t kept
      cases ended with
      | ok _ => exact kept
      | error _ => exact kept.1
    · intro t kept
      obtain ⟨report, follows, isOpen⟩ := kept.follows
      exact ⟨⟨⟨report, follows.congr rfl rfl rfl, isOpen⟩, kept.summaries, kept.completed,
        kept.validated⟩, List.getLast?_concat⟩
  refine Triple.bind (handled.mono (fun _ same => same) (fun _ _ holds => holds)
    fun _ _ never => never.elim) fun ended => Triple.of_state fun middle handled => ?_
  cases ended with
  | ok result =>
      refine Triple.bind (handled.proceeding.recordOutcome _ _) fun _ => .pure fun _ holds => ?_
      exact .inl ⟨rfl, holds.1⟩
  | error error =>
      refine Triple.ite (fun _ => ?_) fun _ => Triple.ite (fun interrupted => ?_) fun _ => .throw ?_
      · exact Triple.bind (handled.proceeding.recordOutcome _ _) fun _ => .throw fun _ holds =>
          holds.1.stopped error
      · obtain rfl := interrupted
        exact (handled.cancelTest commandId).mono (fun _ same => same)
          (fun _ _ holds => .inr holds) fun _ _ holds => holds
      · rintro _ rfl
        exact handled.proceeding.stopped error

/-- **The loop over the enabled tests.** -/
theorem Proceeding.runComponents (commandId : Int) {s : RunState κ}
    (before : Proceeding tests later s) :
    Triple (fun x => x = s) (runComponents workflows commandId later)
      (fun code t => (code = none ∧ Proceeding tests [] t) ∨
        ∃ exit, code = some exit ∧ BodyOutcome tests t (.ok (some exit)))
      (fun error t => BodyOutcome tests t (.error error)) := by
  induction later generalizing commandId s with
  | nil =>
      refine .pure ?_
      rintro _ rfl
      exact .inl ⟨rfl, before⟩
  | cons definition later ih =>
      refine Triple.bind (before.runComponent commandId) fun code => Triple.of_state ?_
      rintro t (⟨rfl, proceeding⟩ | ⟨exit, rfl, ended⟩)
      · exact ih (commandId + 1) proceeding
      · refine .pure ?_
        rintro _ rfl
        exact .inr ⟨exit, rfl, ended⟩

/-- **The report is finalized** once all tests have been handled. -/
theorem Proceeding.finalize {s : RunState κ} (before : Proceeding tests [] s) :
    Triple (fun x => x = s)
      (do
        onFile finalizeComponentRun
        modify fun s => { s with componentRunCompleted := true }
        pure none : RunnerCall κ (Option Nat))
      (fun code t => BodyOutcome tests t (.ok code))
      (fun error t => BodyOutcome tests t (.error error)) := by
  refine Triple.bind (triple_onFile_update finalizedReport s |>.mono (fun _ same => same)
    (fun _ _ holds => holds) ?_) fun _ => Triple.bind (M := fun _ t =>
      BodyOutcome tests t (.ok none)) (.change ?_) fun _ => .pure fun _ holds => holds
  · rintro error _ ⟨_, rfl, _⟩
    obtain ⟨report, follows, _⟩ := before.follows
    exact .stopped (follows.congr rfl rfl rfl) (Nat.zero_le 1) before.summaries
  · rintro _ ⟨_, rfl⟩
    obtain ⟨report, ⟨created, current, outcomes, order⟩, isOpen⟩ := before.follows
    have file : (s.updated finalizedReport).file.current =
        (finalizedReport report).or (some report) := by
      refine (ReportFile.current_update _ _).trans ?_
      show (s.file.current.bind _).or s.file.current = _
      rw [current]
      rfl
    rw [finalizedReport_eq] at file
    by_cases passed : AllPassed report.results
    · rw [if_pos passed] at file
      have follows : Follows tests [] [] { report with status := pyStr "passed" }
          (s.updated finalizedReport) := ⟨created, file, outcomes, order⟩
      exact .finished (follows.congr rfl rfl rfl) before.summaries rfl before.validated
        (if_pos passed).symm
    · rw [if_neg passed] at file
      have follows : Follows tests [] [] report (s.updated finalizedReport) :=
        ⟨created, file, outcomes, order⟩
      refine .finished (follows.congr rfl rfl rfl) before.summaries rfl before.validated ?_
      rw [isOpen, if_neg passed, if_neg passed]

/-- **The body of the `with` statement.** -/
theorem Unreported.connectedRun {s : RunState κ} (before : Unreported s) :
    Triple (fun x => x = s) (connectedRun workflows configurations)
      (fun code t => BodyOutcome configurations.test.enabledTests t (.ok code))
      (fun error t => BodyOutcome configurations.test.enabledTests t (.error error)) := by
  refine Triple.bind ((triple_onSession_of_unreported before).mono (fun _ same => same)
    (fun _ _ holds => holds) fun _ _ holds => .unreported holds) fun response =>
      Triple.of_state fun s before => ?_
  refine Triple.bind (M := fun _ t =>
      t = { s with file := s.file.write (initialReport configurations response) })
    (Triple.within (triple_createInitialReport response s.file) ?_ ?_ ?_) fun _ => ?_
  · rintro _ rfl
    rfl
  · rintro _ file value rfl ⟨_, rfl⟩
    rfl
  · rintro _ file error rfl ⟨_, rfl, _⟩
    exact .unreported before
  refine Triple.bind (M := fun _ t => t =
      { s with
        file := s.file.write (initialReport configurations response)
        reportCreated := true })
    (.change fun t same => by rw [same]) fun _ => ?_
  refine Triple.bind (M := fun _ t => t = s.begun configurations response s.session)
    (.change fun t same => by rw [same]; rfl) fun _ => ?_
  have written : (s.begun configurations response s.session).file.current =
      some (initialReport configurations response) := List.getLast?_concat
  have started : ∀ (t : RunState κ) (report : Report), t.reportCreated = true →
      t.file.current = some report → t.outcomes = s.outcomes → report.results = [] →
      Follows configurations.test.enabledTests configurations.test.enabledTests [] report t := by
    intro t report created current outcomes none
    refine ⟨created, current, ?_, ?_⟩
    · rw [outcomes, before.outcomes, none]
      rfl
    · rw [outcomes, before.outcomes]
      rfl
  refine Triple.bind ((triple_onFile_update _ (s.begun configurations response s.session)).mono
    (fun _ same => same) (fun _ _ holds => holds) ?_) fun _ => Triple.of_state ?_
  · rintro error _ ⟨_, rfl, _⟩
    exact .stopped (started _ _ rfl written rfl rfl) (Nat.zero_le 1) before.summaries
  rintro _ ⟨_, rfl⟩
  have current : ((s.begun configurations response s.session).updated fun report =>
      some (validatedReport (validateSession configurations response) report)).file.current =
      some (validatedReport (validateSession configurations response)
        (initialReport configurations response)) := by
    refine (ReportFile.current_update _ _).trans ?_
    show ((s.begun configurations response s.session).file.current.bind _).or
      (s.begun configurations response s.session).file.current = _
    rw [written]
    rfl
  have nothing : (validatedReport (validateSession configurations response)
      (initialReport configurations response)).results = [] := by
    rw [validatedReport]
    split_ifs
    · rfl
    · rfl
  refine Triple.ite (fun passed => ?_) fun invalid => .pure ?_
  · have proceeding : Proceeding configurations.test.enabledTests configurations.test.enabledTests
        ((s.begun configurations response s.session).updated fun report =>
          some (validatedReport (validateSession configurations response) report)) := by
      refine ⟨⟨_, started _ _ rfl current rfl nothing, ?_⟩, before.summaries, before.completed,
        passed⟩
      rw [validatedReport, if_pos passed]
      exact (if_pos fun _ listed => absurd listed List.not_mem_nil).symm
    refine Triple.bind (proceeding.runComponents 2) fun code => Triple.of_state ?_
    rintro t (⟨rfl, last⟩ | ⟨exit, rfl, ended⟩)
    · exact last.finalize
    · refine .pure ?_
      rintro _ rfl
      exact ended
  · rintro _ rfl
    exact .invalid (started _ _ rfl current rfl nothing) before.summaries before.completed
      (Bool.eq_false_iff.mpr invalid)

/-! ## The whole run -/

/-- **The `with` statement.** A connection that cannot be closed raises an exception whatever
the body has come to. -/
theorem Unreported.withConnection {s : RunState κ} (before : Unreported s) :
    Triple (fun x => x = s) (withConnection workflows configurations)
      (fun code t => BodyOutcome configurations.test.enabledTests t (.ok code))
      (fun _ t => ∃ result, BodyOutcome configurations.test.enabledTests t result ∧
        ∀ value, result = .ok value → Unclosed workflows t) := by
  refine Triple.bind ((triple_onSession_of_unreported before).mono (fun _ same => same)
    (fun _ _ holds => holds) fun error _ holds =>
      ⟨.error error, .unreported holds, fun _ ok => nomatch ok⟩) fun _ =>
      Triple.of_state fun s before => ?_
  refine Triple.ensuring before.connectedRun fun result => ?_
  refine (keeps_onSession (P := fun t => BodyOutcome configurations.test.enabledTests t result)
    (fun _ session ended => ended.onSession session) _).mono ?_ ?_ fun error _ both =>
      ⟨result, both.1, fun _ _ => ⟨_, error, both.2.choose_spec⟩⟩
  · intro t ended
    cases result with
    | ok _ => exact ended
    | error _ => exact ended
  · intro _ t ended
    cases result with
    | ok _ => exact ended
    | error _ => exact ⟨_, ended, fun _ ok => nomatch ok⟩

/-- **What has been printed** when a run has returned. -/
inductive Summarized (workflows : RunnerWorkflows κ) (tests : List TestDefinition) (code : Nat)
    (t : RunState κ) : Prop where
  | silent (current : t.file.current = none) (summaries : t.summaries = []) (failed : code = 1) :
      Summarized workflows tests code t
  | printed {later : List TestDefinition} {unrecorded : List TestOutcome} {report : Report}
      (follows : Follows tests later unrecorded report t) (few : unrecorded.length ≤ 1)
      (recorded : code ≠ 1 → unrecorded = [])
      (summaries : t.summaries = [(t.outcomes, decide (code = 0))] ∨
        code = 1 ∧ Cancelled t ∧ Unclosed workflows t ∧
          t.summaries = [(t.outcomes, false), (t.outcomes, false)])
      (finished : code = 0 → later = [] ∧
        report.status = if AllPassed report.results then pyStr "passed" else pyStr "failed") :
      Summarized workflows tests code t

/-- **The summary of a run that an exception has ended.** -/
theorem BodyOutcome.summarizeFailure {result : Except TesterError (Option Nat)} {s : RunState κ}
    (ended : BodyOutcome tests s result)
    (unclosed : ∀ value, result = .ok value → Unclosed workflows s) :
    Triple (fun x => x = s)
      (do
        summarizeFailure
        pure 1 : RunnerCall κ Nat)
      (fun code => Summarized workflows tests code) (fun _ _ => True) := by
  refine Triple.bind (M := fun _ => Summarized workflows tests 1) ?_ fun _ =>
    .pure fun _ holds => holds
  refine Triple.bind (M := fun seen t => seen = s ∧ t = s) (.get fun _ same => ⟨same, same⟩)
    fun seen => Triple.ite (fun created => .change ?_) fun uncreated => .pure ?_
  · rintro last ⟨rfl, rfl⟩
    have one : ∀ {later : List TestDefinition} {unrecorded : List TestOutcome} {report : Report},
        Follows tests later unrecorded report last → unrecorded.length ≤ 1 →
        last.summaries = [] →
        Summarized workflows tests 1
          { last with summaries := last.summaries ++ [(last.outcomes, false)] } := by
      intro later unrecorded report follows few none
      refine .printed (follows.congr rfl rfl rfl) few (fun other => absurd rfl other) (.inl ?_)
        fun zero => absurd zero Nat.one_ne_zero
      show last.summaries ++ [(last.outcomes, false)] = _
      rw [none]
      rfl
    cases ended with
    | unreported unreported =>
        exact absurd (created.symm.trans unreported.reportCreated) Bool.noConfusion
    | stopped follows few summaries => exact one follows few summaries
    | invalid follows summaries => exact one follows (Nat.zero_le 1) summaries
    | finished follows summaries => exact one follows (Nat.zero_le 1) summaries
    | cancelled follows summaries cancelled =>
        refine .printed (follows.congr rfl rfl rfl) (Nat.zero_le 1) (fun _ => rfl)
          (.inr ⟨rfl, cancelled, unclosed _ rfl, ?_⟩) fun zero => absurd zero Nat.one_ne_zero
        show last.summaries ++ [(last.outcomes, false)] = _
        rw [summaries]
        rfl
  · rintro _ ⟨rfl, rfl⟩
    cases ended with
    | unreported unreported => exact .silent unreported.current unreported.summaries rfl
    | stopped follows => exact absurd follows.reportCreated uncreated
    | invalid follows => exact absurd follows.reportCreated uncreated
    | finished follows => exact absurd follows.reportCreated uncreated
    | cancelled follows => exact absurd follows.reportCreated uncreated

/-- **The summary of a run whose body has ended.** -/
theorem BodyOutcome.concludeRun {s : RunState κ} (ended : BodyOutcome tests s (.ok none)) :
    Triple (fun x => x = s) concludeRun (fun code => Summarized workflows tests code)
      fun _ _ => True := by
  refine Triple.bind (M := fun seen t => seen = s ∧ t = s) (.get fun _ same => ⟨same, same⟩)
    fun seen => Triple.of_state ?_
  rintro last ⟨rfl, rfl⟩
  cases validated : last.validation with
  | none => exact .throw fun _ _ => trivial
  | some validation =>
      refine Triple.bind (M := fun now t => now = last ∧ t = last)
        (.get fun _ same => ⟨same, same⟩) fun now => ?_
      refine Triple.bind (M := fun _ t => t =
        { last with summaries := last.summaries ++ [(last.outcomes, last.componentRunCompleted)] })
        (.change ?_) fun _ => ?_
      · rintro _ ⟨rfl, rfl⟩
        rfl
      cases ended with
      | invalid follows summaries completed invalid =>
          rw [validated] at invalid
          refine Triple.ite (fun passed => absurd passed (Bool.eq_false_iff.mp invalid))
            fun _ => .pure ?_
          rintro _ rfl
          refine .printed (follows.congr rfl rfl rfl) (Nat.zero_le 1) (fun _ => rfl) (.inl ?_)
            fun zero => absurd zero Nat.one_ne_zero
          show last.summaries ++ [(last.outcomes, last.componentRunCompleted)] = _
          rw [summaries, completed]
          rfl
      | finished follows summaries completed valid status =>
          rw [validated] at valid
          refine Triple.ite (fun _ => .pure ?_) fun invalid => absurd valid invalid
          rintro _ rfl
          refine .printed (follows.congr rfl rfl rfl) (Nat.zero_le 1) (fun _ => rfl) (.inl ?_)
            fun _ => ⟨rfl, status⟩
          show last.summaries ++ [(last.outcomes, last.componentRunCompleted)] = _
          rw [summaries, completed]
          rfl

/-- **A run**, whatever the workflows do. -/
theorem Unreported.run {s : RunState κ} (before : Unreported s) :
    Triple (fun x => x = s) (run workflows (.ok configurations) (.ok ()))
      (fun code => Summarized workflows configurations.test.enabledTests code)
      fun _ _ => True := by
  refine Triple.bind ((Triple.attempt before.withConnection).mono (fun _ same => same)
    (fun _ _ holds => holds) fun _ _ never => never.elim) fun result => ?_
  cases result with
  | error error =>
      refine Triple.of_state ?_
      rintro t ⟨result, ended, unclosed⟩
      exact Triple.ite (fun _ => ended.summarizeFailure unclosed) fun _ =>
        .throw fun _ _ => trivial
  | ok code =>
      refine Triple.of_state fun t ended => ?_
      cases code with
      | none => exact ended.concludeRun
      | some code =>
          refine .pure ?_
          rintro _ rfl
          cases ended with
          | cancelled follows summaries _ =>
              exact .printed follows (Nat.zero_le 1) (fun _ => rfl) (.inl summaries)
                fun zero => absurd zero (by decide)

/-! ## The summary and the report -/

/-- **What a summary says** of the report and of the exit code: its rows are the results of the
report, then at most one that could not be recorded, and the label is PASS or FAIL only for a
completed run. -/
structure PrintedSummary.Agrees (upper : PyStr → PyStr) (tests : List TestDefinition)
    (report : Report) (code : Nat) (summary : PrintedSummary) : Prop where
  order : report.results.map ReportResult.type <+: tests.map TestDefinition.type
  rows : ∃ unrecorded : List PyStr, unrecorded.length ≤ 1 ∧ (code ≠ 1 → unrecorded = []) ∧
    summary.rows =
      shownRows upper tests (report.results.map ReportResult.status ++ unrecorded)
  passed : summary.label = pyStr "PASS" ↔ code = 0 ∧ report.status = pyStr "passed"
  failed : summary.label = pyStr "FAIL" ↔ code = 0 ∧ report.status = pyStr "failed" ∧
    ∀ result ∈ report.results, HasRun result.status
  label : summary.label ∈ [pyStr "PASS", pyStr "FAIL", pyStr "NOT COMPLETED"]

/-- The statuses of the outcomes are those of the results of the report. -/
theorem Follows.statuses {unrecorded : List TestOutcome} {report : Report} {s : RunState κ}
    (follows : Follows tests later unrecorded report s) :
    s.outcomes.map TestOutcome.status =
      report.results.map ReportResult.status ++ unrecorded.map TestOutcome.status := by
  have seconds := congrArg (List.map Prod.snd) follows.outcomes
  rwa [List.map_append, List.map_map, List.map_map, List.map_map] at seconds

/-- The types of the outcomes are those of the results of the report. -/
theorem Follows.types {unrecorded : List TestOutcome} {report : Report} {s : RunState κ}
    (follows : Follows tests later unrecorded report s) :
    s.outcomes.map TestOutcome.testType =
      report.results.map ReportResult.type ++ unrecorded.map TestOutcome.testType := by
  have firsts := congrArg (List.map Prod.fst) follows.outcomes
  rwa [List.map_append, List.map_map, List.map_map, List.map_map] at firsts

/-- **The label of a completed run** is read off the report. -/
theorem Follows.label (upper : PyStr → PyStr) {report : Report} {s : RunState κ}
    (follows : Follows tests [] [] report s) (distinct : (tests.map TestDefinition.type).Nodup) :
    (testSummary upper tests s.outcomes true).label =
      if ∀ result ∈ report.results, HasRun result.status then
        if AllPassed report.results then pyStr "PASS" else pyStr "FAIL"
      else pyStr "NOT COMPLETED" := by
  have order := follows.order
  rw [List.map_nil, List.append_nil] at order
  have length : s.outcomes.length = tests.length := by
    have same := congrArg List.length order
    rwa [List.length_map, List.length_map] at same
  have same : ∀ kind : PyStr → Prop, (∀ outcome ∈ s.outcomes, kind outcome.status) ↔
      ∀ result ∈ report.results, kind result.status := by
    intro kind
    have statuses := follows.statuses
    rw [List.map_nil, List.append_nil] at statuses
    rw [← List.forall_mem_map, statuses, List.forall_mem_map]
  rw [testSummary_eq upper (order ▸ List.prefix_rfl) distinct]
  refine if_congr ?_ (if_congr (same fun status => status = pyStr "passed") rfl rfl) rfl
  rw [and_iff_right rfl, and_iff_right length]
  exact same HasRun

/-- The summary of a run that is not completed says so. -/
theorem label_of_uncompleted (upper : PyStr → PyStr) (outcomes : List TestOutcome) :
    (testSummary upper tests outcomes false).label = pyStr "NOT COMPLETED" :=
  rfl

/-- **The summary of the outcomes agrees with the report** they follow. -/
theorem Follows.agrees (upper : PyStr → PyStr) {unrecorded : List TestOutcome} {report : Report}
    {s : RunState κ} (follows : Follows tests later unrecorded report s)
    (distinct : (tests.map TestDefinition.type).Nodup) {code : Nat} (few : unrecorded.length ≤ 1)
    (recorded : code ≠ 1 → unrecorded = [])
    (finished : code = 0 → later = [] ∧
      report.status = if AllPassed report.results then pyStr "passed" else pyStr "failed") :
    (testSummary upper tests s.outcomes (decide (code = 0))).Agrees upper tests report code := by
  have order : s.outcomes.map TestOutcome.testType <+: tests.map TestDefinition.type :=
    ⟨_, follows.order⟩
  have results : report.results.map ReportResult.type <+: tests.map TestDefinition.type :=
    (follows.types ▸ List.prefix_append ..).trans order
  have rows : ∃ unrecorded : List PyStr, unrecorded.length ≤ 1 ∧ (code ≠ 1 → unrecorded = []) ∧
      (testSummary upper tests s.outcomes (decide (code = 0))).rows =
        shownRows upper tests (report.results.map ReportResult.status ++ unrecorded) := by
    refine ⟨unrecorded.map TestOutcome.status, ?_, ?_, ?_⟩
    · rwa [List.length_map]
    · intro other
      rw [recorded other]
      rfl
    · rw [testSummary_eq upper order distinct, follows.statuses]
  by_cases zero : code = 0
  · obtain ⟨rfl, status⟩ := finished zero
    obtain rfl := recorded (zero ▸ Nat.zero_ne_one)
    have label := follows.label upper distinct
    rw [decide_eq_true zero] at rows ⊢
    by_cases passed : AllPassed report.results
    · have ran : ∀ result ∈ report.results, HasRun result.status :=
        fun result listed => .inl (passed result listed)
      rw [if_pos ran, if_pos passed] at label
      rw [if_pos passed] at status
      refine ⟨results, rows, ?_, ?_, ?_⟩
      · exact iff_of_true label ⟨zero, status⟩
      · rw [label, status]
        exact iff_of_false (by decide) fun both => absurd both.2.1 (by decide)
      · rw [label]
        exact List.mem_cons_self
    rw [if_neg passed] at status label
    by_cases ran : ∀ result ∈ report.results, HasRun result.status
    · rw [if_pos ran] at label
      refine ⟨results, rows, ?_, ?_, ?_⟩
      · rw [label, status]
        exact iff_of_false (by decide) fun both => absurd both.2 (by decide)
      · exact iff_of_true label ⟨zero, status, ran⟩
      · rw [label]
        exact List.mem_cons_of_mem _ List.mem_cons_self
    · rw [if_neg ran] at label
      refine ⟨results, rows, ?_, ?_, ?_⟩
      · rw [label, status]
        exact iff_of_false (by decide) fun both => absurd both.2 (by decide)
      · rw [label]
        exact iff_of_false (by decide) fun both => ran both.2.2
      · rw [label]
        exact List.mem_cons_of_mem _ (List.mem_cons_of_mem _ List.mem_cons_self)
  · rw [decide_eq_false zero] at rows ⊢
    refine ⟨results, rows, ?_, ?_, ?_⟩
    · rw [label_of_uncompleted]
      exact iff_of_false (by decide) fun both => zero both.1
    · rw [label_of_uncompleted]
      exact iff_of_false (by decide) fun both => zero both.1
    · rw [label_of_uncompleted]
      exact List.mem_cons_of_mem _ (List.mem_cons_of_mem _ List.mem_cons_self)

/-- **What the operator reads agrees with the report and the exit code**, whatever the workflows
do. A run that returns without having created a report prints no summary and fails. Else it
prints one summary, which agrees with the report, or, if the operator has cancelled the run and
its connection could not be closed, the same one twice. -/
theorem summary_agrees_with_report (upper : PyStr → PyStr) {session : κ}
    {creation : CreationAnswer} {updates : Nat → Bool} {code : Nat} {t : RunState κ}
    (distinct : (configurations.test.tests.map TestDefinition.type).Nodup)
    (ended : run workflows (.ok configurations) (.ok ()) (.initial session creation updates) =
      some (.ok code, t)) :
    (t.file.current = none ∧ t.printed upper configurations = [] ∧ code = 1) ∨
      ∃ report summary, t.file.current = some report ∧
        summary.Agrees upper configurations.test.enabledTests report code ∧
        (t.printed upper configurations = [summary] ∨
          code = 1 ∧ Cancelled t ∧ Unclosed workflows t ∧
            t.printed upper configurations = [summary, summary]) := by
  have before : Unreported (.initial session creation updates : RunState κ) :=
    ⟨rfl, rfl, rfl, rfl, rfl⟩
  have enabled : (configurations.test.enabledTests.map TestDefinition.type).Nodup :=
    distinct.sublist (List.filter_sublist.map _)
  cases before.run.returns rfl ended with
  | silent current summaries failed =>
      refine .inl ⟨current, ?_, failed⟩
      rw [RunState.printed, summaries]
      rfl
  | printed follows few recorded summaries finished =>
      refine .inr ⟨_, _, follows.current, follows.agrees upper enabled few recorded finished, ?_⟩
      rcases summaries with once | ⟨rfl, cancelled, unclosed, twice⟩
      · left
        rw [RunState.printed, once]
        rfl
      · right
        rw [RunState.printed, twice]
        exact ⟨rfl, cancelled, unclosed, rfl⟩

end Runs

/-- A run whose report has passed, but whose connection cannot be closed, is shown neither as
passed nor as failed. -/
theorem summary_agrees_with_report_unclosed : ∃ t summary,
    run (answeredWorkflows (handlersReturn true (some ⟨.connection, []⟩))) (.ok barometerOnly)
        (.ok ()) (.initial () .created fun _ => true) = some (.ok 1, t) ∧
      t.reportStatus = some (pyStr "passed") ∧ t.printed id barometerOnly = [summary] ∧
      summary.rows = [(pyStr "Barometer", pyStr "PASS")] ∧
      summary.label ≠ pyStr "PASS" ∧ summary.label ≠ pyStr "FAIL" := by
  let ended : Option (Except TesterError Nat × RunState Unit) :=
    run (answeredWorkflows (handlersReturn true (some ⟨.connection, []⟩))) (.ok barometerOnly)
      (.ok ()) (.initial () .created fun _ => true)
  have ends : ended.map (fun ended =>
        (ended.1.toOption, ended.2.reportStatus, ended.2.printed id barometerOnly)) =
      some (some 1, some (pyStr "passed"),
        [⟨[(pyStr "Barometer", pyStr "PASS")], pyStr "NOT COMPLETED"⟩]) := by decide +kernel
  obtain ⟨⟨result, t⟩, returned, same⟩ := Option.map_eq_some_iff.mp ends
  obtain ⟨exit, status, printed⟩ : result.toOption = some 1 ∧
      t.reportStatus = some (pyStr "passed") ∧ t.printed id barometerOnly = [_] := by
    simpa only [Prod.mk.injEq] using same
  cases result with
  | error _ => cases exit
  | ok code =>
      obtain rfl := Option.some.inj exit
      have distinct : (barometerOnly.test.tests.map TestDefinition.type).Nodup := by decide
      refine ⟨t, _, returned, status, printed, rfl, ?_⟩
      rcases summary_agrees_with_report id distinct returned with ⟨_, silent, _⟩ |
        ⟨report, summary, _, agrees, once | ⟨_, _, _, twice⟩⟩
      · exact absurd (printed.symm.trans silent) (List.cons_ne_nil _ _)
      · obtain rfl := List.singleton_inj.mp (printed.symm.trans once)
        exact ⟨fun label => Nat.one_ne_zero (agrees.passed.mp label).1,
          fun label => Nat.one_ne_zero (agrees.failed.mp label).1⟩
      · have length : 1 = 2 := congrArg List.length (printed.symm.trans twice)
        exact absurd length (by decide)

end FlightComputer.BoardTester
