import FlightComputer.DispatchedTests
import FlightComputer.Library.WorldRefinement
import FlightComputer.RequestRecognition

/-!
# Orderly writes

The tester writes short requests, and after a write that has failed it writes nothing more
(`orderly_dispatch`). This is a fact about its dialogue alone, whatever is replied: the mode of the
dialogue is whether every write has succeeded so far.

Requests are short because the configurations are in order: there are six tests at most, their types
are known, and the channels of a colour are bytes.
-/

set_option autoImplicit false

namespace FlightComputer.BoardTester

open Library Raising

/-- No request is longer. -/
def maxRequestLength : Nat := 300

/-! ## The length of a request -/

section Lengths

variable {payload : Bytes} {number : Nat}

/-- A request for a session. -/
theorem length_encodeStart {testUuid : UUID}
    (encoded : encodeStartTest startTestCommandId testUuid = .ok payload) :
    payload.length ≤ maxRequestLength := by
  obtain ⟨_, _, made⟩ := (except_bind_eq_ok_iff _ _ _).mp encoded
  obtain rfl := Except.ok.inj made
  refine Nat.le_trans (@length_dumps_commonItems "START_TEST" 1 (by decide) (by decide) _) ?_
  rw [length_dumpsFurther_cons, length_dumps_str, length_escapeText_pyStr (by decide),
    escapeText_of_plain testUuid.isCanonicalUuid_str.plain, testUuid.isCanonicalUuid_str.length]
  decide

/-- A request for a stop. -/
theorem length_encodeStop (bounded : number ≤ 2 ^ 32 - 1)
    (encoded : encodeStopComponentTest number = .ok payload) :
    payload.length ≤ maxRequestLength := by
  obtain ⟨_, _, made⟩ := (except_bind_eq_ok_iff _ _ _).mp encoded
  obtain rfl := Except.ok.inj made
  exact Nat.le_trans (@length_dumps_commonItems "STOP_COMPONENT_TEST" number bounded (by decide) [])
    (by decide)

/-- The known test types are short. -/
theorem length_escapeText_supported {testType : PyStr} (supported : testType ∈ supportedTestTypes) :
    (escapeText testType).length ≤ 31 := by
  simp only [supportedTestTypes, List.mem_cons, List.not_mem_nil, or_false] at supported
  rcases supported with rfl | rfl | rfl | rfl | rfl | rfl
  all_goals decide

/-- The channels of a colour that the encoder accepts. -/
theorem length_dumps_rgbItems {rgb : Int × Int × Int}
    (bytes : ∀ item ∈ rgbItems rgb, 0 ≤ item.2 ∧ item.2 ≤ 255) :
    (dumps (.dict ((rgbItems rgb).map fun item => (item.1, .int item.2)))).length ≤ 80 := by
  have number : ∀ item ∈ rgbItems rgb, (dumps (.int item.2)).length ≤ 11 := by
    intro item listed
    obtain ⟨low, high⟩ := bytes item listed
    obtain ⟨value, same⟩ := Int.eq_ofNat_of_zero_le low
    rw [same] at high ⊢
    apply length_dumps_int_le
    omega
  simp only [rgbItems, List.forall_mem_cons, List.not_mem_nil, false_imp_iff, implies_true,
    and_true] at number
  obtain ⟨red, green, blue⟩ := number
  rw [rgbItems, List.map_cons, List.map_cons, List.map_cons, List.map_nil, length_dumps_cons,
    length_dumpsFurther_cons, length_dumpsFurther_cons, length_dumpsFurther_nil,
    length_escapeText_pyStr (by decide), length_escapeText_pyStr (by decide),
    length_escapeText_pyStr (by decide), show (ascii "red").length = 3 from rfl,
    show (ascii "green").length = 5 from rfl, show (ascii "blue").length = 4 from rfl]
  dsimp only at red green blue ⊢
  omega

/-- A request for a test, with the parameters of a handler. -/
theorem length_encodeRun {testType : PyStr} {parameters : Option (List (PyStr × Int))}
    (bounded : number ≤ 2 ^ 32 - 1) (supported : testType ∈ supportedTestTypes)
    (coloured : ∀ items, parameters = some items → ∃ rgb, items = rgbItems rgb)
    (encoded : encodeRunComponentTest number testType parameters = .ok payload) :
    payload.length ≤ maxRequestLength := by
  obtain ⟨_, _, encoded⟩ := (except_bind_eq_ok_iff _ _ _).mp encoded
  obtain ⟨_, _, made⟩ := (except_bind_eq_ok_iff _ _ _).mp encoded
  have named := length_escapeText_supported supported
  have key : (escapeText (pyStr "test_type")).length = 9 := length_escapeText_pyStr (by decide)
  have common : ∀ others, (dumps (.dict (commonItems "RUN_COMPONENT_TEST" number others))).length ≤
      18 + (dumpsFurther others).length + 70 :=
    length_dumps_commonItems bounded (by decide)
  cases parameters with
  | none =>
      obtain rfl := Except.ok.inj made
      refine Nat.le_trans (common [(pyStr "test_type", .str testType)]) ?_
      rw [length_dumpsFurther_cons, length_dumps_str, length_dumpsFurther_nil, maxRequestLength]
      omega
  | some items =>
      obtain ⟨rgb, rfl⟩ := coloured items rfl
      dsimp only at made
      split_ifs at made with keys range
      have bytes : ∀ item ∈ rgbItems rgb, 0 ≤ item.2 ∧ item.2 ≤ 255 := by
        intro item listed
        simp only [List.any_eq_true, not_exists, not_and, Bool.or_eq_true, decide_eq_true_eq,
          not_or, Int.not_lt] at range
        exact range item listed
      have channels := length_dumps_rgbItems bytes
      have name : (escapeText (pyStr "parameters")).length = 10 :=
        length_escapeText_pyStr (by decide)
      have whole := common [(pyStr "test_type", .str testType), (pyStr "parameters",
        .dict ((rgbItems rgb).map fun item => (item.1, .int item.2)))]
      rw [length_dumpsFurther_cons, length_dumpsFurther_cons, length_dumps_str,
        length_dumpsFurther_nil] at whole
      rw [← Except.ok.inj made, maxRequestLength]
      refine Nat.le_trans whole ?_
      omega

end Lengths

/-! ## Orderly dialogues -/

/-- Whether every write has succeeded so far. -/
def stillIntact (intact : Bool) : (operation : TesterOperation) → operation.Reply → Bool
  | .writeLine _ _, .ok _ => intact
  | .writeLine _ _, .error _ => false
  | _, _ => intact

/-- A short request may be written as long as no write has failed. -/
def MayWrite (intact : Bool) : TesterOperation → Prop
  | .writeLine payload _ => intact = true ∧ payload.length ≤ maxRequestLength
  | _ => True

/-- **An orderly dialogue** writes short requests, and nothing after a write that has failed. When it
returns, no write has failed. -/
def Orderly {α : Type} (dialogue : TesterDialogue α) : Prop :=
  (World.modes stillIntact).Holds MayWrite (fun intact => intact = true) dialogue
    (Outcome (fun _ intact => intact = true) fun _ _ => True)

section Rules

variable {α β : Type}

theorem orderly_settle (result : Except TesterError α) :
    Orderly (RaisingDialogue.settle result) := by
  refine World.Holds.settle (World.stable_modes _) fun intact same => ?_
  cases result with
  | ok value => exact same
  | error error => trivial

theorem orderly_pure (value : α) : Orderly (pure value : TesterDialogue α) :=
  orderly_settle (.ok value)

theorem orderly_throw (error : TesterError) : Orderly (throw error : TesterDialogue α) :=
  orderly_settle (.error error)

/-- **One after the other.** -/
theorem Orderly.bind {first : TesterDialogue α} {rest : α → TesterDialogue β}
    (orderly : Orderly first) (later : ∀ value, Orderly (rest value)) : Orderly (first >>= rest) :=
  World.Holds.raisingBind (fun _ => World.Stable.true) orderly later

/-- **An operation that writes nothing.** -/
theorem holds_operation {operation : TesterOperation}
    (reads : ∀ payload seconds, operation ≠ .writeLine payload seconds) :
    (World.modes stillIntact).Holds MayWrite (fun intact => intact = true)
      (Dialogue.operation operation) fun _ intact => intact = true := by
  refine World.Holds.operation (World.stable_modes _) (fun _ => World.stable_modes _) ?_ ?_
  · intro intact same
    cases operation with
    | writeLine payload seconds => exact absurd rfl (reads payload seconds)
    | _ => trivial
  · rintro intact reply _ same rfl
    cases operation with
    | writeLine payload seconds => exact absurd rfl (reads payload seconds)
    | _ => exact same

/-- An operation that raises nothing. -/
theorem orderly_lift {operation : TesterOperation}
    (reads : ∀ payload seconds, operation ≠ .writeLine payload seconds) :
    Orderly (ExceptT.lift (Dialogue.operation operation)) :=
  World.Holds.lift (fun _ => World.stable_modes _) (holds_operation reads)

/-- **A write**, after which nothing is written if it has failed. -/
theorem orderly_sendRequest {encoded : Except ValueError Bytes} {seconds : PyStr}
    (short : ∀ payload, encoded = .ok payload → payload.length ≤ maxRequestLength) :
    Orderly (TesterDialogue.sendRequest encoded seconds) := by
  cases encoded with
  | error error => exact orderly_throw _
  | ok payload =>
      refine World.Holds.operation (World.stable_modes _) (fun _ => World.stable_modes _)
        (fun intact same => ⟨same, short payload rfl⟩) ?_
      rintro intact reply _ same rfl
      cases reply with
      | ok value => exact same
      | error error => trivial

variable {tooDeep : PyStr → Bool}

/-- **Reading a message** leaves the mode as it is, whatever is raised. -/
theorem holds_readMessage {seconds : PyStr} {decode : Bytes → Except ProtocolMessageError α} :
    (World.modes stillIntact).Holds MayWrite (fun intact => intact = true)
      (TesterDialogue.readMessage tooDeep seconds decode) fun _ intact => intact = true := by
  have read : (World.modes stillIntact).Holds MayWrite (fun intact => intact = true)
      (TesterDialogue.readLine seconds) fun _ intact => intact = true :=
    holds_operation fun _ _ => TesterOperation.noConfusion
  refine World.Holds.bind read fun result => ?_
  cases result with
  | ok line => exact World.Holds.done (World.stable_modes _) fun _ same => same
  | error error => exact World.Holds.done (World.stable_modes _) fun _ same => same

theorem orderly_readMessage {seconds : PyStr} {decode : Bytes → Except ProtocolMessageError α} :
    Orderly (TesterDialogue.readMessage tooDeep seconds decode) := by
  refine holds_readMessage.mono (fun _ same => same) fun result intact same => ?_
  cases result with
  | ok value => exact same
  | error error => trivial

/-- **A dialogue with the operator** writes nothing. -/
theorem orderly_consult (dialogue : OperatorDialogue α) :
    Orderly (TesterDialogue.consult dialogue) := by
  suffices performed : ∀ asked : Dialogue OperatorQuestion OperatorQuestion.Reply
      (Except TesterError α), (World.modes stillIntact).Holds MayWrite (fun intact => intact = true)
        (Dialogue.perform (fun question => Dialogue.operation (TesterOperation.ask question)) asked)
        (Outcome (fun _ intact => intact = true) fun _ _ => True) from
    performed dialogue.run
  intro asked
  induction asked with
  | done result => exact orderly_settle result
  | call question next ih =>
      exact World.Holds.bind (holds_operation fun _ _ => TesterOperation.noConfusion) ih

end Rules

/-! ## The tester -/

section Tester

variable {tooDeep : PyStr → Bool} {number : Nat} {testType : PyStr}

theorem orderly_startTest (testUuid : UUID) : Orderly (TesterDialogue.startTest tooDeep testUuid) :=
  .bind (orderly_sendRequest fun _ => length_encodeStart) fun _ => orderly_readMessage

theorem orderly_stopComponentTest (bounded : number ≤ 2 ^ 32 - 1) :
    Orderly (TesterDialogue.stopComponentTest tooDeep number testType) := by
  refine .bind (orderly_sendRequest fun _ => length_encodeStop bounded) fun _ => ?_
  refine .bind orderly_readMessage fun response => ?_
  split_ifs
  · exact orderly_pure _
  · exact orderly_throw _

/-- A decided test is stopped. -/
theorem orderly_conclude (bounded : number + 1000 ≤ 2 ^ 32 - 1) (decision : Option PyStr) :
    Orderly (TesterDialogue.conclude tooDeep number testType decision) := by
  cases decision with
  | none => exact orderly_pure _
  | some status =>
      exact .bind (@orderly_stopComponentTest tooDeep (number + 1000) testType bounded) fun _ =>
        orderly_pure _

variable {σ : Type} (handler : TestHandler σ)

theorem orderly_handleEvent (bounded : number + 1000 ≤ 2 ^ 32 - 1) (state : σ)
    (event : ComponentTestEvent) :
    Orderly (TesterDialogue.handleEvent tooDeep number testType handler state event) :=
  .bind (orderly_consult _) fun decided =>
    .bind (orderly_conclude bounded decided.2) fun _ => orderly_pure _

/-- **The loop of `run_component_test`.** -/
theorem orderly_receiveMessages (bounded : number + 1000 ≤ 2 ^ 32 - 1) (rounds : Nat) (state : σ) :
    Orderly (TesterDialogue.receiveMessages tooDeep number testType
      (TesterDialogue.handleEvent tooDeep number testType handler) rounds state) := by
  induction rounds generalizing state with
  | zero =>
      intro intact same mode reaches
      refine ⟨trivial, fun reply => ?_⟩
      cases reply
  | succ rounds ih =>
      have read : Orderly (RaisingDialogue.attempt (TesterDialogue.readMessage tooDeep
          readTimeoutSeconds fun line => decodeComponentTestMessage line number testType)) :=
        World.Holds.attempt (fun _ => World.stable_modes _) holds_readMessage
      refine .bind read fun received => ?_
      cases received with
      | error error =>
          dsimp only
          split_ifs
          · exact ih state
          · exact orderly_throw _
      | ok message =>
          cases message with
          | acknowledgement messageType => exact orderly_throw _
          | completion completion =>
              exact .bind (orderly_lift fun _ _ => TesterOperation.noConfusion) fun _ =>
                orderly_pure _
          | event event =>
              refine .bind (orderly_lift fun _ _ => TesterOperation.noConfusion) fun _ => ?_
              refine .bind (orderly_handleEvent handler bounded state event) fun answered => ?_
              obtain ⟨later, completion⟩ := answered
              cases completion with
              | some completion => exact orderly_pure _
              | none => exact ih later

/-- **The `run` of a handler**, with parameters that are those of a colour, if it has any. -/
theorem orderly_runHandler (bounded : number + 1000 ≤ 2 ^ 32 - 1)
    (supported : testType ∈ supportedTestTypes)
    (coloured : ∀ items, handler.parameters = some items → ∃ rgb, items = rgbItems rgb) :
    Orderly (TesterDialogue.runHandler tooDeep number testType handler) := by
  have run : Orderly (TesterDialogue.runComponentTest tooDeep number testType
      (TesterDialogue.handleEvent tooDeep number testType handler) handler.parameters
      (TesterDialogue.handleStart tooDeep number testType handler) handler.initial) := by
    have short : ∀ payload,
        encodeRunComponentTest number testType handler.parameters = .ok payload →
          payload.length ≤ maxRequestLength :=
      fun payload => length_encodeRun (Nat.le_of_add_right_le bounded) supported coloured
    refine .bind (orderly_sendRequest short) fun _ => .bind orderly_readMessage fun first => ?_
    split_ifs
    · have started : Orderly (TesterDialogue.handleStart tooDeep number testType handler) :=
        .bind (orderly_consult _) fun decision => orderly_conclude bounded decision
      refine .bind started fun completion => ?_
      cases completion with
      | some completion => exact orderly_pure _
      | none =>
          exact .bind (orderly_lift fun _ _ => TesterOperation.noConfusion) fun rounds =>
            orderly_receiveMessages handler bounded rounds handler.initial
    · exact orderly_throw _
  exact .bind run fun _ => orderly_pure _

/-- The parameters of a handler are those of a colour. -/
theorem coloured_createHandler {interpreter : Interpreter} {definition : TestDefinition}
    {handler : AnyTestHandler} (created : createHandler interpreter definition = .ok handler) :
    ∀ items, handler.handler.parameters = some items → ∃ rgb, items = rgbItems rgb := by
  have plain : ∀ {σ : Type} (handler : TestHandler σ), handler.parameters = none →
      ∀ items, handler.parameters = some items → ∃ rgb, items = rgbItems rgb := by
    intro σ handler nothing items some
    rw [nothing] at some
    cases some
  have live : ∀ {σ : Type} (live : LiveTest σ), live.create interpreter definition = .ok handler →
      ∀ items, handler.handler.parameters = some items → ∃ rgb, items = rgbItems rgb := by
    intro σ live made
    rw [LiveTest.create] at made
    split at made
    · obtain rfl := Except.ok.inj made
      exact plain live.handler rfl
    · cases made
  rw [createHandler] at created
  split at created
  case h_2 => cases created
  case h_1 create found =>
    obtain ⟨front, later, whole, _⟩ := List.lookup_eq_some_iff.mp found
    have listed : (definition.type, create) ∈ testHandlers := by
      rw [whole]
      exact List.mem_append_right _ List.mem_cons_self
    simp only [testHandlers, List.mem_cons, Prod.mk.injEq, List.not_mem_nil, or_false] at listed
    rcases listed with ⟨_, rfl⟩ | ⟨_, rfl⟩ | ⟨_, rfl⟩ | ⟨_, rfl⟩ | ⟨_, rfl⟩ | ⟨_, rfl⟩
    · obtain rfl := Except.ok.inj created
      exact plain (statusLedHandler (pyStr "red")) rfl
    · obtain rfl := Except.ok.inj created
      exact plain (statusLedHandler (pyStr "green")) rfl
    · rw [createRgbLedHandler] at created
      split at created
      · cases created
      · split at created
        · cases created
        · obtain rfl := Except.ok.inj created
          rintro items ⟨⟩
          exact ⟨_, rfl⟩
    · exact live imuTest created
    · exact live barometerTest created
    · obtain rfl := Except.ok.inj created
      exact plain sdCardHandler rfl

/-- **The tests**, one after the other. -/
theorem orderly_runTests (interpreter : Interpreter) {definitions : List TestDefinition}
    (supported : ∀ definition ∈ definitions, definition.type ∈ supportedTestTypes)
    (bounded : number + definitions.length + 1000 ≤ 2 ^ 32 - 1) :
    Orderly (TesterDialogue.runTests tooDeep (createHandler interpreter) number definitions) := by
  induction definitions generalizing number with
  | nil => exact orderly_pure _
  | cons definition definitions ih =>
      obtain ⟨first, later⟩ := List.forall_mem_cons.mp supported
      rw [List.length_cons] at bounded
      rw [TesterDialogue.runTests]
      cases created : createHandler interpreter definition with
      | error error => exact orderly_throw _
      | ok handler =>
          refine .bind (orderly_runHandler handler.handler (by omega) first
            (coloured_createHandler created)) fun result => ?_
          exact .bind (@ih (number + 1) later (by omega)) fun results => orderly_pure _

/-- **The dispatch of the runner is orderly**, if the configurations are in order. -/
theorem orderly_dispatch {interpreter : Interpreter} {configurations : LoadedConfigurations}
    (accepted : AreAccepted interpreter.colours configurations) :
    Orderly (TesterDialogue.dispatch tooDeep (createHandler interpreter) configurations) := by
  have few := length_tests_le accepted
  have supported : ∀ definition ∈ configurations.test.enabledTests,
      definition.type ∈ supportedTestTypes :=
    fun definition listed => (accepted.definitions definition (List.mem_filter.mp listed).1).supported
  refine .bind (orderly_startTest _) fun response => ?_
  split_ifs
  · exact @orderly_runTests tooDeep 2 interpreter _ supported (by omega)
  · exact orderly_pure _

end Tester

end FlightComputer.BoardTester
