import FlightComputer.BoardTester.SessionMessages
import FlightComputer.ComponentMessageRoundTrip
import FlightComputer.Firmware.SessionLines

/-!
# Errors of the device

The firmware answers a request it does not carry out with an ERROR response, and the
tester raises what it decodes from it. The response to START_TEST is decoded without
a look at the command id, so its error is always reported. In a component exchange
the error is reported when it carries the id of the command, which it does exactly
when the firmware read that id from the request (`error_reported_iff`): a request
that the firmware cannot read is answered with the id 0, and the tester then raises
an error of its own that does not name the device's (`invalid_request_not_reported`).
-/

set_option autoImplicit false

namespace FlightComputer

open Library Firmware BoardTester

variable {δ : Type}

/-! ## The dictionary of an error -/

/-- The dictionary of an error response. -/
def errorMembers (commandId : UInt32) (errorCode : String) : List (PyStr × PyValue) :=
  [(pyStr "protocol_version", .int 1), (pyStr "type", .str (pyStr "ERROR")),
    (pyStr "command_id", .int commandId.toNat), (pyStr "error", .str (pyStr errorCode))]

/-- A code of an error, as a name. -/
theorem isPlainName_errorCode {errorCode : String} (listed : errorCode ∈ errorCodes) :
    IsPlainName (ascii errorCode) := by
  have all : ∀ errorCode ∈ errorCodes, (ascii errorCode).isEmpty = false ∧
      ((ascii errorCode).all fun byte => isPlainStringByte byte && decide (byte.toNat ≤ 126)) =
        true := by
    simp only [errorCodes, List.forall_mem_cons, List.not_mem_nil, false_imp_iff, implies_true,
      and_true]
    decide
  exact isPlainName_ascii (all errorCode listed).1 (all errorCode listed).2

/-- **An error response is the text of its dictionary.** -/
theorem errorMessage_eq_dumps (commandId : UInt32) {errorCode : String}
    (listed : errorCode ∈ errorCodes) :
    errorMessage commandId errorCode = dumps (.dict (errorMembers commandId errorCode)) := by
  have named : escapeText (pyStr errorCode) = ascii errorCode :=
    (isPlainName_errorCode listed).escapeText_eq
  rw [errorMessage]
  simp only [errorResponsePieces, errorMembers, List.flatten_cons, List.flatten_nil,
    List.cons_append, List.nil_append, List.append_assoc, List.append_nil, dumps, dumpsFurther,
    named]
  rfl

theorem plain_errorMembers (commandId : UInt32) {errorCode : String}
    (listed : errorCode ∈ errorCodes) : (PyValue.dict (errorMembers commandId errorCode)).Plain := by
  refine ⟨?_, isPlainText_pyStr (by decide), trivial, isPlainText_pyStr (by decide),
    isPlainText_pyStr (by decide), isPlainText_pyStr (by decide), trivial,
    isPlainText_pyStr (by decide), (isPlainName_errorCode listed).isPlainText, trivial⟩
  change [pyStr "protocol_version", pyStr "type", pyStr "command_id", pyStr "error"].Nodup
  decide

/-! ## The exchanges -/

/-- An exchange of the tester: START_TEST, or a command to a component test of a
type. -/
inductive Exchange where
  | session
  | component (testType : PyStr)

/-- The decoder of an exchange, for its failures. -/
def Exchange.decode (exchange : Exchange) (line : Bytes) (expectedCommandId : Int) :
    Except ProtocolMessageError Unit :=
  match exchange with
  | .session => (decodeStartTestResponse line expectedCommandId).map fun _ => ()
  | .component testType =>
      (decodeComponentTestMessage line expectedCommandId testType).map fun _ => ()

/-- The decoder of an exchange raises an error whose text contains the code of the
error response. -/
def ReportsError (exchange : Exchange) (response : Bytes) (expectedCommandId : Int) : Prop :=
  ∃ commandId errorCode message, errorCode ∈ errorCodes ∧
    response = errorMessage commandId errorCode ∧
    exchange.decode response expectedCommandId = .error (.text message) ∧
    pyStr errorCode <:+: message

section Decode

variable (commandId : UInt32) {errorCode : String} (listed : errorCode ∈ errorCodes)
include listed

/-- **What the decoders make of an error response.** -/
theorem decode_errorMessage (exchange : Exchange) (expectedCommandId : Int) :
    exchange.decode (errorMessage commandId errorCode) expectedCommandId =
      .error (.text (match exchange with
        | .session => pyStr "device rejected START_TEST: " ++ pyStr errorCode
        | .component _ =>
            if commandId = 0 then pyStr "response.command_id must be a positive integer"
            else if (commandId.toNat : Int) ≠ expectedCommandId then
              pyStr "response command_id does not match active test"
            else pyStr "device rejected component test: " ++ pyStr errorCode)) := by
  have decoded := decodeObject_dumps (plain_errorMembers commandId listed)
  rw [← errorMessage_eq_dumps commandId listed] at decoded
  generalize received : loadedMembers (errorMembers commandId errorCode) = response at decoded
  have version : isProtocolVersion (response.lookup (pyStr "protocol_version")) = true :=
    received ▸ rfl
  have typed : isPyStr (response.lookup (pyStr "type")) (pyStr "ERROR") = true := received ▸ rfl
  have keys : requireKeys response
      [pyStr "protocol_version", pyStr "type", pyStr "command_id", pyStr "error"]
      (pyStr "response") = .ok () := received ▸ rfl
  have hasError : response.lookup (pyStr "error") = some (.str (pyStr errorCode)) :=
    received ▸ rfl
  have hasId : response.lookup (pyStr "command_id") = some (.int commandId.toNat) :=
    received ▸ rfl
  have nonempty : (pyStr errorCode).isEmpty = false := (isPlainName_errorCode listed).isEmpty_codes
  cases exchange with
  | session =>
      rw [Exchange.decode, decodeStartTestResponse_error decoded version typed keys hasError
        nonempty]
      simp [raiseText, Except.map]
  | component testType =>
      have zero : commandId = 0 ↔ (commandId.toNat : Int) = 0 := by
        rw [← UInt32.toNat_inj, Int.natCast_eq_zero]
        rfl
      rw [Exchange.decode]
      by_cases correlated : commandId = 0 ∨ (commandId.toNat : Int) ≠ expectedCommandId
      · rw [decodeComponentTestMessage_other_id decoded version typed keys testType hasId
          (correlated.imp_left zero.mp) (Int.natCast_nonneg _)]
        by_cases noId : commandId = 0
        · rw [if_pos (zero.mp noId)]
          simp only [raiseText, Except.map, if_pos noId]
          rfl
        · rw [if_neg (fun same => noId (zero.mpr same))]
          simp only [raiseText, Except.map, if_neg noId, if_pos (correlated.resolve_left noId)]
          rfl
      · obtain ⟨noId, same⟩ := not_or.mp correlated
        obtain rfl := not_not.mp same
        have nonzero : (commandId.toNat : Int) ≠ 0 := fun none => noId (zero.mpr none)
        have positive : (0 : Int) < commandId.toNat := by omega
        rw [decodeComponentTestMessage_error decoded version typed keys hasError nonempty testType
          hasId positive]
        simp only [raiseText, Except.map, if_neg noId, if_neg same, List.flatten_cons,
          List.flatten_nil, List.append_nil]

end Decode

/-- The texts that do not name an error. -/
theorem not_infix_of_code {errorCode : String} (listed : errorCode ∈ errorCodes) :
    ¬pyStr errorCode <:+: pyStr "response.command_id must be a positive integer" ∧
      ¬pyStr errorCode <:+: pyStr "response command_id does not match active test" := by
  have all : ∀ errorCode ∈ errorCodes,
      ¬pyStr errorCode <:+: pyStr "response.command_id must be a positive integer" ∧
        ¬pyStr errorCode <:+: pyStr "response command_id does not match active test" := by
    decide +kernel
  exact all errorCode listed

/-- **When the tester reports an error of the device**: in the session exchange always,
in a component exchange if the error carries the id of the command. -/
theorem reportsError_iff (exchange : Exchange) (expectedCommandId : Int) (commandId : UInt32)
    {errorCode : String} (listed : errorCode ∈ errorCodes) :
    ReportsError exchange (errorMessage commandId errorCode) expectedCommandId ↔
      exchange = .session ∨
        (commandId ≠ 0 ∧ (commandId.toNat : Int) = expectedCommandId) := by
  have decoded := decode_errorMessage commandId listed exchange expectedCommandId
  constructor
  · rintro ⟨_, errorCode', message, listed', _, raised, inside⟩
    rw [decoded] at raised
    obtain rfl := ProtocolMessageError.text.inj (Except.error.inj raised)
    cases exchange with
    | session => exact .inl rfl
    | component testType =>
        refine .inr ?_
        dsimp only at inside
        split_ifs at inside with noId other
        · exact absurd inside (not_infix_of_code listed').1
        · exact absurd inside (not_infix_of_code listed').2
        · exact ⟨noId, not_not.mp other⟩
  · rintro (rfl | ⟨noId, same⟩)
    · exact ⟨commandId, errorCode, _, listed, rfl, decoded, List.infix_append_right ..⟩
    · refine ⟨commandId, errorCode, _, listed, rfl, decoded, ?_⟩
      cases exchange with
      | session => exact (List.suffix_append _ _).isInfix
      | component testType =>
          dsimp only
          rw [if_neg noId, if_neg (not_not.mpr same)]
          exact (List.suffix_append _ _).isInfix

/-! ## The responses of the firmware -/

/-- An error that is built is the whole error message. -/
theorem eq_errorMessage {commandId : UInt32} {errorCode : String} {response : Bytes}
    (built : errorLine commandId errorCode = some response) :
    response = errorMessage commandId errorCode :=
  (builtLine_eq_some built).1

/-- A lifecycle response is no error. -/
theorem not_error_of_lifecycleLine {responseType status : String} {commandId : UInt32}
    {testType response : Bytes} (listed : responseType ∈ ["TEST_STARTED", "TEST_STOPPED"])
    (built : lifecycleLine responseType commandId testType status = some response) :
    ¬IsOfType "ERROR" response := by
  intro error
  obtain ⟨rfl, _⟩ := builtLine_eq_some built
  have types : ∀ type ∈ ["TEST_STARTED", "TEST_STOPPED"], type ∈ messageTypes ∧ type ≠ "ERROR" := by
    decide
  exact (types _ listed).2 (isOfType_unique (types _ listed).1 (by decide)
    (isOfType_testMessage responseType commandId testType status) error)

/-- An ERROR response carries the id that the firmware read from the line, or 0 when it
read no request. -/
theorem error_of_answer {registry : ComponentTestRegistry δ} {metadata : SessionMetadata}
    {line response : Bytes} {queued : Option Bytes} {s t : SessionState δ}
    (answer : LineAnswer registry metadata line s queued t) (built : queued = some response)
    (error : IsOfType "ERROR" response) :
    ∃ commandId errorCode, errorCode ∈ errorCodes ∧
      response = errorMessage commandId errorCode ∧
      ((commandId = 0 ∧ ∃ stop, jsonProtocolParseRequest line = .error stop) ∨
        ∃ body, Requests line commandId body) := by
  cases answer with
  | invalid rejected =>
      exact ⟨_, _, by decide, eq_errorMessage built, .inl ⟨rfl, _, rejected⟩⟩
  | metadata requested =>
      exact absurd (isOfType_unique (by decide) (by decide) (isOfType_startTestLine built) error)
        (by decide)
  | alreadyActive requested _ =>
      exact ⟨_, _, by decide, eq_errorMessage built, .inr ⟨_, requested⟩⟩
  | unsupported requested _ _ =>
      exact ⟨_, _, by decide, eq_errorMessage built, .inr ⟨_, requested⟩⟩
  | started _ _ _ _ => exact absurd error (not_error_of_lifecycleLine (by decide) built)
  | noActiveTest requested _ =>
      exact ⟨_, _, by decide, eq_errorMessage built, .inr ⟨_, requested⟩⟩
  | stopped _ _ _ => exact absurd error (not_error_of_lifecycleLine (by decide) built)

/-- **When an error of the device reaches the operator**: in the session exchange always,
in a component exchange exactly when the firmware read from the line it received a
request with the id of the command. -/
theorem error_reported_iff (exchange : Exchange) (expectedCommandId : Int)
    {registry : ComponentTestRegistry δ} {metadata : SessionMetadata} {line response : Bytes}
    {s t : SessionState δ}
    (processed : processLine registry metadata line s = some (some response, t))
    (error : IsOfType "ERROR" response) :
    ReportsError exchange response expectedCommandId ↔
      exchange = .session ∨
        ∃ commandId body, Requests line commandId body ∧
          (commandId.toNat : Int) = expectedCommandId := by
  obtain ⟨commandId, errorCode, listed, rfl, source⟩ :=
    error_of_answer (processLine_answers processed) rfl error
  rw [reportsError_iff exchange expectedCommandId commandId listed]
  refine or_congr Iff.rfl ?_
  constructor
  · rintro ⟨noId, same⟩
    obtain ⟨zero, _⟩ | ⟨body, requested⟩ := source
    · exact absurd zero noId
    · exact ⟨commandId, body, requested, same⟩
  · rintro ⟨number, body, requested, same⟩
    obtain ⟨_, stop, rejected⟩ | ⟨body', requested'⟩ := source
    · rw [requested.parsed] at rejected
      cases rejected
    · have records := requested.parsed.symm.trans requested'.parsed
      have ids := congrArg JsonProtocolRequest.commandId (Except.ok.inj records)
      rw [requestRecord_commandId, requestRecord_commandId] at ids
      rw [← ids]
      exact ⟨requested.commandId_ne_zero, same⟩

/-- A RUN_COMPONENT_TEST line with the id 2 whose last byte was damaged. -/
def damagedRun : Bytes :=
  ascii ("\x7b\"protocol_version\":1,\"type\":\"RUN_COMPONENT_TEST\",\"command_id\":2," ++
    "\"test_type\":\"imu\"|")

/-- A session without an active test. -/
def idleSession : SessionState Unit := ⟨componentTestRunnerInitialize, (), []⟩

/-- What the firmware makes of the damaged line. -/
theorem processLine_damagedRun : processLine [] blankMetadata damagedRun idleSession =
      some (some (errorMessage 0 "invalid_request"), idleSession) := by
  have rejected : (jsonProtocolParseRequest damagedRun).isOk = false := by decide +kernel
  rw [processLine]
  cases parsed : jsonProtocolParseRequest damagedRun with
  | error stop =>
      dsimp only
      rw [errorLine_eq 0 (isWord_errorCode (by decide))]
  | ok record =>
      rw [parsed] at rejected
      cases rejected

/-- The answer to the damaged line does not reach the operator of a component test. -/
theorem error_reported_damaged_run :
    ReportsError (.component (pyStr "imu")) (errorMessage 0 "invalid_request") 2 ↔
      Exchange.component (pyStr "imu") = .session ∨
        ∃ commandId body, Requests damagedRun commandId body ∧ (commandId.toNat : Int) = 2 :=
  error_reported_iff _ 2 processLine_damagedRun (isOfType_errorMessage 0 "invalid_request")

/-- **A request that the firmware cannot read** is answered with an error that the
decoder of component messages does not report. -/
theorem invalid_request_not_reported :
    ∃ response, processLine [] blankMetadata damagedRun idleSession =
        some (some response, idleSession) ∧
      response = errorMessage 0 "invalid_request" ∧
      (Exchange.component (pyStr "imu")).decode response 2 =
        .error (.text (pyStr "response.command_id must be a positive integer")) ∧
      ¬ReportsError (.component (pyStr "imu")) response 2 := by
  have listed : "invalid_request" ∈ errorCodes := by decide
  refine ⟨_, processLine_damagedRun, rfl, ?_, ?_⟩
  · rw [decode_errorMessage 0 listed]
    rfl
  · rw [reportsError_iff _ 2 0 listed]
    rintro (session | ⟨noId, _⟩)
    · cases session
    · exact noId rfl

end FlightComputer
