import FlightComputer.BoardTester.ComponentSession
import FlightComputer.Library.Excepts

/-!
# What the decoders accept

The contract of the responses, stated apart from the decoders: what the object of a line must be
for `decode_component_test_message` and `decode_start_test_response` to return a value
(`IsComponentMessage`, `IsStartTestResponse`). The decoders are more lenient in two places. They
compare the protocol version as Python compares numbers, which takes `true` and `1.0` for 1, and they
take a `data` member that is null for a missing one. On lines that are nested too deeply for the
interpreter they raise `RecursionError`.

So a decoder keeps the contract exactly on the lines that are not nested too deeply and whose
object, where it is in order but for these two members, spells its version as an integer and has no
null as its data (`decoders_keep_contract_iff`). Lines have at most 4096 bytes here; integers with more than 4300
digits are another matter.
-/

set_option autoImplicit false

namespace FlightComputer.BoardTester

open Library

/-! ## The contract -/

/-- The keys of an object are exactly these. -/
def HasKeys (object : PyDict) (keys : List PyStr) : Prop :=
  ∀ key, key ∈ object.map Prod.fst ↔ key ∈ keys

/-- A member is a non-empty string. -/
def HasText (object : PyDict) (field : PyStr) : Prop :=
  ∃ text, object.lookup field = some (.str text) ∧ text ≠ []

/-- What is accepted as the protocol version of a response, and what as the data of an event. -/
structure Leniency where
  version : Option PyJson → Prop
  data : Option PyJson → Prop

/-- An object, or nothing. -/
def IsMissingOrObject (data : Option PyJson) : Prop :=
  data = none ∨ ∃ members, data = some (.dict members)

/-- The contract: the version is the integer 1, and data are missing or an object. -/
def contract : Leniency where
  version value := value = some (.int protocolVersion)
  data := IsMissingOrObject

/-- What the decoders accept: anything that equals 1 in Python, and null for missing data. -/
def accepted : Leniency where
  version value := isProtocolVersion value = true
  data value := IsMissingOrObject value ∨ value = some .none

/-- The keys of a lifecycle message. -/
def lifecycleFields : List PyStr :=
  [pyStr "protocol_version", pyStr "type", pyStr "command_id", pyStr "test_type", pyStr "status"]

/-- The lifecycle messages with their statuses. -/
def lifecycleStatuses : List (PyStr × PyStr) :=
  [(pyStr "TEST_STARTED", pyStr "running"), (pyStr "TEST_COMPLETED", pyStr "passed"),
    (pyStr "TEST_COMPLETED", pyStr "failed"), (pyStr "TEST_STOPPED", pyStr "stopped")]

/-- A lifecycle message, as far as its type, its status and its keys are concerned. -/
structure IsLifecycle (response : PyDict) : Prop where
  keys : HasKeys response lifecycleFields
  legal : ∃ messageType status, (messageType, status) ∈ lifecycleStatuses ∧
    response.lookup (pyStr "type") = some (.str messageType) ∧
    response.lookup (pyStr "status") = some (.str status)

/-- An event, as far as its type, its name, its data and its keys are concerned. -/
structure IsEvent (leniency : Leniency) (response : PyDict) : Prop where
  keys : HasKeys response requiredEventFields ∨
    HasKeys response (requiredEventFields ++ [pyStr "data"])
  typed : response.lookup (pyStr "type") = some (.str (pyStr "TEST_EVENT"))
  named : HasText response (pyStr "event")
  data : leniency.data (response.lookup (pyStr "data"))

/-- **A component message** for the active test. -/
structure IsComponentMessage (leniency : Leniency) (commandId : Int) (testType : PyStr)
    (response : PyDict) : Prop where
  version : leniency.version (response.lookup (pyStr "protocol_version"))
  correlated : response.lookup (pyStr "command_id") = some (.int commandId) ∧ 0 < commandId
  tested : response.lookup (pyStr "test_type") = some (.str testType) ∧ testType ≠ []
  kind : IsEvent leniency response ∨ IsLifecycle response

/-- The keys of a START_TEST response. -/
def startTestFields : List PyStr :=
  [pyStr "protocol_version", pyStr "type", pyStr "command_id", pyStr "status", pyStr "device",
    pyStr "firmware", pyStr "capabilities"]

/-- The keys of the `device` object, apart from the UID. -/
def deviceTexts : List PyStr :=
  [pyStr "mcu", pyStr "board_id", pyStr "board_name", pyStr "board_revision"]

/-- The keys of the `firmware` object. -/
def firmwareTexts : List PyStr := [pyStr "version", pyStr "git_revision"]

/-- The `device` object: a UID of 24 upper-case digits, and texts. -/
structure IsDevice (device : PyDict) : Prop where
  keys : HasKeys device (pyStr "uid" :: deviceTexts)
  uid : ∃ uid, device.lookup (pyStr "uid") = some (.str uid) ∧ isUid uid = true
  texts : ∀ field ∈ deviceTexts, HasText device field

/-- The `firmware` object: texts. -/
structure IsFirmware (firmware : PyDict) : Prop where
  keys : HasKeys firmware firmwareTexts
  texts : ∀ field ∈ firmwareTexts, HasText firmware field

/-- The `capabilities` array: distinct names. -/
def AreCapabilities (values : List PyJson) : Prop :=
  ∃ names : List PyStr, values = names.map .str ∧ (∀ name ∈ names, name ≠ []) ∧ names.Nodup

/-- **A successful response** to START_TEST. -/
structure IsStartTestResponse (leniency : Leniency) (commandId : Int) (response : PyDict) :
    Prop where
  version : leniency.version (response.lookup (pyStr "protocol_version"))
  keys : HasKeys response startTestFields
  typed : response.lookup (pyStr "type") = some (.str (pyStr "START_TEST_RESPONSE"))
  ended : response.lookup (pyStr "status") = some (.str (pyStr "ok"))
  correlated : response.lookup (pyStr "command_id") = some (.int commandId) ∧ 0 < commandId
  device : ∃ device, response.lookup (pyStr "device") = some (.dict device) ∧ IsDevice device
  firmware : ∃ firmware, response.lookup (pyStr "firmware") = some (.dict firmware) ∧
    IsFirmware firmware
  capabilities : ∃ values, response.lookup (pyStr "capabilities") = some (.list values) ∧
    AreCapabilities values

/-- A line is the UTF-8 text of a JSON object. -/
def IsObjectLine (line : Bytes) (object : PyDict) : Prop :=
  ∃ text, decodeUtf8 line = some text ∧ loads text = some (.dict object)

/-! ## Helpers of the decoders -/

section Except

variable {α : Type}

theorem not_exists_ok_raiseText (pieces : List PyStr) :
    ¬∃ value : α, raiseText pieces = .ok value := by
  rintro ⟨value, raised⟩
  cases raised

/-- A check that raises. -/
theorem exists_ok_check_iff {condition : Prop} [Decidable condition] (pieces : List PyStr)
    (next : Except ProtocolMessageError α) :
    (∃ value, (if condition then raiseText pieces else next) = .ok value) ↔
      ¬condition ∧ ∃ value, next = .ok value := by
  by_cases failed : condition
  · rw [if_pos failed]
    exact iff_of_false (not_exists_ok_raiseText pieces) fun both => both.1 failed
  · rw [if_neg failed]
    exact (and_iff_right failed).symm

end Except

theorem decodeObject_eq_ok_iff (line : Bytes) (object : PyDict) :
    decodeObject line = .ok object ↔ IsObjectLine line object := by
  rw [decodeObject, IsObjectLine]
  cases decoded : decodeUtf8 line with
  | none =>
      refine iff_of_false (fun raised => by cases raised) ?_
      rintro ⟨text, found, _⟩
      cases found
  | some text =>
      dsimp only
      rw [show (∃ text', some text = some text' ∧ loads text' = some (PyJson.dict object)) ↔
        loads text = some (.dict object) from
          ⟨fun ⟨_, same, loaded⟩ => Option.some.inj same ▸ loaded, fun loaded => ⟨text, rfl, loaded⟩⟩]
      cases loaded : loads text with
      | none => exact iff_of_false (fun raised => by cases raised) fun found => by cases found
      | some value =>
          cases value with
          | dict members =>
              exact ⟨fun same => congrArg _ (congrArg _ (Except.ok.inj same)),
                fun same => congrArg _ (PyJson.dict.inj (Option.some.inj same))⟩
          | _ => exact iff_of_false (fun raised => by cases raised) fun found => by cases found

theorem requireKeys_iff (object : PyDict) (keys : List PyStr) (location : PyStr) :
    (∃ checked, requireKeys object keys location = .ok checked) ↔ HasKeys object keys := by
  have complete : ((keys.filter fun key => !(object.map Prod.fst).contains key).isEmpty &&
      ((object.map Prod.fst).filter fun key => !keys.contains key).isEmpty) = true ↔
      HasKeys object keys := by
    rw [Bool.and_eq_true, List.isEmpty_iff, List.isEmpty_iff, List.filter_eq_nil_iff,
      List.filter_eq_nil_iff]
    simp only [Bool.not_eq_true, Bool.not_eq_false', List.contains_iff_mem]
    exact ⟨fun both key => ⟨both.2 key, both.1 key⟩,
      fun has => ⟨fun key listed => (has key).mpr listed, fun key listed => (has key).mp listed⟩⟩
  rw [requireKeys]
  dsimp only
  by_cases has : HasKeys object keys
  · rw [if_pos (complete.mpr has)]
    exact iff_of_true ⟨_, rfl⟩ has
  · rw [if_neg fun all => has (complete.mp all)]
    exact iff_of_false (not_exists_ok_raiseText _) has

theorem requireString_eq_ok_iff (object : PyDict) (field location text : PyStr) :
    requireString object field location = .ok text ↔
      object.lookup field = some (.str text) ∧ text ≠ [] := by
  rw [requireString]
  split
  · next found lookup =>
      rw [lookup, Option.some.injEq, PyJson.str.injEq]
      by_cases empty : found.isEmpty = true
      · rw [if_pos empty]
        refine iff_of_false (fun raised => by cases raised) ?_
        rintro ⟨rfl, nonempty⟩
        exact nonempty (List.isEmpty_iff.mp empty)
      · rw [if_neg empty, Except.ok.injEq]
        refine ⟨?_, And.left⟩
        rintro rfl
        exact ⟨rfl, fun none => empty (List.isEmpty_iff.mpr none)⟩
  · next other =>
      refine iff_of_false (fun raised => by cases raised) ?_
      rintro ⟨found, _⟩
      exact other text found

theorem exists_requireString_iff (object : PyDict) (field location : PyStr) :
    (∃ text, requireString object field location = .ok text) ↔ HasText object field :=
  exists_congr fun text => requireString_eq_ok_iff object field location text

theorem requirePositiveInteger_eq_ok_iff (object : PyDict) (field location : PyStr) (number : Int) :
    requirePositiveInteger object field location = .ok number ↔
      object.lookup field = some (.int number) ∧ 0 < number := by
  rw [requirePositiveInteger]
  split
  · next found lookup =>
      rw [lookup, Option.some.injEq, PyJson.int.injEq]
      by_cases positive : found ≤ 0
      · rw [if_pos positive]
        refine iff_of_false (fun raised => by cases raised) ?_
        rintro ⟨rfl, above⟩
        exact Int.not_le.mpr above positive
      · rw [if_neg positive, Except.ok.injEq]
        refine ⟨?_, And.left⟩
        rintro rfl
        exact ⟨rfl, Int.not_le.mp positive⟩
  · next other =>
      refine iff_of_false (fun raised => by cases raised) ?_
      rintro ⟨found, _⟩
      exact other number found

theorem isPyStr_iff (value : Option PyJson) (text : PyStr) :
    isPyStr value text = true ↔ value = some (.str text) := by
  rcases value with _ | value
  · exact iff_of_false Bool.false_ne_true fun found => by cases found
  · cases value with
    | str other => rw [isPyStr, beq_iff_eq, Option.some.injEq, PyJson.str.injEq]
    | _ => exact iff_of_false Bool.false_ne_true fun found => by cases found

/-! ## Component messages -/

theorem exists_matchingCommandId_iff (response : PyDict) (expected : Int) :
    (∃ number, matchingCommandId response expected = .ok number) ↔
      response.lookup (pyStr "command_id") = some (.int expected) ∧ 0 < expected := by
  rw [matchingCommandId, exists_ok_bind_iff]
  simp only [requirePositiveInteger_eq_ok_iff, exists_ok_check_iff, exists_ok_ok, and_true,
    not_not]
  constructor
  · rintro ⟨number, found, rfl⟩
    exact found
  · rintro found
    exact ⟨expected, found, rfl⟩

theorem exists_matchingTestType_iff (response : PyDict) (expected : PyStr) :
    (∃ text, matchingTestType response expected = .ok text) ↔
      response.lookup (pyStr "test_type") = some (.str expected) ∧ expected ≠ [] := by
  rw [matchingTestType, exists_ok_bind_iff]
  simp only [requireString_eq_ok_iff, exists_ok_check_iff, exists_ok_ok, and_true, not_not]
  constructor
  · rintro ⟨text, found, rfl⟩
    exact found
  · rintro found
    exact ⟨expected, found, rfl⟩

/-- The fields of an event. -/
theorem eventFields_iff (response : PyDict) :
    ((response.map Prod.fst).any (fun key => !(requiredEventFields ++ [pyStr "data"]).contains key) ||
      requiredEventFields.any fun key => !(response.map Prod.fst).contains key) = false ↔
    HasKeys response requiredEventFields ∨
      HasKeys response (requiredEventFields ++ [pyStr "data"]) := by
  rw [Bool.or_eq_false_iff, List.any_eq_false, List.any_eq_false]
  simp only [Bool.not_eq_true, Bool.not_eq_false', List.contains_iff_mem]
  constructor
  · rintro ⟨known, required⟩
    by_cases present : pyStr "data" ∈ response.map Prod.fst
    · refine .inr fun key => ⟨known key, fun listed => ?_⟩
      rcases List.mem_append.mp listed with listed | listed
      · exact required key listed
      · rw [List.mem_singleton.mp listed]
        exact present
    · refine .inl fun key => ⟨fun listed => ?_, required key⟩
      rcases List.mem_append.mp (known key listed) with known | data
      · exact known
      · rw [List.mem_singleton.mp data] at listed
        exact absurd listed present
  · rintro (exactly | exactly)
    · exact ⟨fun key listed => List.mem_append_left _ ((exactly key).mp listed),
        fun key listed => (exactly key).mpr listed⟩
    · exact ⟨fun key listed => (exactly key).mp listed,
        fun key listed => (exactly key).mpr (List.mem_append_left _ listed)⟩

section Messages

variable (response : PyDict) (commandId : Int) (testType : PyStr)

/-- The checks of an event after those of its keys. -/
theorem exists_decodeEvent_iff :
    (∃ event, decodeEvent response commandId testType = .ok event) ↔
      (HasKeys response requiredEventFields ∨
        HasKeys response (requiredEventFields ++ [pyStr "data"])) ∧
      accepted.data (response.lookup (pyStr "data")) ∧
      (response.lookup (pyStr "command_id") = some (.int commandId) ∧ 0 < commandId) ∧
      (response.lookup (pyStr "test_type") = some (.str testType) ∧ testType ≠ []) ∧
      HasText response (pyStr "event") := by
  have fields : ∀ data : Option PyDict, (∃ event, (do
      let commandId ← matchingCommandId response commandId
      let testType ← matchingTestType response testType
      let event ← requireString response (pyStr "event") (pyStr "response")
      Except.ok (ComponentTestEvent.mk commandId testType event data)) = .ok event) ↔
      (response.lookup (pyStr "command_id") = some (.int commandId) ∧ 0 < commandId) ∧
      (response.lookup (pyStr "test_type") = some (.str testType) ∧ testType ≠ []) ∧
      HasText response (pyStr "event") := by
    intro data
    simp only [exists_ok_bind_iff, exists_ok_ok, and_true, exists_requireString_iff,
      exists_and_right, exists_matchingCommandId_iff, exists_matchingTestType_iff]
  rw [decodeEvent]
  dsimp only
  rw [exists_ok_check_iff, Bool.not_eq_true, eventFields_iff]
  refine and_congr_right fun _ => ?_
  have missing : accepted.data none := .inl (.inl rfl)
  have null : accepted.data (some .none) := .inr rfl
  have refused : ∀ value, (∀ members, value ≠ PyJson.dict members) → value ≠ .none →
      ¬accepted.data (some value) := by
    rintro value noObject notNull ((never | ⟨members, same⟩) | same)
    · cases never
    · exact noObject members (Option.some.inj same)
    · exact notNull (Option.some.inj same)
  cases response.lookup (pyStr "data") with
  | none => exact (fields none).trans (and_iff_right missing).symm
  | some value =>
      cases value with
      | none => exact (fields none).trans (and_iff_right null).symm
      | dict members =>
          exact (fields (some members)).trans (and_iff_right (.inl (.inr ⟨members, rfl⟩))).symm
      | _ =>
          refine iff_of_false (not_exists_ok_raiseText _) fun both => ?_
          exact refused _ (fun _ same => by cases same) (fun same => by cases same) both.1

/-- The statuses that `_decode_lifecycle_response` expects are the legal ones. -/
theorem mem_expectedStatuses_iff {messageType : PyStr}
    (lifecycle : messageType = pyStr "TEST_STARTED" ∨ messageType = pyStr "TEST_COMPLETED" ∨
      messageType = pyStr "TEST_STOPPED") (status : PyStr) :
    status ∈ expectedStatuses messageType ↔ (messageType, status) ∈ lifecycleStatuses := by
  have started : pyStr "TEST_STARTED" ≠ pyStr "TEST_COMPLETED" := by decide
  have stopped : pyStr "TEST_STOPPED" ≠ pyStr "TEST_COMPLETED" := by decide
  have apart : pyStr "TEST_STOPPED" ≠ pyStr "TEST_STARTED" := by decide
  simp only [lifecycleStatuses, List.mem_cons, List.not_mem_nil, or_false, Prod.mk.injEq]
  rcases lifecycle with rfl | rfl | rfl
  · simp only [expectedStatuses, if_true, List.mem_singleton, started, apart.symm, true_and,
      false_and, or_false]
  · simp only [expectedStatuses, if_true, if_false, List.mem_cons, List.not_mem_nil, started.symm,
      stopped.symm, true_and, false_and, false_or, or_false]
  · simp only [expectedStatuses, if_false, List.mem_singleton, apart, stopped, true_and, false_and,
      false_or]

theorem exists_decodeLifecycleResponse_iff (messageType : PyStr) :
    (∃ message, decodeLifecycleResponse response messageType commandId testType = .ok message) ↔
      HasKeys response lifecycleFields ∧
      (response.lookup (pyStr "command_id") = some (.int commandId) ∧ 0 < commandId) ∧
      (response.lookup (pyStr "test_type") = some (.str testType) ∧ testType ≠ []) ∧
      ∃ status, (response.lookup (pyStr "status") = some (.str status) ∧ status ≠ []) ∧
        status ∈ expectedStatuses messageType := by
  have last : ∀ (commandId : Int) (testType status : PyStr), (∃ message,
      (if (!(expectedStatuses messageType).contains status) = true then
        .error (.invalidStatus status messageType)
      else if messageType = pyStr "TEST_COMPLETED" then
        .ok (.completion ⟨commandId, testType, status⟩)
      else .ok (.acknowledgement messageType) :
        Except ProtocolMessageError ComponentTestMessage) = .ok message) ↔
      status ∈ expectedStatuses messageType := by
    intro commandId testType status
    have refused : (!(expectedStatuses messageType).contains status) = true ↔
        status ∉ expectedStatuses messageType := by
      rw [Bool.not_eq_true', ← Bool.not_eq_true, List.contains_iff_mem]
    by_cases listed : status ∈ expectedStatuses messageType
    · rw [if_neg fun missing => refused.mp missing listed]
      refine iff_of_true ?_ listed
      split_ifs
      · exact ⟨_, rfl⟩
      · exact ⟨_, rfl⟩
    · rw [if_pos (refused.mpr listed)]
      refine iff_of_false ?_ listed
      rintro ⟨message, raised⟩
      cases raised
  rw [decodeLifecycleResponse, exists_ok_bind_iff]
  simp only [exists_ok_bind_iff, last, requireString_eq_ok_iff, exists_and_right,
    exists_matchingCommandId_iff, exists_matchingTestType_iff, requireKeys_iff]
  rfl

/-- An ERROR response is never returned. -/
theorem not_exists_decodeError :
    ¬∃ message, decodeError response commandId = .ok message := by
  rw [decodeError]
  simp only [exists_ok_bind_iff, exists_ok_check_iff, not_exists_ok_raiseText, and_false,
    exists_false, not_false_eq_true]

/-- The lifecycle messages. -/
theorem lifecycleStatuses_cases {messageType status : PyStr}
    (listed : (messageType, status) ∈ lifecycleStatuses) :
    (messageType = pyStr "TEST_STARTED" ∨ messageType = pyStr "TEST_COMPLETED" ∨
      messageType = pyStr "TEST_STOPPED") ∧ status ≠ [] := by
  have nonempty : ∀ entry ∈ lifecycleStatuses, entry.2 ≠ [] := by decide
  refine ⟨?_, nonempty _ listed⟩
  simp only [lifecycleStatuses, List.mem_cons, List.not_mem_nil, or_false, Prod.mk.injEq] at listed
  rcases listed with ⟨same, _⟩ | ⟨same, _⟩ | ⟨same, _⟩ | ⟨same, _⟩
  · exact .inl same
  · exact .inr (.inl same)
  · exact .inr (.inl same)
  · exact .inr (.inr same)

/-- The part of `decode_component_test_message` for messages other than ERROR, by their type. -/
theorem exists_decodeByType_iff (messageType : PyStr) :
    (∃ message,
      (if messageType = pyStr "TEST_EVENT" then
        (decodeEvent response commandId testType).map ComponentTestMessage.event
      else if messageType = pyStr "TEST_STARTED" ∨ messageType = pyStr "TEST_COMPLETED" ∨
          messageType = pyStr "TEST_STOPPED" then
        decodeLifecycleResponse response messageType commandId testType
      else
        raiseText [pyStr "response type is not a component lifecycle message: ", messageType]) =
      .ok message) ↔
      (messageType = pyStr "TEST_EVENT" ∧
        ∃ event, decodeEvent response commandId testType = .ok event) ∨
      ((messageType = pyStr "TEST_STARTED" ∨ messageType = pyStr "TEST_COMPLETED" ∨
          messageType = pyStr "TEST_STOPPED") ∧
        ∃ message, decodeLifecycleResponse response messageType commandId testType =
          .ok message) := by
  have apart : pyStr "TEST_EVENT" ≠ pyStr "TEST_STARTED" ∧
      pyStr "TEST_EVENT" ≠ pyStr "TEST_COMPLETED" ∧ pyStr "TEST_EVENT" ≠ pyStr "TEST_STOPPED" := by
    decide
  split_ifs with event lifecycle
  · subst event
    rw [exists_ok_map_iff]
    simp only [true_and, apart, or_self, false_and, or_false]
  · simp only [event, false_and, false_or, lifecycle, true_and]
  · simp only [event, lifecycle, false_and, or_self, not_exists_ok_raiseText]

/-- **What `decode_component_test_message` makes of an object.** -/
theorem exists_decodeComponentTestResponse_iff :
    (∃ message, decodeComponentTestResponse response commandId testType = .ok message) ↔
      IsComponentMessage accepted commandId testType response := by
  have notEmpty : ∀ messageType, messageType = pyStr "TEST_EVENT" ∨
      messageType = pyStr "TEST_STARTED" ∨ messageType = pyStr "TEST_COMPLETED" ∨
        messageType = pyStr "TEST_STOPPED" →
      messageType ≠ [] ∧ messageType ≠ pyStr "ERROR" := by
    rintro messageType (rfl | rfl | rfl | rfl)
    · decide
    · decide
    · decide
    · decide
  rw [decodeComponentTestResponse, exists_ok_check_iff, Bool.not_eq_true', Bool.not_eq_false]
  by_cases refused : response.lookup (pyStr "type") = some (.str (pyStr "ERROR"))
  · rw [if_pos ((isPyStr_iff _ _).mpr refused)]
    refine iff_of_false (fun both => not_exists_decodeError _ _ both.2) fun message => ?_
    rcases message.kind with event | lifecycle
    · have typed := refused.symm.trans event.typed
      exact (notEmpty _ (.inl rfl)).2 (PyJson.str.inj (Option.some.inj typed)).symm
    · obtain ⟨messageType, status, listed, typed, _⟩ := lifecycle.legal
      have same := PyJson.str.inj (Option.some.inj (refused.symm.trans typed))
      exact (notEmpty _ (.inr (lifecycleStatuses_cases listed).1)).2 same.symm
  · rw [if_neg fun found => refused ((isPyStr_iff _ _).mp found), exists_ok_bind_iff]
    simp only [requireString_eq_ok_iff, exists_decodeByType_iff, exists_decodeEvent_iff,
      exists_decodeLifecycleResponse_iff]
    constructor
    · rintro ⟨version, messageType, ⟨typed, _⟩, ⟨rfl, keys, data, correlated, tested, named⟩ |
        ⟨either, keys, correlated, tested, status, ⟨found, _⟩, legal⟩⟩
      · exact ⟨version, correlated, tested, .inl ⟨keys, typed, named, data⟩⟩
      · refine ⟨version, correlated, tested, .inr ⟨keys, messageType, status, ?_, typed, found⟩⟩
        exact (mem_expectedStatuses_iff either status).mp legal
    · rintro ⟨version, correlated, tested, event | lifecycle⟩
      · refine ⟨version, _, ⟨event.typed, (notEmpty _ (.inl rfl)).1⟩, .inl ⟨rfl, ?_⟩⟩
        exact ⟨event.keys, event.data, correlated, tested, event.named⟩
      · obtain ⟨messageType, status, listed, typed, found⟩ := lifecycle.legal
        obtain ⟨either, nonempty⟩ := lifecycleStatuses_cases listed
        refine ⟨version, messageType, ⟨typed, (notEmpty _ (.inr either)).1⟩, .inr ⟨either, ?_⟩⟩
        exact ⟨lifecycle.keys, correlated, tested, status, ⟨found, nonempty⟩,
          (mem_expectedStatuses_iff either status).mpr listed⟩

/-! ## START_TEST responses -/

/-- An ERROR response is never returned. -/
theorem not_exists_decodeStartTestError :
    ¬∃ started, decodeStartTestError response = .ok started := by
  rw [decodeStartTestError]
  simp only [exists_ok_bind_iff, not_exists_ok_raiseText, and_false, exists_false,
    not_false_eq_true]

theorem requireObject_eq_ok_iff (value : PyJson) (location : PyStr) (object : PyDict) :
    requireObject value location = .ok object ↔ value = .dict object := by
  cases value with
  | dict members =>
      exact ⟨fun same => congrArg _ (Except.ok.inj same), fun same => congrArg _ (PyJson.dict.inj same)⟩
  | _ => exact iff_of_false (fun raised => by cases raised) fun same => by cases same

/-- A member of a dictionary that is an object. -/
theorem getD_eq_dict_iff (value : Option PyJson) (object : PyDict) :
    value.getD .none = .dict object ↔ value = some (.dict object) := by
  cases value with
  | none => exact iff_of_false (fun same => by cases same) fun same => by cases same
  | some value => rw [Option.getD_some, Option.some.injEq]

/-- The checks of the `device` object. -/
theorem decodeDevice_eq_ok_iff (device : PyDict) :
    decodeDevice response = .ok device ↔
      response.lookup (pyStr "device") = some (.dict device) ∧
        HasKeys device (pyStr "uid" :: deviceTexts) ∧
          ∃ uid, (device.lookup (pyStr "uid") = some (.str uid) ∧ uid ≠ []) ∧ isUid uid = true := by
  have last : ∀ (found : PyDict) (uid : PyStr),
      (if !isUid uid then raiseText [pyStr "response.device.uid must be 24 uppercase hex digits"]
        else .ok found : Except ProtocolMessageError PyDict) = .ok device ↔
      isUid uid = true ∧ found = device := by
    intro found uid
    cases isUid uid with
    | true => exact Except.ok.injEq found device ▸ (and_iff_right rfl).symm
    | false => exact iff_of_false (fun raised => by cases raised) fun both => by cases both.1
  rw [decodeDevice, except_bind_eq_ok_iff]
  simp only [except_bind_eq_ok_iff, requireObject_eq_ok_iff, getD_eq_dict_iff,
    requireString_eq_ok_iff, last, exists_and_right, requireKeys_iff]
  constructor
  · rintro ⟨found, isDevice, keys, uid, text, isUid, rfl⟩
    exact ⟨isDevice, keys, uid, text, isUid⟩
  · rintro ⟨isDevice, keys, uid, text, isUid⟩
    exact ⟨device, isDevice, keys, uid, text, isUid, rfl⟩

/-- Every element is a capability. -/
theorem mapM_capabilityName_eq_some_iff (values : List PyJson) (names : List PyStr) :
    values.mapM capabilityName = some names ↔
      values = names.map .str ∧ ∀ name ∈ names, name ≠ [] := by
  have one : ∀ (value : PyJson) (name : PyStr),
      capabilityName value = some name ↔ value = .str name ∧ name ≠ [] := by
    intro value name
    cases value with
    | str text =>
        rw [capabilityName, PyJson.str.injEq]
        by_cases empty : text.isEmpty = true
        · rw [if_pos empty]
          refine iff_of_false (fun found => by cases found) ?_
          rintro ⟨rfl, nonempty⟩
          exact nonempty (List.isEmpty_iff.mp empty)
        · rw [if_neg empty, Option.some.injEq]
          refine ⟨?_, And.left⟩
          rintro rfl
          exact ⟨rfl, fun none => empty (List.isEmpty_iff.mpr none)⟩
    | _ => exact iff_of_false (fun found => by cases found) fun both => by cases both.1
  induction values generalizing names with
  | nil =>
      rw [List.mapM_nil]
      cases names with
      | nil => exact iff_of_true rfl ⟨rfl, List.forall_mem_nil _⟩
      | cons name names => exact iff_of_false (fun found => by cases found) fun both => by cases both.1
  | cons value values ih =>
      rw [List.mapM_cons]
      cases names with
      | nil =>
          refine iff_of_false (fun found => ?_) fun both => by cases both.1
          obtain ⟨_, _, found⟩ := Option.bind_eq_some_iff.mp found
          obtain ⟨_, _, found⟩ := Option.bind_eq_some_iff.mp found
          cases found
      | cons name names =>
          rw [List.map_cons, List.cons.injEq, List.forall_mem_cons]
          constructor
          · intro found
            obtain ⟨first, isFirst, found⟩ := Option.bind_eq_some_iff.mp found
            obtain ⟨others, areOthers, found⟩ := Option.bind_eq_some_iff.mp found
            obtain ⟨rfl, rfl⟩ := List.cons.inj (Option.some.inj found)
            obtain ⟨value, nonempty⟩ := (one _ _).mp isFirst
            obtain ⟨values, legal⟩ := (ih _).mp areOthers
            exact ⟨⟨value, values⟩, nonempty, legal⟩
          · rintro ⟨⟨value, values⟩, nonempty, legal⟩
            refine Option.bind_eq_some_iff.mpr ⟨name, (one _ _).mpr ⟨value, nonempty⟩, ?_⟩
            exact Option.bind_eq_some_iff.mpr ⟨names, (ih _).mpr ⟨values, legal⟩, rfl⟩

theorem exists_decodeCapabilities_iff :
    (∃ names, decodeCapabilities response = .ok names) ↔
      ∃ values, response.lookup (pyStr "capabilities") = some (.list values) ∧
        AreCapabilities values := by
  have others : (∀ values, response.lookup (pyStr "capabilities") ≠ some (.list values)) →
      ¬∃ values, response.lookup (pyStr "capabilities") = some (.list values) ∧
        AreCapabilities values := by
    rintro other ⟨values, found, _⟩
    exact other values found
  rw [decodeCapabilities]
  split
  · next values found =>
      rw [show (∃ values', response.lookup (pyStr "capabilities") = some (.list values') ∧
          AreCapabilities values') ↔ AreCapabilities values from
        ⟨fun ⟨_, same, are⟩ => PyJson.list.inj (Option.some.inj (found.symm.trans same)) ▸ are,
          fun are => ⟨values, found, are⟩⟩]
      cases named : values.mapM capabilityName with
      | none =>
          refine iff_of_false (not_exists_ok_raiseText _) ?_
          rintro ⟨names, same, nonempty, _⟩
          rw [(mapM_capabilityName_eq_some_iff values names).mpr ⟨same, nonempty⟩] at named
          cases named
      | some names =>
          obtain ⟨same, nonempty⟩ := (mapM_capabilityName_eq_some_iff values names).mp named
          dsimp only
          by_cases distinct : names.Nodup
          · rw [if_pos distinct]
            exact iff_of_true ⟨_, rfl⟩ ⟨names, same, nonempty, distinct⟩
          · rw [if_neg distinct]
            refine iff_of_false (not_exists_ok_raiseText _) ?_
            rintro ⟨names', same', nonempty', distinct'⟩
            have again := (mapM_capabilityName_eq_some_iff values names').mpr ⟨same', nonempty'⟩
            exact distinct (Option.some.inj (again.symm.trans named) ▸ distinct')
  · next other => exact iff_of_false (not_exists_ok_raiseText _) (others other)

theorem exists_startTestResponse_iff (device firmware : PyDict) (capabilities : List PyStr) :
    (∃ started, startTestResponse commandId device firmware capabilities = .ok started) ↔
      HasText device (pyStr "uid") ∧ (∀ field ∈ deviceTexts, HasText device field) ∧
        ∀ field ∈ firmwareTexts, HasText firmware field := by
  rw [startTestResponse]
  simp only [exists_ok_bind_iff, exists_ok_ok, and_true, exists_requireString_iff, exists_and_right,
    deviceTexts, firmwareTexts, List.forall_mem_cons, List.not_mem_nil, false_imp_iff, implies_true,
    and_assoc]

/-- The calls of `decode_start_test_response` behind the checks of type, status and id. -/
theorem exists_decodeStartTestBody_iff (number : Int) :
    (∃ device, decodeDevice response = .ok device ∧
      ∃ firmware, requireObject ((response.lookup (pyStr "firmware")).getD .none)
          (pyStr "response.firmware") = .ok firmware ∧
        HasKeys firmware firmwareTexts ∧
          ∃ names, decodeCapabilities response = .ok names ∧
            ∃ started, startTestResponse number device firmware names = .ok started) ↔
      (∃ device, response.lookup (pyStr "device") = some (.dict device) ∧ IsDevice device) ∧
      (∃ firmware, response.lookup (pyStr "firmware") = some (.dict firmware) ∧
        IsFirmware firmware) ∧
      ∃ values, response.lookup (pyStr "capabilities") = some (.list values) ∧
        AreCapabilities values := by
  simp only [decodeDevice_eq_ok_iff, requireObject_eq_ok_iff, getD_eq_dict_iff,
    exists_startTestResponse_iff, exists_and_right, exists_decodeCapabilities_iff]
  constructor
  · rintro ⟨device, ⟨isDevice, keys, uid, ⟨text, _⟩, isUid⟩, firmware, isFirmware, keys', listed, _,
      texts, texts'⟩
    exact ⟨⟨device, isDevice, keys, ⟨uid, text, isUid⟩, texts⟩,
      ⟨firmware, isFirmware, keys', texts'⟩, listed⟩
  · rintro ⟨⟨device, isDevice, keys, ⟨uid, text, isUid⟩, texts⟩, ⟨firmware, isFirmware, keys', texts'⟩,
      listed⟩
    have nonempty : uid ≠ [] := by
      rintro rfl
      exact absurd isUid (by decide)
    exact ⟨device, ⟨isDevice, keys, uid, ⟨text, nonempty⟩, isUid⟩, firmware, isFirmware, keys',
      listed, ⟨uid, text, nonempty⟩, texts, texts'⟩

/-- **What `decode_start_test_response` makes of an object** that is no ERROR response. -/
theorem exists_decodeStartTestSuccess_iff :
    (∃ started, decodeStartTestSuccess response commandId = .ok started) ↔
      HasKeys response startTestFields ∧
      response.lookup (pyStr "type") = some (.str (pyStr "START_TEST_RESPONSE")) ∧
      response.lookup (pyStr "status") = some (.str (pyStr "ok")) ∧
      (response.lookup (pyStr "command_id") = some (.int commandId) ∧ 0 < commandId) ∧
      (∃ device, response.lookup (pyStr "device") = some (.dict device) ∧ IsDevice device) ∧
      (∃ firmware, response.lookup (pyStr "firmware") = some (.dict firmware) ∧
        IsFirmware firmware) ∧
      ∃ values, response.lookup (pyStr "capabilities") = some (.list values) ∧
        AreCapabilities values := by
  have typed : ∀ field text, (¬(!isPyStr (response.lookup field) text) = true) ↔
      response.lookup field = some (.str text) := by
    intro field text
    rw [Bool.not_eq_true', Bool.not_eq_false, isPyStr_iff]
  rw [decodeStartTestSuccess, exists_ok_bind_iff]
  simp only [exists_and_right, requireKeys_iff, exists_ok_check_iff, typed, exists_ok_bind_iff,
    requirePositiveInteger_eq_ok_iff, not_not]
  refine and_congr_right fun _ => and_congr_right fun _ => and_congr_right fun _ => ?_
  constructor
  · rintro ⟨number, found, rfl, body⟩
    exact ⟨found, (exists_decodeStartTestBody_iff response number).mp body⟩
  · rintro ⟨found, body⟩
    exact ⟨commandId, found, rfl, (exists_decodeStartTestBody_iff response commandId).mpr body⟩

/-- **What `decode_start_test_response` makes of an object.** -/
theorem exists_decodeStartTestObject_iff :
    (∃ started, (if !isProtocolVersion (response.lookup (pyStr "protocol_version")) then
        raiseText [pyStr "response has an unsupported protocol_version"]
      else if isPyStr (response.lookup (pyStr "type")) (pyStr "ERROR") then
        decodeStartTestError response
      else decodeStartTestSuccess response commandId : Except ProtocolMessageError _) =
        .ok started) ↔
      IsStartTestResponse accepted commandId response := by
  rw [exists_ok_check_iff, Bool.not_eq_true', Bool.not_eq_false]
  by_cases refused : response.lookup (pyStr "type") = some (.str (pyStr "ERROR"))
  · rw [if_pos ((isPyStr_iff _ _).mpr refused)]
    refine iff_of_false (fun both => not_exists_decodeStartTestError _ both.2) fun started => ?_
    have same := PyJson.str.inj (Option.some.inj (refused.symm.trans started.typed))
    exact absurd same (by decide)
  · rw [if_neg fun found => refused ((isPyStr_iff _ _).mp found), exists_decodeStartTestSuccess_iff]
    constructor
    · rintro ⟨version, keys, typed, ended, correlated, device, firmware, capabilities⟩
      exact ⟨version, keys, typed, ended, correlated, device, firmware, capabilities⟩
    · rintro ⟨version, keys, typed, ended, correlated, device, firmware, capabilities⟩
      exact ⟨version, keys, typed, ended, correlated, device, firmware, capabilities⟩

end Messages

/-! ## Lines -/

/-- **A decoder keeps the contract on a line**: it returns a value exactly if the line is the text
of an object that the contract allows, and otherwise raises `ProtocolMessageError`. -/
structure KeepsContract {α : Type} (outcome : Except TesterError α) (allowed : Prop) : Prop where
  returns : (∃ value, outcome = .ok value) ↔ allowed
  raises : ∀ error, outcome = .error error → ∃ message, error = .protocolMessage message

/-- A decoder keeps the contract on the lines that are not nested too deeply and that it does not
accept beyond the contract. -/
theorem keepsContract_decodeLine_iff {α : Type} {tooDeep : PyStr → Bool}
    {decode : Bytes → Except ProtocolMessageError α} {line : Bytes} {takes allowed : Prop}
    (returns : (∃ value, decode line = .ok value) ↔ takes) (weaker : allowed → takes) :
    KeepsContract (decodeLine tooDeep decode line) allowed ↔
      isTooDeep tooDeep line = false ∧ (takes → allowed) := by
  rw [decodeLine]
  cases deep : isTooDeep tooDeep line with
  | true =>
      refine iff_of_false (fun keeps => ?_) fun both => by cases both.1
      obtain ⟨message, same⟩ := keeps.raises _ (if_pos rfl)
      cases same
  | false =>
      rw [if_neg Bool.false_ne_true]
      have same : (∃ value, (decode line).mapError TesterError.protocolMessage = .ok value) ↔
          takes := by
        rw [← returns]
        cases decode line with
        | ok value => exact iff_of_true ⟨_, rfl⟩ ⟨_, rfl⟩
        | error error =>
            refine iff_of_false ?_ ?_
            · rintro ⟨value, raised⟩
              cases raised
            · rintro ⟨value, raised⟩
              cases raised
      refine ⟨fun keeps => ⟨rfl, fun taken => keeps.returns.mp (same.mpr taken)⟩, fun both => ?_⟩
      refine ⟨same.trans ⟨both.2, weaker⟩, fun error raised => ?_⟩
      cases decoded : decode line with
      | ok value =>
          rw [decoded] at raised
          cases raised
      | error message =>
          rw [decoded] at raised
          exact ⟨message, (Except.error.inj raised).symm⟩

/-- Whether a value is an integer. -/
def isInteger : Option PyJson → Bool
  | some (.int _) => true
  | _ => false

/-- Whether a value is null. -/
def isNull : Option PyJson → Bool
  | some .none => true
  | _ => false

/-- The version of the object is spelled as an integer, where the object has a version. -/
def SpellsVersion (object : PyDict) : Prop :=
  isInteger (object.lookup (pyStr "protocol_version")) = true

/-- The object has no null as its data. -/
def SpellsData (object : PyDict) : Prop := isNull (object.lookup (pyStr "data")) = false

/-- Of the values that equal 1, the contract allows the integer. -/
theorem contract_version_iff (value : Option PyJson) :
    contract.version value ↔ accepted.version value ∧ isInteger value = true := by
  constructor
  · rintro rfl
    exact ⟨beq_self_eq_true _, rfl⟩
  · rintro ⟨one, integer⟩
    rcases value with _ | value
    · cases integer
    · cases value with
      | int number => exact congrArg _ (congrArg _ (beq_iff_eq.mp one))
      | _ => cases integer

/-- Of the data that are accepted, the contract allows all but null. -/
theorem contract_data_iff (value : Option PyJson) :
    contract.data value ↔ accepted.data value ∧ isNull value = false := by
  constructor
  · intro allowed
    refine ⟨.inl allowed, ?_⟩
    rcases allowed with rfl | ⟨members, rfl⟩
    · rfl
    · rfl
  · rintro ⟨allowed | rfl, notNull⟩
    · exact allowed
    · cases notNull

/-- Lifecycle messages have no data. -/
theorem IsLifecycle.spellsData {response : PyDict} (lifecycle : IsLifecycle response) :
    SpellsData response := by
  have absent : pyStr "data" ∉ response.map Prod.fst := by
    rw [lifecycle.keys]
    decide
  have none : response.lookup (pyStr "data") = none := by
    rw [List.lookup_eq_none_iff]
    intro entry listed
    rw [bne_iff_ne]
    intro same
    exact absent (same ▸ List.mem_map_of_mem listed)
  rw [SpellsData, none]
  rfl

/-- **The contract of component messages**, and what is accepted beyond it. -/
theorem isComponentMessage_contract_iff (commandId : Int) (testType : PyStr) (response : PyDict) :
    IsComponentMessage contract commandId testType response ↔
      IsComponentMessage accepted commandId testType response ∧ SpellsVersion response ∧
        SpellsData response := by
  constructor
  · rintro ⟨version, correlated, tested, kind⟩
    obtain ⟨one, integer⟩ := (contract_version_iff _).mp version
    rcases kind with ⟨keys, typed, named, data⟩ | lifecycle
    · obtain ⟨allowed, notNull⟩ := (contract_data_iff _).mp data
      exact ⟨⟨one, correlated, tested, .inl ⟨keys, typed, named, allowed⟩⟩, integer, notNull⟩
    · exact ⟨⟨one, correlated, tested, .inr lifecycle⟩, integer, lifecycle.spellsData⟩
  · rintro ⟨⟨one, correlated, tested, kind⟩, integer, notNull⟩
    refine ⟨(contract_version_iff _).mpr ⟨one, integer⟩, correlated, tested, ?_⟩
    rcases kind with ⟨keys, typed, named, data⟩ | lifecycle
    · exact .inl ⟨keys, typed, named, (contract_data_iff _).mpr ⟨data, notNull⟩⟩
    · exact .inr lifecycle

/-- **The contract of START_TEST responses**, and what is accepted beyond it. -/
theorem isStartTestResponse_contract_iff (commandId : Int) (response : PyDict) :
    IsStartTestResponse contract commandId response ↔
      IsStartTestResponse accepted commandId response ∧ SpellsVersion response := by
  constructor
  · rintro ⟨version, keys, typed, ended, correlated, device, firmware, capabilities⟩
    obtain ⟨one, integer⟩ := (contract_version_iff _).mp version
    exact ⟨⟨one, keys, typed, ended, correlated, device, firmware, capabilities⟩, integer⟩
  · rintro ⟨⟨one, keys, typed, ended, correlated, device, firmware, capabilities⟩, integer⟩
    exact ⟨(contract_version_iff _).mpr ⟨one, integer⟩, keys, typed, ended, correlated, device,
      firmware, capabilities⟩

/-- The line is the text of an object of a kind. -/
def IsLineOf (kind : PyDict → Prop) (line : Bytes) : Prop :=
  ∃ object, IsObjectLine line object ∧ kind object

/-- A line is the text of one object at most. -/
theorem isLineOf_imp_iff {kind narrower : PyDict → Prop} {condition : PyDict → Prop} {line : Bytes}
    (narrows : ∀ object, narrower object ↔ kind object ∧ condition object) :
    (IsLineOf kind line → IsLineOf narrower line) ↔
      ∀ object, IsObjectLine line object → kind object → condition object := by
  constructor
  · intro implied object text isKind
    obtain ⟨other, text', isNarrower⟩ := implied ⟨object, text, isKind⟩
    have same := ((decodeObject_eq_ok_iff line other).mpr text').symm.trans
      ((decodeObject_eq_ok_iff line object).mpr text)
    rw [Except.ok.inj same] at isNarrower
    exact ((narrows object).mp isNarrower).2
  · rintro each ⟨object, text, isKind⟩
    exact ⟨object, text, (narrows object).mpr ⟨isKind, each object text isKind⟩⟩

theorem exists_decodeComponentTestMessage_iff (line : Bytes) (commandId : Int) (testType : PyStr) :
    (∃ message, decodeComponentTestMessage line commandId testType = .ok message) ↔
      IsLineOf (IsComponentMessage accepted commandId testType) line := by
  rw [decodeComponentTestMessage, exists_ok_bind_iff]
  simp only [decodeObject_eq_ok_iff, exists_decodeComponentTestResponse_iff]
  rfl

theorem exists_decodeStartTestResponse_iff (line : Bytes) (commandId : Int) :
    (∃ started, decodeStartTestResponse line commandId = .ok started) ↔
      IsLineOf (IsStartTestResponse accepted commandId) line := by
  rw [decodeStartTestResponse, exists_ok_bind_iff]
  simp only [decodeObject_eq_ok_iff, exists_decodeStartTestObject_iff]
  rfl

/-- **The decoders and the contract**: on every line, each of them keeps the contract exactly if the
line is not nested too deeply and its object, should it be in order with the leniency of Python's
comparisons, spells its version as an integer and, in a component message, has no null
as its data. -/
theorem decoders_keep_contract_iff (tooDeep : PyStr → Bool) (line : Bytes) (commandId : Int)
    (testType : PyStr) :
    (KeepsContract
        (decodeLine tooDeep (fun line => decodeComponentTestMessage line commandId testType) line)
        (IsLineOf (IsComponentMessage contract commandId testType) line) ↔
      isTooDeep tooDeep line = false ∧ ∀ object, IsObjectLine line object →
        IsComponentMessage accepted commandId testType object →
          SpellsVersion object ∧ SpellsData object) ∧
    (KeepsContract
        (decodeLine tooDeep (fun line => decodeStartTestResponse line commandId) line)
        (IsLineOf (IsStartTestResponse contract commandId) line) ↔
      isTooDeep tooDeep line = false ∧ ∀ object, IsObjectLine line object →
        IsStartTestResponse accepted commandId object → SpellsVersion object) := by
  have component := isComponentMessage_contract_iff commandId testType
  have session := isStartTestResponse_contract_iff commandId
  rw [← isLineOf_imp_iff component, ← isLineOf_imp_iff session]
  refine ⟨keepsContract_decodeLine_iff (exists_decodeComponentTestMessage_iff line commandId testType)
    ?_, keepsContract_decodeLine_iff (exists_decodeStartTestResponse_iff line commandId) ?_⟩
  · rintro ⟨object, text, message⟩
    exact ⟨object, text, ((component object).mp message).1⟩
  · rintro ⟨object, text, started⟩
    exact ⟨object, text, ((session object).mp started).1⟩

/-- The start of a component test, with `true` as its version. -/
def trueVersionLine : Bytes :=
  ascii "\x7b\"protocol_version\":true,\"type\":\"TEST_STARTED\",\"command_id\":2,\"test_type\":\"imu\",\"status\":\"running\"\x7d"

/-- An event with null as its data. -/
def nullDataLine : Bytes :=
  ascii "\x7b\"protocol_version\":1,\"type\":\"TEST_EVENT\",\"command_id\":2,\"test_type\":\"imu\",\"event\":\"imu_ready\",\"data\":null\x7d"

/-- Whether the line is accepted in the IMU test with the id 2, and is not spelled plainly. -/
def isAcceptedBeyondContract (line : Bytes) : Bool :=
  match decodeObject line, decodeComponentTestMessage line 2 (pyStr "imu") with
  | .ok object, .ok _ =>
      !(isInteger (object.lookup (pyStr "protocol_version")) &&
        !isNull (object.lookup (pyStr "data")))
  | _, _ => false

/-- A line that is accepted beyond the contract. -/
theorem not_keepsContract_of_beyond {line : Bytes} (beyond : isAcceptedBeyondContract line = true) :
    ¬KeepsContract
      (decodeLine (fun _ => false) (fun line => decodeComponentTestMessage line 2 (pyStr "imu")) line)
      (IsLineOf (IsComponentMessage contract 2 (pyStr "imu")) line) := by
  intro keeps
  rw [isAcceptedBeyondContract] at beyond
  cases decoded : decodeObject line with
  | error error =>
      rw [decoded] at beyond
      cases beyond
  | ok object =>
      cases returned : decodeComponentTestMessage line 2 (pyStr "imu") with
      | error error =>
          rw [decoded, returned] at beyond
          cases beyond
      | ok message =>
          have shallow : isTooDeep (fun _ => false) line = false := by
            rw [isTooDeep]
            cases decodeUtf8 line with
            | none => rfl
            | some text => rfl
          have value : decodeLine (fun _ => false)
              (fun line => decodeComponentTestMessage line 2 (pyStr "imu")) line = .ok message := by
            rw [decodeLine, shallow, returned]
            rfl
          obtain ⟨other, text, isMessage⟩ := keeps.returns.mp ⟨message, value⟩
          have same := ((decodeObject_eq_ok_iff line other).mpr text).symm.trans decoded
          rw [Except.ok.inj same] at isMessage
          obtain ⟨_, integer, notNull⟩ := (isComponentMessage_contract_iff _ _ _).mp isMessage
          rw [decoded, returned] at beyond
          dsimp only at beyond
          rw [show isInteger _ = true from integer, show isNull _ = false from notNull] at beyond
          cases beyond

/-- Both lines are accepted, and the contract allows neither. -/
theorem accepted_beyond_contract :
    ¬KeepsContract
        (decodeLine (fun _ => false) (fun line => decodeComponentTestMessage line 2 (pyStr "imu"))
          trueVersionLine)
        (IsLineOf (IsComponentMessage contract 2 (pyStr "imu")) trueVersionLine) ∧
      ¬KeepsContract
        (decodeLine (fun _ => false) (fun line => decodeComponentTestMessage line 2 (pyStr "imu"))
          nullDataLine)
        (IsLineOf (IsComponentMessage contract 2 (pyStr "imu")) nullDataLine) :=
  ⟨not_keepsContract_of_beyond (by decide +kernel), not_keepsContract_of_beyond (by decide +kernel)⟩

end FlightComputer.BoardTester
