import FlightComputer.DeviceErrors
import FlightComputer.RequestStrictness

/-!
# Requests of unknown types

The parser has a request type for unknown message types, and `process_line` a branch that
answers them with `unsupported_message_type` and their id. No line gets there: the parser ends
with conditions that no request of the type UNSUPPORTED meets. So a request whose only fault is
its type is answered like any text that is no request, with `invalid_request` and the id 0
(`unknown_type_is_invalid_request`).
-/

set_option autoImplicit false

namespace FlightComputer

open Library Firmware

/-- The names of the requests that there are. -/
def knownTypes : List Bytes :=
  [ascii "START_TEST", ascii "RUN_COMPONENT_TEST", ascii "STOP_COMPONENT_TEST"]

/-- **The text of a request that is in order but for its type**: one JSON object with the protocol
version, a type that is not known, a command id, and the other members of some
request, in any order. -/
structure HasUnknownType (text : Bytes) (request : Request) (typeName : Bytes) : Prop where
  admissible : request.Admissible
  unknown : typeName ∉ knownTypes
  spelled : ∃ members others, request.body.SpelledBy plainNumeral others ∧
    members.Perm (.protocolVersion (decimalText 1) :: .type typeName ::
      .commandId (decimalText request.commandId) :: others) ∧
    IsJsonText text (requestTree members)

/-- The names of requests are known. -/
theorem typeName_known (body : RequestBody) : body.typeName ∈ knownTypes := by
  cases body with
  | startTest testUuid => exact List.mem_cons_self
  | runComponentTest testType colour => exact .tail _ List.mem_cons_self
  | stopComponentTest => exact .tail _ (.tail _ List.mem_cons_self)

/-- The members that only some requests have do not include a type. -/
theorem type_notMem_others {numeral : Numeral} {body : RequestBody} {others : List RequestMember}
    (spelled : body.SpelledBy numeral others) (typeName : Bytes) :
    RequestMember.type typeName ∉ others := by
  intro listed
  cases body with
  | startTest testUuid =>
      obtain rfl := spelled
      cases List.mem_singleton.mp listed
  | runComponentTest testType colour =>
      cases colour with
      | none =>
          obtain rfl := spelled
          cases List.mem_singleton.mp listed
      | some colour =>
          obtain ⟨channels, _, rfl⟩ := spelled
          rcases List.mem_cons.mp listed with same | listed
          · cases same
          · cases List.mem_singleton.mp listed
  | stopComponentTest =>
      obtain rfl := spelled
      cases listed

/-- The members of a request know its type. -/
theorem typeName_of_spelledBy {numeral : Numeral} {request : Request}
    {members : List RequestMember} (spelled : request.SpelledBy numeral members) {typeName : Bytes}
    (listed : .type typeName ∈ members) : typeName = request.body.typeName := by
  obtain ⟨version, commandId, others, _, _, body, order⟩ := spelled
  rcases List.mem_cons.mp (order.mem_iff.mp listed) with same | listed
  · cases same
  · rcases List.mem_cons.mp listed with same | listed
    · exact RequestMember.type.inj same
    · rcases List.mem_cons.mp listed with same | listed
      · cases same
      · exact absurd listed (type_notMem_others body typeName)

/-- **The parser rejects them.** -/
theorem HasUnknownType.rejected {text typeName : Bytes} {request : Request}
    (unknown : HasUnknownType text request typeName) :
    ∃ stop, jsonProtocolParseRequest text = .error stop := by
  cases parsed : jsonProtocolParseRequest text with
  | error stop => exact ⟨stop, rfl⟩
  | ok record =>
      obtain ⟨_, unknown, members, others, _, order, json⟩ := unknown
      obtain ⟨located, members', reads, spells, read⟩ :=
        (jsonProtocolParseRequest_eq_ok_iff text record).mp parsed
      obtain ⟨located', reads', lexemes⟩ := exists_reads_of_isJsonText json
      obtain rfl := reads.unique reads'
      have nonempty : members ≠ [] := by
        rintro rfl
        exact absurd order.length_eq (by simp)
      have tokens := spells.tokens
      rw [lexemes, tokens_requestTree nonempty] at tokens
      obtain rfl := members_unique (List.cons.inj tokens).2
      obtain ⟨request', _, spelled, _⟩ := (readMembers_eq_some_iff members record).mp read
      have listed : RequestMember.type typeName ∈ members :=
        order.mem_iff.mpr (.tail _ List.mem_cons_self)
      refine absurd ?_ unknown
      rw [typeName_of_spelledBy spelled listed]
      exact typeName_known _

/-- What an error message ends with. -/
theorem errorMessage_ending (commandId : UInt32) (errorCode : String) :
    (ascii errorCode ++ ascii "\"\x7d") <:+ errorMessage commandId errorCode := by
  refine ⟨[ascii "\x7b\"protocol_version\":1,\"type\":\"ERROR\",\"command_id\":",
    decimalText commandId.toNat, ascii ",\"error\":\""].flatten, ?_⟩
  simp only [errorMessage, errorResponsePieces, List.flatten_cons, List.flatten_nil,
    List.append_assoc, List.append_nil]

/-- The answer to a text that is no request is not the one to an unknown type. -/
theorem invalidRequest_ne_unsupportedMessageType (commandId : UInt32) :
    errorLine 0 "invalid_request" ≠ errorLine commandId "unsupported_message_type" := by
  rw [errorLine_eq 0 (isWord_errorCode (by decide)),
    errorLine_eq commandId (isWord_errorCode (by decide))]
  intro same
  have first := errorMessage_ending 0 "invalid_request"
  rw [Option.some.inj same] at first
  have ends := List.suffix_of_suffix_length_le first
    (errorMessage_ending commandId "unsupported_message_type") (by decide)
  exact absurd ends (by decide)

/-- The reply that `process_line` has for unknown types: an error with the id of the request,
and the runner as it was. -/
def RepliesUnsupported {δ : Type} (registry : ComponentTestRegistry δ)
    (metadata : SessionMetadata) (line : Bytes) (commandId : UInt32) (s : SessionState δ) : Prop :=
  ∃ t, processLine registry metadata line s =
      some (errorLine commandId "unsupported_message_type", t) ∧ t.runner = s.runner

/-- **No request of an unknown type gets the reply for unknown types.** It is answered like a
text that is no request, and the session is as it was. -/
theorem unknown_type_is_invalid_request {δ : Type} (registry : ComponentTestRegistry δ)
    (metadata : SessionMetadata) (s : SessionState δ) {text typeName : Bytes} {request : Request}
    (unknown : HasUnknownType text request typeName) :
    processLine registry metadata text s = some (errorLine 0 "invalid_request", s) ∧
      ¬RepliesUnsupported registry metadata text (UInt32.ofNat request.commandId) s := by
  obtain ⟨stop, rejected⟩ := unknown.rejected
  have answered : processLine registry metadata text s =
      some (errorLine 0 "invalid_request", s) := by
    rw [processLine, rejected]
  refine ⟨answered, ?_⟩
  rintro ⟨t, replied, _⟩
  rw [answered] at replied
  exact invalidRequest_ne_unsupportedMessageType _ (Prod.mk.inj (Option.some.inj replied)).1

/-- A request of the type PING. -/
def pingRequest : Bytes :=
  ascii "\x7b\"protocol_version\":1,\"type\":\"PING\",\"command_id\":7\x7d"

theorem hasUnknownType_pingRequest :
    HasUnknownType pingRequest ⟨7, .stopComponentTest⟩ (ascii "PING") where
  admissible := ⟨by decide, by decide, trivial⟩
  unknown := by decide
  spelled := by
    refine ⟨_, [], rfl, .rfl, ?_⟩
    have text : pingRequest = compactText (requestTree
        [.protocolVersion (decimalText 1), .type (ascii "PING"), .commandId (decimalText 7)]).lexemes := by
      decide +kernel
    rw [text]
    refine isJsonText_compactText ((membersWellFormed_iff _).mpr ?_)
    refine List.forall_mem_cons.mpr ⟨⟨isStringContent_ascii (by decide), ?_⟩,
      List.forall_mem_cons.mpr ⟨⟨isStringContent_ascii (by decide), ?_⟩,
        List.forall_mem_cons.mpr ⟨⟨isStringContent_ascii (by decide), ?_⟩, List.forall_mem_nil _⟩⟩⟩
    · exact isNumber_of_plainNumeral rfl
    · exact isStringContent_ascii (by decide)
    · exact isNumber_of_plainNumeral rfl

/-- The theorem, at this request. -/
theorem unknown_type_is_invalid_request_ping :
    processLine [] blankMetadata pingRequest idleSession =
        some (errorLine 0 "invalid_request", idleSession) ∧
      ¬RepliesUnsupported [] blankMetadata pingRequest (UInt32.ofNat 7) idleSession := by
  have answered :=
    unknown_type_is_invalid_request [] blankMetadata idleSession hasUnknownType_pingRequest
  exact answered

/-- The request PING is in order but for its type, and gets the answer of a text that is no
request. -/
theorem ping_is_invalid_request :
    HasUnknownType pingRequest ⟨7, .stopComponentTest⟩ (ascii "PING") ∧
      processLine [] blankMetadata pingRequest idleSession =
        some (errorLine 0 "invalid_request", idleSession) ∧
      ¬RepliesUnsupported [] blankMetadata pingRequest 7 idleSession := by
  have rejected : jsonProtocolParseRequest pingRequest = .error .rejected := by decide +kernel
  have answered : processLine [] blankMetadata pingRequest idleSession =
      some (errorLine 0 "invalid_request", idleSession) := by
    rw [processLine, rejected]
  refine And.intro hasUnknownType_pingRequest (And.intro answered ?_)
  rintro ⟨t, replied, _⟩
  rw [answered] at replied
  exact invalidRequest_ne_unsupportedMessageType 7 (Prod.mk.inj (Option.some.inj replied)).1

end FlightComputer
