import FlightComputer.Synchronisation

/-!
# What the firmware takes the requests of the tester for

The encoders of the tester check their arguments less strictly than the parser of the firmware: a
command id may be too large for it, a test type too long, a colour may come with a test that has
none. Then the parser accepts nothing. What it does accept is the request that was meant, with its
command id, its test type and its UUID (`request_of_encodeRun`, `request_of_encodeStart`), and
never a request of another kind.
-/

set_option autoImplicit false

namespace FlightComputer

open Library Firmware BoardTester

/-! ## Spelled by their members -/

/-- **A request that is accepted is spelled by the members of its text.** -/
theorem spelledBy_of_requests {line : Bytes} {members : List RequestMember} (nonempty : members ≠ [])
    (json : IsJsonText line (requestTree members)) {commandId : UInt32} {body : RequestBody}
    (requested : Requests line commandId body) :
    Request.SpelledBy paddedNumeral ⟨commandId.toNat, body⟩ members := by
  obtain ⟨request, admissible, spelled, same⟩ :=
    exists_spelledBy_of_parsed nonempty json requested.parsed
  obtain rfl := requestRecord_injective admissible requested.admissible same
  exact spelled

section Spelled

variable {request : Request} {literal name : Bytes} {number : Nat} {others : List RequestMember}

/-- The members that are common to all requests, and others. -/
def withCommon (name : Bytes) (number : Nat) (others : List RequestMember) : List RequestMember :=
  .protocolVersion (decimalText 1) :: .type name :: .commandId (decimalText number) :: others

/-- A member that is neither a type nor a command id. -/
def IsFurther : RequestMember → Prop
  | .type _ => False
  | .commandId _ => False
  | _ => True

/-- **The type and the command id** are read from the common members. -/
theorem common_of_spelledBy (further : ∀ member ∈ others, IsFurther member)
    (spelled : request.SpelledBy paddedNumeral (withCommon name number others)) :
    request.body.typeName = name ∧ request.commandId = number := by
  obtain ⟨version, literal, rest, _, numbered, _, perm⟩ := spelled
  have named : RequestMember.type request.body.typeName ∈ withCommon name number others :=
    perm.mem_iff.mpr (.tail _ (.head _))
  have counted : RequestMember.commandId literal ∈ withCommon name number others :=
    perm.mem_iff.mpr (.tail _ (.tail _ (.head _)))
  simp only [withCommon, List.mem_cons, reduceCtorEq, false_or] at named counted
  refine ⟨?_, ?_⟩
  · rcases named with same | listed
    · exact RequestMember.type.inj same
    · exact (further _ listed).elim
  · rcases counted with same | listed
    · obtain rfl := RequestMember.commandId.inj same
      exact numbered.2.symm.trans (numeralValue_decimalText number)
    · exact (further _ listed).elim

end Spelled

/-! ## START_TEST -/

theorem exists_ofNat_of_validateCommandId {commandId : Int} {u : Unit}
    (valid : validateCommandId commandId = .ok u) : ∃ number : Nat, commandId = number := by
  have positive : 0 < commandId := by
    by_contra negative
    rw [validateCommandId, if_pos (Int.not_lt.mp negative)] at valid
    cases valid
  exact Int.eq_ofNat_of_zero_le positive.le

/-- The text that a request for a session is. -/
theorem exists_isJsonText_encodeStart {commandId : Int} {testUuid : UUID} {line : Bytes}
    (encoded : encodeStartTest commandId testUuid = .ok line) :
    ∃ number : Nat, commandId = number ∧
      IsJsonText line (requestTree (withCommon (ascii "START_TEST") number
        [.testUuid testUuid.str])) := by
  obtain ⟨_, valid, made⟩ := (except_bind_eq_ok_iff _ _ _).mp encoded
  obtain ⟨number, rfl⟩ := exists_ofNat_of_validateCommandId valid
  obtain rfl := Except.ok.inj made
  have json := isJsonText_dumps (.dict
    [(pyStr "protocol_version", .int protocolVersion), (pyStr "type", .str (pyStr "START_TEST")),
      (pyStr "command_id", .int number), (pyStr "test_uuid", .str (codes testUuid.str))])
  rw [dumpsTree, dumpsMembers_common "START_TEST" number _ (escapeText_pyStr (by decide)),
    dumpsMembers, dumpsMembers, dumpsTree, @escapeText_pyStr "test_uuid" (by decide),
    escapeText_of_plain testUuid.isCanonicalUuid_str.plain] at json
  exact ⟨number, rfl, json⟩

/-- **A request for a session is taken for nothing else.** -/
theorem request_of_encodeStart {startId : Int} {testUuid : UUID} {line : Bytes}
    (encoded : encodeStartTest startId testUuid = .ok line) {commandId : UInt32}
    {body : RequestBody} (requested : Requests line commandId body) :
    body.typeName = ascii "START_TEST" ∧ (commandId.toNat : Int) = startId := by
  obtain ⟨number, rfl, json⟩ := exists_isJsonText_encodeStart encoded
  have spelled := spelledBy_of_requests (List.cons_ne_nil _ _) json requested
  obtain ⟨typed, numbered⟩ := common_of_spelledBy (fun member listed => by
    obtain rfl := List.mem_singleton.mp listed
    trivial) spelled
  exact ⟨typed, congrArg Nat.cast numbered⟩

/-! ## RUN_COMPONENT_TEST -/

/-- The names of a dictionary of parameters are channels. -/
theorem exists_channels_of_hasRgbKeys {parameters : List (PyStr × Int)}
    (named : ∀ item ∈ parameters, item.1 ∈ [pyStr "red", pyStr "green", pyStr "blue"]) :
    ∃ channels : List ChannelMember,
      dumpsMembers (parameters.map fun item => (item.1, .int item.2)) =
        channels.map channelTree := by
  induction parameters with
  | nil => exact ⟨[], rfl⟩
  | cons item parameters ih =>
      obtain ⟨first, later⟩ := List.forall_mem_cons.mp named
      obtain ⟨channels, same⟩ := ih later
      have channel : ∃ channel : RgbChannel, escapeText item.1 = channel.name := by
        simp only [List.mem_cons, List.not_mem_nil, or_false] at first
        rcases first with red | green | blue
        · exact ⟨.red, by rw [red]; exact @escapeText_pyStr "red" (by decide)⟩
        · exact ⟨.green, by rw [green]; exact @escapeText_pyStr "green" (by decide)⟩
        · exact ⟨.blue, by rw [blue]; exact @escapeText_pyStr "blue" (by decide)⟩
      obtain ⟨channel, name⟩ := channel
      refine ⟨(channel, signedDecimalText item.2) :: channels, ?_⟩
      rw [List.map_cons, dumpsMembers, same, name, dumpsTree]
      rfl

/-- The text that a request for a test is. -/
theorem exists_isJsonText_encodeRun {commandId : Int} {testType : PyStr}
    {parameters : Option (List (PyStr × Int))} {line : Bytes}
    (encoded : encodeRunComponentTest commandId testType parameters = .ok line) :
    ∃ (number : Nat) (further : List RequestMember), commandId = number ∧
      (∀ member ∈ further, ∃ channels, member = .parameters channels) ∧
      IsJsonText line (requestTree (withCommon (ascii "RUN_COMPONENT_TEST") number
        (.testType (escapeText testType) :: further))) := by
  obtain ⟨_, valid, encoded⟩ := (except_bind_eq_ok_iff _ _ _).mp encoded
  obtain ⟨_, _, made⟩ := (except_bind_eq_ok_iff _ _ _).mp encoded
  obtain ⟨number, rfl⟩ := exists_ofNat_of_validateCommandId valid
  have key := @escapeText_pyStr "test_type" (by decide)
  cases parameters with
  | none =>
      obtain rfl := Except.ok.inj made
      have json := isJsonText_dumps (.dict
        [(pyStr "protocol_version", .int protocolVersion),
          (pyStr "type", .str (pyStr "RUN_COMPONENT_TEST")), (pyStr "command_id", .int number),
          (pyStr "test_type", .str testType)])
      rw [dumpsTree, dumpsMembers_common "RUN_COMPONENT_TEST" number _
        (escapeText_pyStr (by decide)), dumpsMembers, dumpsMembers, dumpsTree, key] at json
      exact ⟨number, [], rfl, fun _ listed => absurd listed List.not_mem_nil, json⟩
  | some parameters =>
      dsimp only at made
      split_ifs at made with keys
      have named : ∀ item ∈ parameters, item.1 ∈ [pyStr "red", pyStr "green", pyStr "blue"] := by
        intro item listed
        simp only [hasRgbKeys, Bool.not_eq_true', Bool.not_eq_false, Bool.and_eq_true,
          List.all_eq_true] at keys
        exact List.contains_iff_mem.mp (keys.1 item.1 (List.mem_map_of_mem listed))
      obtain ⟨channels, same⟩ := exists_channels_of_hasRgbKeys named
      obtain rfl := Except.ok.inj made
      have json := isJsonText_dumps (.dict
        [(pyStr "protocol_version", .int protocolVersion),
          (pyStr "type", .str (pyStr "RUN_COMPONENT_TEST")), (pyStr "command_id", .int number),
          (pyStr "test_type", .str testType),
          (pyStr "parameters", .dict (parameters.map fun item => (item.1, .int item.2)))])
      rw [dumpsTree, dumpsMembers_common "RUN_COMPONENT_TEST" number _
        (escapeText_pyStr (by decide)), dumpsMembers, dumpsMembers, dumpsMembers, dumpsTree,
        dumpsTree, key, @escapeText_pyStr "parameters" (by decide), same] at json
      refine ⟨number, [.parameters channels], rfl, ?_, json⟩
      intro member listed
      exact ⟨channels, List.mem_singleton.mp listed⟩

/-- **A request for a test is taken for nothing else.** -/
theorem request_of_encodeRun {runId : Int} {testType : PyStr}
    {parameters : Option (List (PyStr × Int))} {line : Bytes}
    (encoded : encodeRunComponentTest runId testType parameters = .ok line) {commandId : UInt32}
    {body : RequestBody} (requested : Requests line commandId body) :
    body.typeName = ascii "RUN_COMPONENT_TEST" ∧ (commandId.toNat : Int) = runId := by
  obtain ⟨number, further, rfl, others, json⟩ := exists_isJsonText_encodeRun encoded
  have spelled := spelledBy_of_requests (List.cons_ne_nil _ _) json requested
  obtain ⟨typed, numbered⟩ := common_of_spelledBy (fun member listed => by
    rcases List.mem_cons.mp listed with rfl | listed
    · trivial
    · obtain ⟨channels, rfl⟩ := others member listed
      trivial) spelled
  exact ⟨typed, congrArg Nat.cast numbered⟩

end FlightComputer
