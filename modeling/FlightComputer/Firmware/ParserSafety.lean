import FlightComputer.Firmware.RecordedParser
import FlightComputer.Firmware.TokenizerSafety

/-!
# The request parser stays inside its buffers

The two loops of `json_protocol.c` over the tokens. That their reads stay below the number of
tokens rests on two numbers being odd: the token count, by the first check, and the index of each
key, which moves on by whole pairs also in `parameters` (`next_of_parseRequestPair`).

The recorded parser ends with what `jsonProtocolParseRequest` says, and every access it makes on the
way is inside its buffer (`request_parser_safe`).
-/

set_option autoImplicit false

namespace FlightComputer.Firmware

open Library Recording

namespace Recorded

/-! ## Walking the tokens -/

section Walk

variable {input : ParserInput} {tokens : List JsmnTok}

/-- A returned token is read. -/
theorem performs_tokenAt {index : Nat} {token : JsmnTok} (found : tokens[index]? = some token) :
    Performs (input.Safe tokens.length) (tokenAt input tokens index)
      (.ok token) := by
  obtain ⟨filled, _⟩ := List.getElem?_eq_some_iff.mp found
  refine .bind (.note ⟨Int.natCast_nonneg index, Int.ofNat_lt.mpr filled⟩) ?_
  rw [Int.toNat_natCast, found]
  exact .succeed token

theorem ok_bind {ε α β : Type} (value : α) (next : α → Except ε β) :
    (Except.ok value >>= next) = next value :=
  rfl

/-- A token below the count. -/
theorem exists_token {index : Nat} (inside : index < tokens.length) :
    ∃ token ∈ tokens, tokens[index]? = some token ∧ Firmware.tokenAt tokens index = .ok token := by
  have found := List.getElem?_eq_getElem inside
  refine ⟨tokens[index], List.getElem_mem inside, found, ?_⟩
  rw [Firmware.tokenAt, found]

/-- The type that a `type` member names. -/
theorem performs_requestTypeOf (tokenCount : Nat) (small : input.length < 2 ^ 32) {value : JsmnTok}
    (readable : IsReadable input.length value) :
    Performs (input.Safe tokenCount) (requestTypeOf input value)
      (.ok (Firmware.requestTypeOf input.text value)) := by
  have named := performs_tokenEquals tokenCount small readable
  rw [Firmware.requestTypeOf, apply_ite Except.ok, apply_ite Except.ok, apply_ite Except.ok]
  exact .bind (named "START_TEST") (.ite (fun _ => .succeed _)
    fun _ => .bind (named "RUN_COMPONENT_TEST") (.ite (fun _ => .succeed _)
    fun _ => .bind (named "STOP_COMPONENT_TEST") (.ite (fun _ => .succeed _) fun _ => .succeed _)))

/-- The index moves on by whole pairs. -/
theorem next_of_parseRgbLoop {line : Bytes} {object : JsmnTok} {bound index next : Nat}
    {state after : RgbState}
    (walked : parseRgbLoop line tokens object bound index state = .ok (next, after)) :
    ∃ pairs, next = index + 2 * pairs := by
  induction bound generalizing index state with
  | zero =>
      obtain ⟨rfl, rfl⟩ := Prod.mk.inj (Except.ok.inj walked)
      exact ⟨0, rfl⟩
  | succ bound ih =>
      rw [parseRgbLoop] at walked
      split_ifs at walked with last
      · obtain ⟨rfl, rfl⟩ := Prod.mk.inj (Except.ok.inj walked)
        exact ⟨0, rfl⟩
      · obtain ⟨key, _, walked⟩ := (except_bind_eq_ok_iff _ _ _).mp walked
        split_ifs at walked with outside
        · obtain ⟨rfl, rfl⟩ := Prod.mk.inj (Except.ok.inj walked)
          exact ⟨0, rfl⟩
        · obtain ⟨value, _, walked⟩ := (except_bind_eq_ok_iff _ _ _).mp walked
          obtain ⟨later, _, walked⟩ := (except_bind_eq_ok_iff _ _ _).mp walked
          obtain ⟨pairs, rfl⟩ := ih walked
          exact ⟨pairs + 1, by omega⟩

theorem next_of_parseRgbParameters {line : Bytes} {index : Nat} {request : JsonProtocolRequest}
    {walked : Nat × JsonProtocolRequest}
    (parsed : Firmware.parseRgbParameters line tokens index request = .ok walked) :
    ∃ pairs, walked.1 = index + 2 * pairs := by
  obtain ⟨object, _, parsed⟩ := (except_bind_eq_ok_iff _ _ _).mp parsed
  split_ifs at parsed
  obtain ⟨result, loop, parsed⟩ := (except_bind_eq_ok_iff _ _ _).mp parsed
  obtain ⟨next, after⟩ := result
  dsimp only at parsed
  split_ifs at parsed
  obtain rfl := Except.ok.inj parsed
  exact next_of_parseRgbLoop loop

theorem next_of_parseRequestPair {line : Bytes} {key value : JsmnTok} {index next : Nat}
    {state after : RequestState}
    (parsed : Firmware.parseRequestPair line tokens key value index state = .ok (next, after)) :
    ∃ pairs, next = index + 2 * pairs := by
  -- all cases but the one of `parameters` leave the index where it is
  have stays : ∀ {α : Type} {result : Except ParseStop α} {change : α → RequestState},
      result.map (fun value => (index, change value)) = .ok (next, after) →
        ∃ pairs, next = index + 2 * pairs := by
    intro α result change mapped
    obtain ⟨_, _, same⟩ := (except_map_eq_ok_iff _ _ _).mp mapped
    exact ⟨0, (congrArg Prod.fst same).symm⟩
  rw [Firmware.parseRequestPair] at parsed
  split_ifs at parsed
  · obtain ⟨version, _, checked⟩ := (except_bind_eq_ok_iff _ _ _).mp parsed
    split_ifs at checked
    exact ⟨0, (congrArg Prod.fst (Except.ok.inj checked)).symm⟩
  · exact ⟨0, (congrArg Prod.fst (Except.ok.inj parsed)).symm⟩
  · exact stays parsed
  · exact stays parsed
  · exact stays parsed
  · obtain ⟨walked, parameters, same⟩ := (except_map_eq_ok_iff _ _ _).mp parsed
    obtain ⟨pairs, moved⟩ := next_of_parseRgbParameters parameters
    exact ⟨pairs, (congrArg Prod.fst same).symm.trans moved⟩

section Pairs

variable (tokenCount : Nat) (small : input.length < 2 ^ 32) (enough : input.Enough)
  {key value : JsmnTok} (keyReadable : IsReadable input.length key)
  (valueReadable : IsReadable input.length value)
include small enough keyReadable valueReadable

/-- The body of the loop of `parse_rgb_parameters` -/
theorem performs_parseRgbPair (state : RgbState) :
    Performs (input.Safe tokenCount) (parseRgbPair input key value state)
      (Firmware.parseRgbPair input.text key value state) := by
  have named := performs_tokenEquals tokenCount small keyReadable
  have channel := performs_parseUint8 tokenCount enough valueReadable
  refine .bind (named "red") (.ite (fun _ => .ite (fun _ => .stop _) fun _ => .map _ channel)
    fun _ => .bind (named "green") (.ite (fun _ => .ite (fun _ => .stop _) fun _ => .map _ channel)
    fun _ => .bind (named "blue") (.ite (fun _ => .ite (fun _ => .stop _) fun _ => .map _ channel)
    fun _ => .stop _)))

end Pairs

variable (small : input.length < 2 ^ 32) (enough : input.Enough)
  (readable : ∀ token ∈ tokens, IsReadable input.length token)
include small enough readable

/-- The loop of `parse_rgb_parameters` -/
theorem performs_rgbLoop (object : JsmnTok) {bound iterations index : Nat} (state : RgbState)
    (left : tokens.length ≤ index + 1 + bound) (more : bound < iterations) :
    Performs (input.Safe tokens.length)
      (loop (rgbPair input tokens object) iterations (index, state))
      (parseRgbLoop input.text tokens object bound index state) := by
  induction bound generalizing index iterations state with
  | zero =>
      obtain ⟨iterations, rfl⟩ := Nat.exists_eq_add_one.mpr more
      refine .loop_ends ?_
      rw [rgbPair, if_pos (show tokens.length ≤ index + 1 from left)]
      exact .succeed _
  | succ bound ih =>
      obtain ⟨iterations, rfl⟩ := Nat.exists_eq_add_one.mpr (Nat.zero_lt_of_lt more)
      rw [parseRgbLoop]
      split_ifs with last
      · refine .loop_ends ?_
        rw [rgbPair, if_pos last]
        exact .succeed _
      · have body : rgbPair input tokens object (index, state) = _ := if_neg last
        have inside := Nat.not_le.mp last
        obtain ⟨key, keyListed, keyFound, keyRead⟩ := exists_token (Nat.lt_of_succ_lt inside)
        obtain ⟨value, valueListed, valueFound, valueRead⟩ := exists_token inside
        rw [keyRead, ok_bind]
        split_ifs with outside
        · refine .loop_ends ?_
          rw [body]
          refine .bind (performs_tokenAt keyFound) ?_
          rw [if_pos outside]
          exact .succeed _
        · rw [valueRead, ok_bind]
          have pair := performs_parseRgbPair tokens.length small enough (readable key keyListed)
            (readable value valueListed) state
          cases parsed : Firmware.parseRgbPair input.text key value state with
          | error error =>
              rw [parsed] at pair
              refine .loop_stops ?_
              rw [body]
              refine .bind (performs_tokenAt keyFound) ?_
              rw [if_neg outside]
              exact .bind (performs_tokenAt valueFound) (.bind_error pair)
          | ok next =>
              rw [parsed] at pair
              refine .loop_goes ?_ (ih next (by omega) (Nat.lt_of_succ_lt_succ more))
              rw [body]
              refine .bind (performs_tokenAt keyFound) ?_
              rw [if_neg outside]
              exact .bind (performs_tokenAt valueFound) (.bind pair (.succeed _))

/-- `parse_rgb_parameters` -/
theorem performs_parseRgbParameters {index : Nat} (inside : index + 1 < tokens.length)
    (few : tokens.length < input.iterations) (request : JsonProtocolRequest) :
    Performs (input.Safe tokens.length)
      (parseRgbParameters input tokens (index + 2) request)
      (Firmware.parseRgbParameters input.text tokens (index + 2) request) := by
  obtain ⟨object, _, found, read⟩ := exists_token inside
  have before : ((index + 2 : Nat) : Int) - 1 = ((index + 1 : Nat) : Int) := by omega
  have left : tokens.length ≤ index + 2 + 1 + tokens.length := Nat.le_add_left _ _
  have walk := performs_rgbLoop small enough readable object ⟨request, false, false, false⟩ left few
  rw [parseRgbParameters, Firmware.parseRgbParameters, before,
    show index + 2 - 1 = index + 1 from rfl, read, ok_bind]
  refine .bind (performs_tokenAt found) (.ite (fun _ => .stop _) fun _ => ?_)
  exact .bind_except walk fun result _ => .ite (fun _ => .stop _) fun _ => .succeed _

/-- The body of the loop of `json_protocol_parse_request` -/
theorem performs_parseRequestPair {index : Nat} (inside : index + 1 < tokens.length)
    (few : tokens.length < input.iterations) {key value : JsmnTok}
    (keyReadable : IsReadable input.length key) (valueReadable : IsReadable input.length value)
    (state : RequestState) :
    Performs (input.Safe tokens.length)
      (parseRequestPair input tokens key value (index + 2) state)
      (Firmware.parseRequestPair input.text tokens key value (index + 2) state) := by
  have named := performs_tokenEquals tokens.length small keyReadable
  have number := performs_parsePositiveUint32 tokens.length enough valueReadable
  refine .bind (named "protocol_version") (.ite (fun _ => .ite (fun _ => .stop _) fun _ => ?_)
    fun _ => ?_)
  · exact .bind_except number fun _ _ => .ite (fun _ => .stop _) fun _ => .succeed _
  refine .bind (named "type") (.ite (fun _ => .ite (fun _ => .stop _) fun _ => ?_) fun _ => ?_)
  · exact .bind (performs_requestTypeOf tokens.length small valueReadable) (.succeed _)
  refine .bind (named "command_id") (.ite (fun _ => .ite (fun _ => .stop _) fun _ => ?_)
    fun _ => ?_)
  · exact .map _ number
  refine .bind (named "test_uuid") (.ite (fun _ => .ite (fun _ => .stop _) fun _ => ?_) fun _ => ?_)
  · exact .map _ (performs_copyTestUuid tokens.length small enough valueReadable)
  refine .bind (named "test_type") (.ite (fun _ => .ite (fun _ => .stop _) fun _ => ?_) fun _ => ?_)
  · exact .map _ (performs_copyTestType tokens.length small enough valueReadable)
  refine .bind (named "parameters") (.ite (fun _ => .ite (fun _ => .stop _) fun _ => ?_)
    fun _ => .stop _)
  exact .map _ (performs_parseRgbParameters small enough readable inside few state.request)

/-- The loop of `json_protocol_parse_request`: the index of a key is odd, as is the count. -/
theorem performs_requestLoop (odd : tokens.length % 2 = 1) (few : tokens.length < input.iterations)
    {bound iterations index : Nat} (key : index % 2 = 1) (left : tokens.length ≤ index + bound)
    (more : bound < iterations) (state : RequestState) :
    Performs (input.Safe tokens.length)
      (loop (requestPair input tokens) iterations (index, state))
      (parseRequestLoop input.text tokens bound index state) := by
  induction bound generalizing index iterations state with
  | zero =>
      obtain ⟨iterations, rfl⟩ := Nat.exists_eq_add_one.mpr more
      refine .loop_ends ?_
      rw [requestPair, if_pos (show tokens.length ≤ index from left)]
      exact .succeed _
  | succ bound ih =>
      obtain ⟨iterations, rfl⟩ := Nat.exists_eq_add_one.mpr (Nat.zero_lt_of_lt more)
      rw [parseRequestLoop]
      split_ifs with last
      · refine .loop_ends ?_
        rw [requestPair, if_pos last]
        exact .succeed _
      · have body : requestPair input tokens (index, state) = _ := if_neg last
        have inside : index + 1 < tokens.length := by omega
        obtain ⟨key, keyListed, keyFound, keyRead⟩ := exists_token (Nat.lt_of_succ_lt inside)
        obtain ⟨value, valueListed, valueFound, valueRead⟩ := exists_token inside
        have pair := performs_parseRequestPair small enough readable inside few
          (readable key keyListed) (readable value valueListed) state
        rw [keyRead, ok_bind, valueRead, ok_bind]
        cases parsed : Firmware.parseRequestPair input.text tokens key value (index + 2) state with
        | error error =>
            rw [parsed] at pair
            refine .loop_stops ?_
            rw [body]
            exact .bind (performs_tokenAt keyFound) (.bind (performs_tokenAt valueFound)
              (.bind_error pair))
        | ok next =>
            obtain ⟨next, after⟩ := next
            obtain ⟨pairs, rfl⟩ := next_of_parseRequestPair parsed
            rw [parsed] at pair
            refine .loop_goes ?_ (ih (by omega) (by omega) (Nat.lt_of_succ_lt_succ more) after)
            rw [body]
            exact .bind (performs_tokenAt keyFound) (.bind (performs_tokenAt valueFound)
              (.bind pair (.succeed _)))

/-- `json_protocol_parse_request` on the tokens of a line -/
theorem performs_parseRequestTokens (few : tokens.length < input.iterations) :
    Performs (input.Safe tokens.length) (parseRequestTokens input tokens)
      (Firmware.parseRequestTokens input.text tokens) := by
  refine .ite (fun _ => .stop _) fun count => ?_
  have odd : tokens.length % 2 = 1 ∧ 0 < tokens.length := by omega
  obtain ⟨root, _, found, read⟩ := exists_token odd.2
  rw [read, ok_bind]
  refine .bind (performs_tokenAt found) (.ite (fun _ => .stop _) fun _ => ?_)
  exact .bind_except (performs_requestLoop small enough readable odd.1 few rfl (Nat.le_add_left _ _)
    few initialRequestState) fun state _ => .ite (fun _ => .succeed _) fun _ => .stop _

end Walk

/-! ## The whole parser -/

/-- How many tokens the tokenizer returns for a line. -/
def returnedTokens (line : Bytes) : Nat :=
  match Firmware.jsmnParse line jsonProtocolTokenCapacity with
  | .error _ => 0
  | .ok tokens => tokens.length

theorem performs_jsonProtocolParseRequest {input : ParserInput} (small : input.length < 2 ^ 32)
    (enough : input.Enough) :
    Performs (input.Safe (returnedTokens input.text))
      (jsonProtocolParseRequest input) (Firmware.jsonProtocolParseRequest input.text) := by
  have tokenizer := performs_jsmnParse (returnedTokens input.text) enough small
  rw [Firmware.jsonProtocolParseRequest]
  refine .bind (.note (show 0 < jsonProtocolTestUuidLength + 1 by decide))
    (.bind (.note (show 0 < jsonProtocolTestTypeCapacity by decide)) ?_)
  cases parsed : Firmware.jsmnParse input.text jsonProtocolTokenCapacity with
  | error error =>
      rw [parsed] at tokenizer
      exact .bind_error (.mapError _ tokenizer)
  | ok tokens =>
      have count : returnedTokens input.text = tokens.length := by rw [returnedTokens, parsed]
      rw [parsed] at tokenizer
      have readable := readable_of_jsmnParse parsed
      rw [input.length_text] at readable
      have few : tokens.length < input.iterations := by
        have capacity := few_of_jsmnParse parsed
        rw [ParserInput.Enough] at enough
        omega
      refine .bind (.mapError _ tokenizer) ?_
      rw [count]
      exact performs_parseRequestTokens small enough readable few

end Recorded

/-- **What a run of the parser does.** -/
structure ParsesSafely (input : ParserInput)
    (run : Recorded.Program ParseStop JsonProtocolRequest) : Prop where
  ends : run.outcome = some (jsonProtocolParseRequest input.text)
  line : ∀ index : Int, .line index ∈ run.trace → 0 ≤ index ∧ index < input.length
  filling : ∀ (index : Int) (filled : Nat), .filling index filled ∈ run.trace →
    0 ≤ index ∧ index < filled ∧ filled ≤ jsonProtocolTokenCapacity
  token : ∀ index : Int, .token index ∈ run.trace →
    0 ≤ index ∧ index < Recorded.returnedTokens input.text
  testUuid : ∀ index, .testUuid index ∈ run.trace → index < 37
  testType : ∀ index, .testType index ∈ run.trace → index < 32
  sum : ∀ bits value, .sum bits value ∈ run.trace → value < 2 ^ bits

/-- **The request parser stays inside its buffers**, on every line of at most 4096 bytes, whatever
is behind it and whatever the stack holds. -/
theorem request_parser_safe (line : Nat → UInt8) {length : Nat} (short : length ≤ 4096)
    (stack : Nat → JsmnTok) {iterations : Nat} (enough : length + 64 < iterations) :
    ParsesSafely ⟨line, length, stack, iterations⟩
      (Recorded.jsonProtocolParseRequest ⟨line, length, stack, iterations⟩) := by
  have small : (⟨line, length, stack, iterations⟩ : ParserInput).length < 2 ^ 32 :=
    Nat.lt_of_le_of_lt short (by decide)
  have performs := Recorded.performs_jsonProtocolParseRequest small enough
  exact
    { ends := performs.ends
      line := fun _ listed => performs.safe _ listed
      filling := fun _ _ listed => performs.safe _ listed
      token := fun _ listed => performs.safe _ listed
      testUuid := fun _ listed => performs.safe _ listed
      testType := fun _ listed => performs.safe _ listed
      sum := fun _ _ listed => performs.safe _ listed }

/-- A request with 17 tokens. -/
def rgbLedRequestLine : Bytes :=
  ascii "\x7b\"protocol_version\":1,\"type\":\"RUN_COMPONENT_TEST\",\"command_id\":7," ++
    ascii "\"test_type\":\"rgb_led\",\"parameters\":\x7b\"red\":0,\"green\":128,\"blue\":255\x7d\x7d"

/-- The request, with opening braces behind it, and an array of tokens that holds something. -/
def rgbLedInput : ParserInput :=
  ⟨fun index => rgbLedRequestLine.getD index leftBrace, 133, fun _ => ⟨.array, -7, 9, 3, 100⟩, 200⟩

/-- On 4096 opening braces the tokenizer stops. On a request it returns 17 tokens, which are all
walked: the last one is read, the text of the test type is ended, and the last channel is
added up. -/
theorem request_parser_safe_braces :
    ParsesSafely ⟨fun _ => leftBrace, 4096, fun _ => ⟨.array, -7, 9, 3, 100⟩, 4161⟩
        (Recorded.jsonProtocolParseRequest
          ⟨fun _ => leftBrace, 4096, fun _ => ⟨.array, -7, 9, 3, 100⟩, 4161⟩) ∧
      ParsesSafely rgbLedInput (Recorded.jsonProtocolParseRequest rgbLedInput) ∧
      [.token 16, .testType 7, .sum 32 255] ⊆
        (Recorded.jsonProtocolParseRequest rgbLedInput).trace := by
  refine ⟨request_parser_safe _ (Nat.le_refl _) _ (by decide),
    request_parser_safe _ (by decide) _ (by decide), ?_⟩
  decide +kernel

end FlightComputer.Firmware
