import FlightComputer.Firmware.RecordedJsmn
import FlightComputer.Firmware.RequestReading

/-!
# The memory accesses of the request parser

`json_protocol.c` again, on the memory that it reads and writes: the line, the tokens that the
tokenizer has returned, and the two texts of the request. A byte or a token is recorded when it is
read, and a byte of a text when it is written; sums are recorded before they are cut to the width of
their variable.

The strings and primitives that the tokenizer returns lie in the line (`readable_of_jsmnParse`), so
that comparing, copying and adding up their characters stays in it, and no sum wraps
(`performs_digits`).
-/

set_option autoImplicit false

namespace FlightComputer.Firmware

open Library Recording

namespace Recorded

/-- `tokens[index]`, one of the returned tokens. -/
def tokenAt (input : ParserInput) (tokens : List JsmnTok) (index : Int) :
    Program ParseStop JsmnTok := do
  note (.token index)
  pure (tokens[index.toNat]?.getD (input.stack index.toNat))

/-- `(size_t)(token->end - token->start)`, in 32 bits -/
def tokenLength (token : JsmnTok) : Nat := ((token.end_ - token.start) % 4294967296).toNat

/-- The bytes from `&line[start]` on, as `memcmp`, `memchr` and `memcpy` read them. -/
def lineRange (input : ParserInput) (start : Int) (count : Nat) : Program ParseStop Bytes := do
  notes ((List.range count).map fun index : Nat => .line (start + index))
  pure ((List.range count).map fun index : Nat => input.line (start + index).toNat)

/-- `token_equals` -/
def tokenEquals (input : ParserInput) (token : JsmnTok) (value : String) :
    Program ParseStop Bool :=
  if token.type = .string ∧ tokenLength token = (ascii value).length then do
    let bytes ← lineRange input token.start (ascii value).length
    pure (decide (bytes = ascii value))
  else pure false

/-- An iteration of the loop of `parse_positive_uint32` and `parse_uint8`, with the width of
`parsed` and its limit. -/
def digit (input : ParserInput) (token : JsmnTok) (bits limit : Nat) (state : Int × Nat) :
    Program ParseStop ((Int × Nat) ⊕ Nat) :=
  if token.end_ ≤ state.1 then pure (.inr state.2)
  else do
    let character ← lineAt input state.1
    if character.toNat < 48 ∨ 57 < character.toNat then stop .rejected
    else do
      note (.sum bits (state.2 * 10 + (character.toNat - 48)))
      if limit < (state.2 * 10 + (character.toNat - 48)) % 2 ^ bits then stop .rejected
      else pure (.inl (state.1 + 1, (state.2 * 10 + (character.toNat - 48)) % 2 ^ bits))

/-- `parse_positive_uint32`; its callers return false when it does. -/
def parsePositiveUint32 (input : ParserInput) (token : JsmnTok) : Program ParseStop UInt32 :=
  if token.type ≠ .primitive ∨ token.start = token.end_ then stop .rejected
  else do
    let parsed ← loop (digit input token 64 (2 ^ 32 - 1)) input.iterations (token.start, 0)
    if parsed = 0 then stop .rejected else pure (UInt32.ofNat parsed)

/-- `parse_uint8`; its callers return false when it does. -/
def parseUint8 (input : ParserInput) (token : JsmnTok) : Program ParseStop UInt8 :=
  if token.type ≠ .primitive ∨ token.start = token.end_ then stop .rejected
  else do
    let parsed ← loop (digit input token 32 (2 ^ 8 - 1)) input.iterations (token.start, 0)
    pure (UInt8.ofNat parsed)

/-- An iteration of the loops of `copy_test_uuid` and `copy_test_type`, with their test. -/
def fittingCharacter (input : ParserInput) (token : JsmnTok) (fits : Nat → UInt8 → Bool)
    (index : Nat) : Program ParseStop (Nat ⊕ Unit) :=
  if tokenLength token ≤ index then pure (.inr ())
  else do
    let character ← lineAt input (token.start + index)
    if fits index character = true then pure (.inl (index + 1)) else stop .rejected

/-- The copy at the end of `copy_test_uuid` and `copy_test_type`, with its terminator. -/
def copyText (input : ParserInput) (token : JsmnTok) (destination : Nat → Access) :
    Program ParseStop Bytes := do
  let copied ← lineRange input token.start (tokenLength token)
  notes ((List.range (tokenLength token)).map destination)
  note (destination (tokenLength token))
  pure copied

/-- `copy_test_uuid`; its caller returns false when it does. -/
def copyTestUuid (input : ParserInput) (token : JsmnTok) : Program ParseStop Bytes :=
  if token.type ≠ .string ∨ tokenLength token ≠ jsonProtocolTestUuidLength then stop .rejected
  else do
    let searched ← lineRange input token.start (tokenLength token)
    if searched.contains backslash = true then stop .rejected
    else do
      loop (fittingCharacter input token uuidCharacterFits) input.iterations 0
      let version ← lineAt input (token.start + 14)
      if version ≠ '4'.toUInt8 then stop .rejected else copyText input token .testUuid

/-- `copy_test_type`; its caller returns false when it does. -/
def copyTestType (input : ParserInput) (token : JsmnTok) : Program ParseStop Bytes :=
  if token.type ≠ .string ∨ tokenLength token = 0 ∨
      jsonProtocolTestTypeCapacity ≤ tokenLength token then stop .rejected
  else do
    let searched ← lineRange input token.start (tokenLength token)
    if searched.contains backslash = true then stop .rejected
    else do
      loop (fittingCharacter input token fun _ => testTypeCharacterFits) input.iterations 0
      copyText input token .testType

/-- The body of the loop of `parse_rgb_parameters`. -/
def parseRgbPair (input : ParserInput) (key value : JsmnTok) (state : RgbState) :
    Program ParseStop RgbState := do
  if (← tokenEquals input key "red") = true then
    if state.redSeen = true then stop .rejected
    else do
      let red ← parseUint8 input value
      pure { state with request := { state.request with red := red }, redSeen := true }
  else if (← tokenEquals input key "green") = true then
    if state.greenSeen = true then stop .rejected
    else do
      let green ← parseUint8 input value
      pure { state with request := { state.request with green := green }, greenSeen := true }
  else if (← tokenEquals input key "blue") = true then
    if state.blueSeen = true then stop .rejected
    else do
      let blue ← parseUint8 input value
      pure { state with request := { state.request with blue := blue }, blueSeen := true }
  else stop .rejected

/-- An iteration of the loop of `parse_rgb_parameters`. -/
def rgbPair (input : ParserInput) (tokens : List JsmnTok) (object : JsmnTok)
    (state : Nat × RgbState) : Program ParseStop ((Nat × RgbState) ⊕ (Nat × RgbState)) :=
  if tokens.length ≤ state.1 + 1 then pure (.inr state)
  else do
    let key ← tokenAt input tokens state.1
    if object.end_ ≤ key.start then pure (.inr state)
    else do
      let value ← tokenAt input tokens (state.1 + 1 : Nat)
      let next ← parseRgbPair input key value state.2
      pure (.inl (state.1 + 2, next))

/-- `parse_rgb_parameters`; its caller returns false when it does. -/
def parseRgbParameters (input : ParserInput) (tokens : List JsmnTok) (nextIndex : Nat)
    (request : JsonProtocolRequest) : Program ParseStop (Nat × JsonProtocolRequest) := do
  let object ← tokenAt input tokens ((nextIndex : Int) - 1)
  if object.type ≠ .object then stop .rejected
  else do
    let (index, state) ← loop (rgbPair input tokens object) input.iterations
      (nextIndex, ⟨request, false, false, false⟩)
    if tokens.length < index ∨ !state.redSeen ∨ !state.greenSeen ∨ !state.blueSeen then
      stop .rejected
    else pure (index, { state.request with rgbColourPresent := true })

/-- The request type that a `type` member names. -/
def requestTypeOf (input : ParserInput) (value : JsmnTok) :
    Program ParseStop JsonProtocolRequestType := do
  if (← tokenEquals input value "START_TEST") = true then pure .startTest
  else if (← tokenEquals input value "RUN_COMPONENT_TEST") = true then pure .runComponentTest
  else if (← tokenEquals input value "STOP_COMPONENT_TEST") = true then pure .stopComponentTest
  else pure .unsupported

/-- The body of the loop of `json_protocol_parse_request`; `index` is already past the value. -/
def parseRequestPair (input : ParserInput) (tokens : List JsmnTok) (key value : JsmnTok)
    (index : Nat) (state : RequestState) : Program ParseStop (Nat × RequestState) := do
  if (← tokenEquals input key "protocol_version") = true then
    if state.versionSeen = true then stop .rejected
    else do
      let version ← parsePositiveUint32 input value
      if version ≠ jsonProtocolVersion then stop .rejected
      else pure (index, { state with versionSeen := true })
  else if (← tokenEquals input key "type") = true then
    if state.typeSeen = true ∨ value.type ≠ .string then stop .rejected
    else do
      let type ← requestTypeOf input value
      pure (index, { state with request := { state.request with type := type }, typeSeen := true })
  else if (← tokenEquals input key "command_id") = true then
    if state.commandIdSeen = true then stop .rejected
    else do
      let commandId ← parsePositiveUint32 input value
      pure (index,
        { state with
          request := { state.request with commandId := commandId }
          commandIdSeen := true })
  else if (← tokenEquals input key "test_uuid") = true then
    if state.testUuidSeen = true then stop .rejected
    else do
      let testUuid ← copyTestUuid input value
      pure (index,
        { state with
          request := { state.request with testUuid := testUuid }
          testUuidSeen := true })
  else if (← tokenEquals input key "test_type") = true then
    if state.testTypeSeen = true then stop .rejected
    else do
      let testType ← copyTestType input value
      pure (index,
        { state with
          request := { state.request with testType := testType }
          testTypeSeen := true })
  else if (← tokenEquals input key "parameters") = true then
    if state.parametersSeen = true then stop .rejected
    else do
      let (index, request) ← parseRgbParameters input tokens index state.request
      pure (index, { state with request := request, parametersSeen := true })
  else stop .rejected

/-- An iteration of the loop of `json_protocol_parse_request`. -/
def requestPair (input : ParserInput) (tokens : List JsmnTok) (state : Nat × RequestState) :
    Program ParseStop ((Nat × RequestState) ⊕ RequestState) :=
  if tokens.length ≤ state.1 then pure (.inr state.2)
  else do
    let key ← tokenAt input tokens state.1
    let value ← tokenAt input tokens (state.1 + 1 : Nat)
    let next ← parseRequestPair input tokens key value (state.1 + 2) state.2
    pure (.inl next)

/-- `json_protocol_parse_request` on the tokens of a line. -/
def parseRequestTokens (input : ParserInput) (tokens : List JsmnTok) :
    Program ParseStop JsonProtocolRequest :=
  if tokens.length ≠ 7 ∧ tokens.length ≠ 9 ∧ tokens.length ≠ 17 then stop .rejected
  else do
    let root ← tokenAt input tokens 0
    if root.type ≠ .object then stop .rejected
    else do
      let state ← loop (requestPair input tokens) input.iterations (1, initialRequestState)
      if requestComplete tokens.length state = true then pure state.request else stop .rejected

/-- `json_protocol_parse_request`: the two texts of the request are emptied first. -/
def jsonProtocolParseRequest (input : ParserInput) : Program ParseStop JsonProtocolRequest := do
  note (.testUuid 0)
  note (.testType 0)
  let tokens ← (jsmnParse input jsonProtocolTokenCapacity).mapError fun _ => .rejected
  parseRequestTokens input tokens

/-! ## Tokens inside the line -/

/-- Where a string or a primitive lies in a line of that length. -/
structure IsInside (length : Nat) (token : JsmnTok) (start count : Nat) : Prop where
  begins : token.start = (start : Int)
  ends : token.end_ = ((start + count : Nat) : Int)
  below : start + count ≤ length

/-- A token whose bytes can be read. -/
def IsReadable (length : Nat) (token : JsmnTok) : Prop :=
  token.type = .string ∨ token.type = .primitive → ∃ start count, IsInside length token start count

/-- **The strings and primitives of the tokenizer lie in the line.** -/
theorem readable_of_jsmnParse {line : Bytes} {tokenCapacity : Nat} {tokens : List JsmnTok}
    (parsed : Firmware.jsmnParse line tokenCapacity = .ok tokens) :
    ∀ token ∈ tokens, IsReadable line.length token := by
  intro token listed spelled
  obtain ⟨located, reads⟩ := exists_reads_of_jsmnParse parsed
  have refer := refers_of_foldlM .nil (spans_of_jsmnParse reads parsed).1
  rw [List.nil_append, List.forall₂_map_right_iff] at refer
  obtain ⟨index, there⟩ := List.getElem?_of_mem listed
  obtain ⟨entry, entryAt, refers⟩ := exists_of_getElem? refer there
  have among := List.mem_of_mem_filter (List.mem_of_getElem? entryAt)
  obtain ⟨rest, here⟩ := reads.text_at List.drop_zero entry among
  have nonempty := List.length_pos_iff.mpr (reads.nonempty entry among)
  have room := congrArg List.length here
  rw [List.length_drop, List.length_append] at room
  generalize same : token.span = span at refers
  have fields : token.type = span.1 ∧ token.start = span.2.1 ∧ token.end_ = span.2.2 := by
    rw [← same]
    exact ⟨rfl, rfl, rfl⟩
  obtain ⟨type, begins, ends⟩ := fields
  cases refers with
  | string pos content =>
      refine ⟨pos + 1, content.length, by rw [begins]; rfl, ends, ?_⟩
      simp only [Lexeme.text, List.length_cons, List.length_append, List.length_nil] at room
      omega
  | literal pos text =>
      refine ⟨pos, text.length, begins, ends, ?_⟩
      simp only [Lexeme.text] at room nonempty
      omega
  | object pos finish => rcases spelled with string | primitive <;> cases type.symm.trans ‹_›
  | array pos finish => rcases spelled with string | primitive <;> cases type.symm.trans ‹_›

section Inside

variable {input : ParserInput} {tokenCount : Nat} {token : JsmnTok} {start count : Nat}

theorem IsInside.length (inside : IsInside input.length token start count)
    (small : input.length < 2 ^ 32) : tokenLength token = count := by
  have below := inside.below
  rw [tokenLength, inside.begins, inside.ends]
  omega

theorem IsInside.text (inside : IsInside input.length token start count) :
    tokenText input.text token = (input.text.drop start).take count := by
  rw [tokenText, inside.begins, inside.ends]
  congr 1
  omega

/-- **A part of the line is read.** -/
theorem performs_lineRange (below : start + count ≤ input.length) :
    Performs (input.Safe tokenCount) (lineRange input start count)
      (.ok ((input.text.drop start).take count)) := by
  have bytes :
      (List.range count).map (fun index : Nat => input.line ((start : Int) + index).toNat) =
        (input.text.drop start).take count := by
    refine List.ext_getElem ?_ fun index first second => ?_
    · rw [List.length_map, List.length_range, List.length_take, List.length_drop, input.length_text]
      omega
    · simp only [List.getElem_map, List.getElem_range, List.getElem_take, List.getElem_drop,
        ParserInput.text]
      rfl
  rw [← bytes]
  refine .bind (.notes fun access listed => ?_) (.succeed _)
  obtain ⟨index, among, rfl⟩ := List.mem_map.mp listed
  have less := List.mem_range.mp among
  exact ⟨by omega, by omega⟩

/-- A byte of a part of the line that is still to be read. -/
theorem read_of_take {pos left : Nat} {byte : UInt8} {rest : Bytes}
    (here : (input.text.drop pos).take left = byte :: rest) :
    0 < left ∧ pos < input.length ∧ input.line pos = byte ∧
      (input.text.drop (pos + 1)).take (left - 1) = rest := by
  cases left with
  | zero =>
      rw [List.take_zero] at here
      cases here
  | succ left =>
      cases same : input.text.drop pos with
      | nil =>
          rw [same, List.take_nil] at here
          cases here
      | cons first more =>
          rw [same, List.take_succ_cons] at here
          obtain ⟨rfl, rfl⟩ := List.cons.inj here
          obtain ⟨within, read, there⟩ := read_of_drop same
          exact ⟨Nat.succ_pos left, within, read, congrArg (List.take left) there⟩

/-- Nothing is left of a part of the line. -/
theorem end_of_take {pos left : Nat} (below : pos + left ≤ input.length)
    (here : (input.text.drop pos).take left = []) : left = 0 := by
  have length := congrArg List.length here
  rw [List.length_take, List.length_drop, input.length_text, List.length_nil] at length
  omega

variable (tokenCount) in
/-- `token_equals` -/
theorem performs_tokenEquals (small : input.length < 2 ^ 32)
    (readable : IsReadable input.length token) (value : String) :
    Performs (input.Safe tokenCount) (tokenEquals input token value)
      (.ok (Firmware.tokenEquals input.text token value)) := by
  rw [tokenEquals, Firmware.tokenEquals]
  by_cases type : token.type = .string
  · obtain ⟨start, count, inside⟩ := readable (.inl type)
    have length := congrArg List.length inside.text
    rw [List.length_take, List.length_drop, input.length_text] at length
    have below := inside.below
    rw [inside.length small, inside.begins, decide_eq_true type, Bool.true_and]
    split_ifs with same
    · obtain ⟨_, rfl⟩ := same
      refine .bind (performs_lineRange below) ?_
      rw [inside.text]
      exact .succeed _
    · rw [decide_eq_false]
      · exact .succeed _
      · intro equal
        rw [equal] at length
        exact same ⟨type, by omega⟩
  · rw [if_neg fun both => type both.1, decide_eq_false type, Bool.false_and]
    exact .succeed _

/-- **The digits are added up without wrapping**, however many there are. -/
theorem performs_digits {bits limit parsed iterations : Nat} {text : Bytes}
    (room : limit * 10 + 9 < 2 ^ bits) (few : parsed ≤ limit)
    (inside : IsInside input.length token start count)
    {index left : Nat} (here : (input.text.drop index).take left = text)
    (upto : index + left = start + count) (enough : text.length < iterations) :
    Performs (input.Safe tokenCount)
      (loop (digit input token bits limit) iterations ((index : Int), parsed))
      (orReject (accumulateDigits limit parsed text)) := by
  have below := inside.below
  induction text generalizing index left parsed iterations with
  | nil =>
      obtain ⟨iterations, rfl⟩ := Nat.exists_eq_add_one.mpr enough
      have nothing := end_of_take (by omega) here
      refine .loop_ends ?_
      rw [digit, if_pos (by rw [inside.ends]; dsimp only; omega)]
      exact .succeed _
  | cons byte rest ih =>
      obtain ⟨iterations, rfl⟩ := Nat.exists_eq_add_one.mpr (Nat.zero_lt_of_lt enough)
      obtain ⟨some, within, read, later⟩ := read_of_take here
      -- one iteration, after the character has been read
      have body : ∀ {result : Except ParseStop ((Int × Nat) ⊕ Nat)},
          Performs (input.Safe tokenCount)
            (if byte.toNat < 48 ∨ 57 < byte.toNat then stop .rejected
            else do
              note (.sum bits (parsed * 10 + (byte.toNat - 48)))
              if limit < (parsed * 10 + (byte.toNat - 48)) % 2 ^ bits then stop .rejected
              else pure (.inl ((index : Int) + 1, (parsed * 10 + (byte.toNat - 48)) % 2 ^ bits)))
            result →
          Performs (input.Safe tokenCount)
            (digit input token bits limit ((index : Int), parsed)) result := by
        intro result goes
        rw [digit, if_neg (by rw [inside.ends]; dsimp only; omega)]
        refine .bind (performs_lineAt within) ?_
        rw [read]
        exact goes
      rw [accumulateDigits]
      split_ifs with strange large
      · refine .loop_stops (body ?_)
        rw [if_pos strange]
        exact .stop _
      · have fits : parsed * 10 + (byte.toNat - 48) < 2 ^ bits := by omega
        refine .loop_stops (body ?_)
        rw [if_neg strange, Nat.mod_eq_of_lt fits]
        refine .bind (.note fits) ?_
        rw [if_pos large]
        exact .stop _
      · have fits : parsed * 10 + (byte.toNat - 48) < 2 ^ bits := by omega
        refine .loop_goes (body ?_) (ih (Nat.not_lt.mp large) later (by omega)
          (Nat.lt_of_succ_lt_succ enough))
        rw [if_neg strange, Nat.mod_eq_of_lt fits]
        refine .bind (.note fits) ?_
        rw [if_neg large]
        exact .succeed _

section Values

variable (enough : input.Enough) (readable : IsReadable input.length token)
include enough readable

variable (tokenCount) in
/-- The whole loop over the digits of a token. -/
theorem performs_number {bits limit : Nat} (room : limit * 10 + 9 < 2 ^ bits)
    (type : token.type = .primitive) :
    Performs (input.Safe tokenCount)
      (loop (digit input token bits limit) input.iterations (token.start, 0))
      (orReject (accumulateDigits limit 0 (tokenText input.text token))) := by
  obtain ⟨start, count, inside⟩ := readable (.inr type)
  have below := inside.below
  rw [inside.begins, inside.text]
  refine performs_digits room (Nat.zero_le _) inside rfl rfl ?_
  rw [ParserInput.Enough] at enough
  rw [List.length_take]
  omega

variable (tokenCount) in
theorem performs_parsePositiveUint32 :
    Performs (input.Safe tokenCount) (parsePositiveUint32 input token)
      (orReject (Firmware.parsePositiveUint32 input.text token)) := by
  rw [parsePositiveUint32, Firmware.parsePositiveUint32]
  split_ifs with other
  · exact .stop _
  · have number := performs_number tokenCount enough readable
      (show (2 ^ 32 - 1) * 10 + 9 < 2 ^ 64 by decide) (not_not.mp (not_or.mp other).1)
    cases parsed : accumulateDigits (2 ^ 32 - 1) 0 (tokenText input.text token) with
    | none =>
        rw [parsed] at number
        exact .bind_error number
    | some value =>
        rw [parsed] at number
        refine .bind number ?_
        dsimp only
        split_ifs
        · exact .stop _
        · exact .succeed _

variable (tokenCount) in
theorem performs_parseUint8 :
    Performs (input.Safe tokenCount) (parseUint8 input token)
      (orReject (Firmware.parseUint8 input.text token)) := by
  rw [parseUint8, Firmware.parseUint8]
  split_ifs with other
  · exact .stop _
  · have number := performs_number tokenCount enough readable
      (show (2 ^ 8 - 1) * 10 + 9 < 2 ^ 32 by decide) (not_not.mp (not_or.mp other).1)
    cases parsed : accumulateDigits (2 ^ 8 - 1) 0 (tokenText input.text token) with
    | none =>
        rw [parsed] at number
        exact .bind_error number
    | some value =>
        rw [parsed] at number
        exact .bind number (.succeed _)

end Values

variable (tokenCount) in
/-- The loops that test the characters of a text. -/
theorem performs_fitting (fits : Nat → UInt8 → Bool) (small : input.length < 2 ^ 32)
    (inside : IsInside input.length token start count) {index left iterations : Nat} {text : Bytes}
    (here : (input.text.drop (start + index)).take left = text)
    (upto : index + left = count) (enough : text.length < iterations) :
    Performs (input.Safe tokenCount)
      (loop (fittingCharacter input token fits) iterations index)
      (if (text.zipIdx index).all (fun entry => fits entry.2 entry.1) = true then .ok ()
        else .error .rejected) := by
  have below := inside.below
  have length := inside.length small
  induction text generalizing index left iterations with
  | nil =>
      obtain ⟨iterations, rfl⟩ := Nat.exists_eq_add_one.mpr enough
      have nothing := end_of_take (by omega) here
      refine .loop_ends ?_
      rw [fittingCharacter, if_pos (by omega)]
      exact .succeed _
  | cons byte rest ih =>
      obtain ⟨iterations, rfl⟩ := Nat.exists_eq_add_one.mpr (Nat.zero_lt_of_lt enough)
      obtain ⟨some, within, read, later⟩ := read_of_take here
      have reads : Performs (input.Safe tokenCount)
          (lineAt (ε := ParseStop) input (token.start + index)) (.ok byte) := by
        rw [inside.begins, ← read]
        exact performs_lineAt within
      have body : fittingCharacter input token fits index = _ := if_neg (by omega)
      rw [List.zipIdx_cons, List.all_cons]
      by_cases fit : fits index byte = true
      · rw [fit, Bool.true_and]
        refine .loop_goes ?_ (ih later (by omega) (Nat.lt_of_succ_lt_succ enough))
        rw [body]
        refine .bind reads ?_
        rw [if_pos fit]
        exact .succeed _
      · rw [Bool.not_eq_true _ |>.mp fit, Bool.false_and, if_neg Bool.false_ne_true]
        refine .loop_stops ?_
        rw [body]
        refine .bind reads ?_
        rw [if_neg fit]
        exact .stop _

variable (tokenCount) in
/-- The copy with its terminator, when the destination has room for both. -/
theorem performs_copyText (destination : Nat → Access) (small : input.length < 2 ^ 32)
    (inside : IsInside input.length token start count)
    (room : ∀ index ≤ count, (destination index).IsSafe input.length tokenCount) :
    Performs (input.Safe tokenCount) (copyText input token destination)
      (.ok (tokenText input.text token)) := by
  rw [copyText, inside.length small, inside.begins, inside.text]
  refine .bind (performs_lineRange inside.below) (.bind (.notes fun access listed => ?_)
    (.bind (.note (room count (Nat.le_refl _))) (.succeed _)))
  obtain ⟨index, among, rfl⟩ := List.mem_map.mp listed
  exact room index (Nat.le_of_lt (List.mem_range.mp among))

/-- Where the text of a token lies. -/
structure IsRead (input : ParserInput) (token : JsmnTok) (start count : Nat) (text : Bytes) :
    Prop where
  inside : IsInside input.length token start count
  spelled : tokenText input.text token = text
  part : (input.text.drop start).take count = text
  length : text.length = count

theorem isRead (inside : IsInside input.length token start count) :
    IsRead input token start count (tokenText input.text token) where
  inside := inside
  spelled := rfl
  part := inside.text.symm
  length := by
    have below := inside.below
    rw [inside.text, List.length_take, List.length_drop, input.length_text]
    omega

/-- A text is searched for a backslash, and its characters are tested. -/
theorem performs_search {text : Bytes} (small : input.length < 2 ^ 32) (enough : input.Enough)
    (read : IsRead input token start count text) (fits : Nat → UInt8 → Bool)
    {next : Program ParseStop Bytes} {result : Option Bytes}
    (goes : text.contains backslash = false →
      text.zipIdx.all (fun entry => fits entry.2 entry.1) = true →
        Performs (input.Safe tokenCount) next (orReject result)) :
    Performs (input.Safe tokenCount)
      (do
        let searched ← lineRange input token.start (tokenLength token)
        if searched.contains backslash = true then stop .rejected
        else do
          loop (fittingCharacter input token fits) input.iterations 0
          next)
      (orReject (if (!text.contains backslash &&
        text.zipIdx.all fun entry => fits entry.2 entry.1) = true then result else none)) := by
  have below := read.inside.below
  have length := read.length
  rw [ParserInput.Enough] at enough
  have few : text.length < input.iterations := by omega
  have tests :=
    performs_fitting tokenCount fits small read.inside read.part (Nat.zero_add count) few
  rw [read.inside.length small, read.inside.begins]
  refine .bind (performs_lineRange below) ?_
  rw [read.part]
  cases found : text.contains backslash with
  | true => exact .stop _
  | false =>
      rw [Bool.not_false, Bool.true_and, if_neg Bool.false_ne_true]
      by_cases fit : text.zipIdx.all (fun entry => fits entry.2 entry.1) = true
      · rw [if_pos fit] at tests ⊢
        exact .bind tests (goes found fit)
      · rw [if_neg fit] at tests ⊢
        exact .bind_error tests

/-- A condition that is checked last. -/
theorem both_checks {α : Type} (first last : Bool) (value : Option α) :
    (if (first && last) = true then value else none) =
      if first = true then if last = true then value else none else none := by
  cases first <;> cases last <;> rfl

/-- A test that does not look at the index. -/
theorem all_zipIdx (fits : UInt8 → Bool) (text : Bytes) (index : Nat) :
    (text.zipIdx index).all (fun entry => fits entry.1) = text.all fits := by
  induction text generalizing index with
  | nil => rfl
  | cons byte rest ih => rw [List.zipIdx_cons, List.all_cons, List.all_cons, ih]

section Copies

variable (small : input.length < 2 ^ 32) (enough : input.Enough)
  (readable : IsReadable input.length token)
include small enough readable

variable (tokenCount) in
theorem performs_copyTestUuid :
    Performs (input.Safe tokenCount) (copyTestUuid input token)
      (orReject (Firmware.copyTestUuid input.text token)) := by
  rw [copyTestUuid, Firmware.copyTestUuid]
  by_cases type : token.type = .string
  · obtain ⟨start, count, inside⟩ := readable (.inl type)
    have read := isRead inside
    have copies := performs_copyText tokenCount .testUuid small inside
    generalize tokenText input.text token = text at read copies ⊢
    have below := inside.below
    have length := read.length
    rw [decide_eq_true type, Bool.true_and, isTestUuid]
    by_cases long : count = jsonProtocolTestUuidLength
    · rw [if_neg (by rw [inside.length small]; tauto), length, long, beq_self_eq_true,
        Bool.true_and, both_checks]
      refine performs_search small enough read uuidCharacterFits fun _ _ => ?_
      rw [jsonProtocolTestUuidLength] at long
      have fourteenth : text[14]? = some (input.line (start + 14)) := by
        rw [← read.part, List.getElem?_take_of_lt (by omega), List.getElem?_drop, ParserInput.text,
          List.getElem?_map, List.getElem?_range (by omega)]
        rfl
      have index : token.start + 14 = ((start + 14 : Nat) : Int) := by
        rw [inside.begins]
        rfl
      rw [index, fourteenth]
      refine .bind (performs_lineAt (by omega)) ?_
      by_cases four : input.line (start + 14) = '4'.toUInt8
      · rw [if_neg (not_not.mpr four), four, beq_self_eq_true, if_pos rfl]
        exact copies fun index among => Nat.lt_succ_of_le (Nat.le_trans among (Nat.le_of_eq long))
      · rw [if_pos four, if_neg (by rwa [beq_iff_eq, Option.some.injEq])]
        exact .stop _
    · rw [if_pos (.inr (by rwa [inside.length small])), length, beq_eq_false_iff_ne.mpr long,
        Bool.false_and, Bool.false_and, Bool.false_and]
      exact .stop _
  · rw [if_pos (.inl type), decide_eq_false type, Bool.false_and]
    exact .stop _

variable (tokenCount) in
theorem performs_copyTestType :
    Performs (input.Safe tokenCount) (copyTestType input token)
      (orReject (Firmware.copyTestType input.text token)) := by
  rw [copyTestType, Firmware.copyTestType]
  by_cases type : token.type = .string
  · obtain ⟨start, count, inside⟩ := readable (.inl type)
    have read := isRead inside
    have copies := performs_copyText tokenCount .testType small inside
    generalize tokenText input.text token = text at read copies ⊢
    have length := read.length
    rw [decide_eq_true type, Bool.true_and, isTestType, length]
    by_cases none : count = 0
    · rw [if_pos (.inr (.inl (by rwa [inside.length small]))), none]
      exact .stop _
    · by_cases short : count < jsonProtocolTestTypeCapacity
      · have copied : ¬(token.type ≠ .string ∨ tokenLength token = 0 ∨
            jsonProtocolTestTypeCapacity ≤ tokenLength token) := by
          rw [inside.length small]
          exact not_or.mpr ⟨not_not.mpr type, not_or.mpr ⟨none, Nat.not_le.mpr short⟩⟩
        rw [if_neg copied, bne_iff_ne.mpr none, decide_eq_true short,
          Bool.true_and, Bool.true_and, ← all_zipIdx testTypeCharacterFits text 0]
        refine performs_search small enough read (fun _ => testTypeCharacterFits) fun _ _ => ?_
        exact copies fun index among => Nat.lt_of_le_of_lt among short
      · rw [if_pos (.inr (.inr (by rw [inside.length small]; omega))), decide_eq_false short,
          Bool.and_false, Bool.false_and, Bool.false_and]
        exact .stop _
  · rw [if_pos (.inl type), decide_eq_false type, Bool.false_and]
    exact .stop _

end Copies

end Inside

end Recorded

end FlightComputer.Firmware
