import FlightComputer.BoardTester.Framing
import FlightComputer.BoardTester.RequestEncoding
import FlightComputer.Library.ShortTexts

/-!
# Requests are lines

What the encoders make of a request is written as one line: it is printable, and it is
far shorter than a line may be (`encodeLine_of_encoderCall`).
-/

set_option autoImplicit false

namespace FlightComputer.BoardTester

open Library

/-! ## The length of a text -/

theorem length_dumpsFurther_cons (key : PyStr) (value : PyValue)
    (members : List (PyStr × PyValue)) :
    (dumpsFurther ((key, value) :: members)).length =
      (escapeText key).length + (dumps value).length + (dumpsFurther members).length + 4 := by
  simp only [dumpsFurther, List.length_cons, List.length_append, List.length_nil]
  omega

theorem length_dumps_cons (key : PyStr) (value : PyValue) (members : List (PyStr × PyValue)) :
    (dumps (.dict ((key, value) :: members))).length =
      (escapeText key).length + (dumps value).length + (dumpsFurther members).length + 4 := by
  simp only [dumps, List.length_cons, List.length_append, List.length_nil]
  omega

theorem length_dumpsFurther_nil : (dumpsFurther []).length = 1 := rfl

theorem length_dumps_str (text : PyStr) :
    (dumps (.str text)).length = (escapeText text).length + 2 := by
  simp only [dumps, List.length_cons, List.length_append, List.length_nil]

/-- A number of 32 bits. -/
theorem length_dumps_int_le {value : Nat} (bounded : value ≤ 2 ^ 32 - 1) :
    (dumps (.int value)).length ≤ 11 := by
  rw [dumps]
  exact (@isShort_signedDecimalText value 10 (by decide) (by omega)).length_le

theorem length_escapeText_pyStr {text : String}
    (plain : ((ascii text).all fun byte => isPlainStringByte byte && decide (byte.toNat ≤ 126)) =
      true) : (escapeText (pyStr text)).length = (ascii text).length := by
  rw [escapeText_pyStr plain]

/-- The channels of a colour, in any order. -/
theorem length_dumpsFurther_channels (channels : List (RgbChannel × UInt8)) :
    (dumpsFurther ((channels.map colourItem).map fun item => (item.1, PyValue.int item.2))).length ≤
      20 * channels.length + 1 := by
  induction channels with
  | nil => exact Nat.le_refl 1
  | cons channel channels ih =>
      have name : (escapeText (codes channel.1.name)).length ≤ 5 := by
        cases channel.1
        · exact Nat.le_of_lt_succ (by decide)
        · exact Nat.le_of_lt_succ (by decide)
        · exact Nat.le_of_lt_succ (by decide)
      have number : (dumps (.int channel.2.toNat)).length ≤ 11 :=
        length_dumps_int_le (Nat.le_trans (Nat.le_of_lt channel.2.toNat_lt) (by decide))
      rw [List.map_cons, List.map_cons, length_dumpsFurther_cons, List.length_cons]
      dsimp only [colourItem]
      omega

/-- The dictionary of parameters. -/
theorem length_dumps_channels (channels : List (RgbChannel × UInt8)) :
    (dumps (.dict ((channels.map colourItem).map fun item => (item.1, .int item.2)))).length ≤
      20 * channels.length + 2 := by
  cases channels with
  | nil => exact Nat.le_refl 2
  | cons channel channels =>
      have further := length_dumpsFurther_channels (channel :: channels)
      rw [List.map_cons, List.map_cons, length_dumpsFurther_cons] at further
      rw [List.map_cons, List.map_cons, length_dumps_cons]
      omega

/-! ## The encoders -/

/-- The items that every encoder writes first. -/
def commonItems (name : String) (commandId : Nat) (others : List (PyStr × PyValue)) :
    List (PyStr × PyValue) :=
  (pyStr "protocol_version", .int protocolVersion) :: (pyStr "type", .str (pyStr name)) ::
    (pyStr "command_id", .int commandId) :: others

theorem length_dumps_commonItems {name : String} {commandId : Nat}
    (bounded : commandId ≤ 2 ^ 32 - 1)
    (plain : ((ascii name).all fun byte => isPlainStringByte byte && decide (byte.toNat ≤ 126)) =
      true) (others : List (PyStr × PyValue)) :
    (dumps (.dict (commonItems name commandId others))).length ≤
      (ascii name).length + (dumpsFurther others).length + 70 := by
  have version : (dumps (.int protocolVersion)).length ≤ 11 :=
    @length_dumps_int_le 1 (by decide)
  have number := length_dumps_int_le bounded
  have keys : (escapeText (pyStr "protocol_version")).length = 16 ∧
      (escapeText (pyStr "type")).length = 4 ∧ (escapeText (pyStr "command_id")).length = 10 :=
    ⟨length_escapeText_pyStr (by decide), length_escapeText_pyStr (by decide),
      length_escapeText_pyStr (by decide)⟩
  rw [commonItems, length_dumps_cons, length_dumpsFurther_cons, length_dumpsFurther_cons,
    length_dumps_str, length_escapeText_pyStr plain]
  omega

/-- **What an encoder makes is short.** -/
theorem exists_short_of_encoderCall {request : Request} (admissible : request.Admissible)
    {result : Except ValueError Bytes} (call : EncoderCall request result) :
    ∃ value, result = .ok (dumps value) ∧ (dumps value).length ≤ 300 := by
  obtain ⟨positive, bounded, allowed⟩ := admissible
  cases call with
  | startTest commandId testUuid =>
      refine ⟨.dict (commonItems "START_TEST" commandId
        [(pyStr "test_uuid", .str (codes testUuid.str))]), ?_, ?_⟩
      · rw [encodeStartTest, validateCommandId_ok positive]
        rfl
      · refine Nat.le_trans (length_dumps_commonItems bounded (by decide) _) ?_
        rw [length_dumpsFurther_cons, length_dumps_str, length_escapeText_pyStr (by decide),
          escapeText_of_plain allowed.1.plain, allowed.1.length]
        decide
  | runComponentTest commandId testType =>
      refine ⟨.dict (commonItems "RUN_COMPONENT_TEST" commandId
        [(pyStr "test_type", .str (codes testType))]), ?_, ?_⟩
      · rw [encodeRunComponentTest, validateCommandId_ok positive, validateTestType_ok allowed.1]
        rfl
      · have short := allowed.1.bounded
        refine Nat.le_trans (length_dumps_commonItems bounded (by decide) _) ?_
        rw [length_dumpsFurther_cons, length_dumps_str, length_escapeText_pyStr (by decide),
          escapeText_of_plain allowed.1.plain, length_dumpsFurther_nil,
          show (ascii "RUN_COMPONENT_TEST").length = 18 from rfl,
          show (ascii "test_type").length = 9 from rfl]
        omega
  | runRgbTest commandId testType colour channels perm =>
      refine ⟨.dict (commonItems "RUN_COMPONENT_TEST" commandId
        [(pyStr "test_type", .str (codes testType)), (pyStr "parameters",
          .dict ((channels.map colourItem).map fun item => (item.1, .int item.2)))]), ?_, ?_⟩
      · rw [encodeRunComponentTest, validateCommandId_ok positive, validateTestType_ok allowed.1]
        dsimp only
        rw [hasRgbKeys_of_perm perm, any_outOfRange_colourItem]
        rfl
      · have short := allowed.1.bounded
        have parameters := length_dumps_channels channels
        rw [show channels.length = 3 from perm.length_eq] at parameters
        refine Nat.le_trans (length_dumps_commonItems bounded (by decide) _) ?_
        rw [length_dumpsFurther_cons, length_dumpsFurther_cons, length_dumps_str,
          length_escapeText_pyStr (by decide), length_escapeText_pyStr (by decide),
          escapeText_of_plain allowed.1.plain, length_dumpsFurther_nil,
          show (ascii "RUN_COMPONENT_TEST").length = 18 from rfl,
          show (ascii "test_type").length = 9 from rfl,
          show (ascii "parameters").length = 10 from rfl]
        omega
  | stopComponentTest commandId =>
      refine ⟨.dict (commonItems "STOP_COMPONENT_TEST" commandId []), ?_, ?_⟩
      · rw [encodeStopComponentTest, validateCommandId_ok positive]
        rfl
      · exact Nat.le_trans (length_dumps_commonItems bounded (by decide) _) (by decide)

/-- **A request is written as one line.** -/
theorem encodeLine_of_encoderCall {request : Request} (admissible : request.Admissible)
    {result : Except ValueError Bytes} (call : EncoderCall request result) {payload : Bytes}
    (encoded : result = .ok payload) :
    encodeLine payload maxLineLength = .ok (payload ++ [lineFeed]) := by
  obtain ⟨value, made, short⟩ := exists_short_of_encoderCall admissible call
  rw [encoded] at made
  obtain rfl := Except.ok.inj made
  have clean : ∀ byte, byte.toNat < 32 → byte ∉ dumps value := by
    intro byte control listed
    exact absurd (printable_dumps value byte listed).1 (Nat.not_le_of_lt control)
  rw [encodeLine, if_neg (Nat.not_lt_of_le (Nat.le_trans short (by decide))),
    if_neg (not_or.mpr ⟨clean _ (by decide), clean _ (by decide)⟩)]

end FlightComputer.BoardTester
