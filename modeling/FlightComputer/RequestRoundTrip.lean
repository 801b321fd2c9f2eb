import FlightComputer.BoardTester.RequestEncoding
import FlightComputer.Firmware.RequestTexts

/-!
# Requests arrive as they were sent

Tester and firmware agree on requests: whatever JSON text of a request reaches
the parser of the firmware, and the bytes of the tester's encoders in
particular, the parser returns this request (`request_round_trip`).
-/

set_option autoImplicit false

namespace FlightComputer

open Library

/-- **A request arrives as it was sent**: in every JSON text of it, with its
members in any order and any whitespace, and in the bytes of its encoder. -/
theorem request_round_trip (request : Request) (valid : request.Valid) :
    (∀ text, request.IsText text →
        Firmware.jsonProtocolParseRequest text = .ok (Firmware.requestRecord request)) ∧
      ∀ result, BoardTester.EncoderCall request result → ∃ bytes, result = .ok bytes ∧
        Firmware.jsonProtocolParseRequest bytes = .ok (Firmware.requestRecord request) := by
  refine ⟨fun text spells =>
    Firmware.jsonProtocolParseRequest_of_isText valid.toAdmissible spells, fun result call => ?_⟩
  obtain ⟨bytes, encoded, spells⟩ :=
    BoardTester.exists_bytes_of_encoderCall valid.toAdmissible call
  exact ⟨bytes, encoded, Firmware.jsonProtocolParseRequest_of_isText valid.toAdmissible spells⟩

/-- The call that runs the RGB test, its parameters in another order. -/
theorem request_round_trip_rgb :
    ∃ bytes, BoardTester.encodeRunComponentTest 7 (codes rgbLed)
        (some [(BoardTester.pyStr "blue", 3), (BoardTester.pyStr "red", 255),
          (BoardTester.pyStr "green", 0)]) = .ok bytes ∧
      Firmware.jsonProtocolParseRequest bytes =
        .ok ⟨.runComponentTest, 7, [], ascii "rgb_led", true, 255, 0, 3⟩ := by
  have named : IsTestTypeName rgbLed :=
    ⟨by decide, by decide, List.all_eq_true.mp (by decide)⟩
  have valid : Request.Valid ⟨7, .runComponentTest rgbLed (some ⟨255, 0, 3⟩)⟩ :=
    { positive := by decide
      bounded := by decide
      body := ⟨named, iff_of_true rfl rfl⟩
      variant := nofun }
  exact (request_round_trip _ valid).2 _
    (.runRgbTest 7 rgbLed ⟨255, 0, 3⟩ [(.blue, 3), (.red, 255), (.green, 0)] (by decide))

end FlightComputer
