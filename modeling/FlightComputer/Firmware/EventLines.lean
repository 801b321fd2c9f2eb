import FlightComputer.Firmware.SessionLines

/-!
# The lines of events

An event whose texts are labels is always built, whatever its numbers are, and its line is
short (`eventLine_of_isLabelled`).
-/

set_option autoImplicit false

namespace FlightComputer.Firmware

open Library

/-! ## Numbers -/

theorem isShort_int16 (value : Int16) : IsShort 6 (signedDecimalText value.toInt) := by
  have above := value.le_toInt
  have below := value.toInt_lt
  exact isShort_signedDecimalText (by decide : 0 < 5) (by omega)

theorem isShort_int32 (value : Int32) : IsShort 11 (signedDecimalText value.toInt) := by
  have above := value.le_toInt
  have below := value.toInt_lt
  exact isShort_signedDecimalText (by decide : 0 < 10) (by omega)

theorem isShort_uint64 (value : UInt64) : IsShort 20 (decimalText value.toNat) :=
  isShort_decimalText (by decide) (Nat.lt_trans value.toNat_lt (by decide))

/-! ## Texts -/

section Pieces

variable {testType name : Bytes} (typed : IsShort 31 testType) (named : IsLabel name)
  (commandId : UInt32)
include typed named

/-- The start of an event, with what comes after it. -/
theorem isShort_event {bounds : List Nat} {pieces : List Bytes}
    (short : List.Forall₂ IsShort bounds pieces) (fits : bounds.foldr (· + ·) 0 ≤ 600) :
    IsShort 1000 (eventHead commandId testType name ++ pieces).flatten := by
  have head : List.Forall₂ IsShort _ (eventHead commandId testType name) :=
    .cons (isShort_ascii (by decide)) (.cons (isShort_uint32 commandId)
      (.cons (isShort_ascii (by decide)) (.cons typed (.cons (isShort_ascii (by decide))
        (.cons named.isShort .nil)))))
  rw [List.flatten_append]
  exact (((isShort_flatten head).mono (by decide : _ ≤ 400)).append
    ((isShort_flatten short).mono fits)).mono (by decide)

theorem isShort_messageEvent :
    IsShort 1000 (messageEventPieces commandId testType name).flatten :=
  isShort_event typed named commandId (.cons (isShort_ascii (by decide)) .nil) (by decide)

theorem isShort_failureEvent {stage reason : Bytes} (staged : IsLabel stage)
    (reasoned : IsLabel reason) (event : ComponentTestEvent) :
    IsShort 1000 (failureEventPieces commandId testType name stage reason event).flatten :=
  isShort_event typed named commandId
    (.cons (isShort_ascii (by decide)) (.cons staged.isShort (.cons (isShort_ascii (by decide))
      (.cons reasoned.isShort (.cons (isShort_ascii (by decide)) (.cons (isShort_int32 _)
        (.cons (isShort_ascii (by decide)) .nil))))))) (by decide)

theorem isShort_barometerEvent (event : ComponentTestEvent) :
    IsShort 1000 (barometerEventPieces commandId testType name event).flatten :=
  isShort_event typed named commandId
    (.cons (isShort_ascii (by decide)) (.cons (isShort_int32 _) (.cons (isShort_ascii (by decide))
      (.cons (isShort_int32 _) (.cons (isShort_ascii (by decide)) .nil))))) (by decide)

theorem isShort_imuEvent (event : ComponentTestEvent) :
    IsShort 1000 (imuEventPieces commandId testType name event).flatten :=
  isShort_event typed named commandId
    (.cons (isShort_ascii (by decide)) (.cons (isShort_int16 _) (.cons (isShort_ascii (by decide))
      (.cons (isShort_int16 _) (.cons (isShort_ascii (by decide)) (.cons (isShort_int16 _)
        (.cons (isShort_ascii (by decide)) (.cons (isShort_int16 _)
          (.cons (isShort_ascii (by decide)) (.cons (isShort_int16 _)
            (.cons (isShort_ascii (by decide)) (.cons (isShort_int16 _)
              (.cons (isShort_ascii (by decide)) .nil))))))))))))) (by decide)

theorem isShort_sdCardEvent (event : ComponentTestEvent) :
    IsShort 1000 (sdCardEventPieces commandId testType name event
      (decimalText event.sectorCount.toNat)).flatten := by
  have kind : IsShort 9 (if event.highCapacity then ascii "SDHC/SDXC" else ascii "SDSC") := by
    split_ifs
    · exact (isShort_ascii (by decide)).mono (by decide)
    · exact (isShort_ascii (by decide)).mono (by decide)
  exact isShort_event typed named commandId
    (.cons (isShort_ascii (by decide)) (.cons kind (.cons (isShort_ascii (by decide))
      (.cons (isShort_uint64 _) (.cons (isShort_ascii (by decide)) (.cons (isShort_uint32 _)
        (.cons (isShort_ascii (by decide)) (.cons (isShort_uint32 _)
          (.cons (isShort_ascii (by decide)) .nil))))))))) (by decide)

end Pieces

/-- The text of a labelled event. -/
theorem testEventPieces_of_isLabelled {event : ComponentTestEvent} (labelled : event.IsLabelled)
    {testType : Bytes} (typed : IsShort 31 testType) (commandId : UInt32) :
    ∃ pieces, testEventPieces commandId testType event = some pieces ∧
      IsShort 1000 pieces.flatten := by
  obtain ⟨name, hasName, named⟩ := labelled.name
  rw [testEventPieces, hasName]
  cases kind : event.kind with
  | message => exact ⟨_, rfl, isShort_messageEvent typed named commandId⟩
  | imuSample => exact ⟨_, rfl, isShort_imuEvent typed named commandId event⟩
  | barometerSample => exact ⟨_, rfl, isShort_barometerEvent typed named commandId event⟩
  | sdCardInfo =>
      refine ⟨_, ?_, isShort_sdCardEvent typed named commandId event⟩
      rw [formatUint64_eq]
      rfl
  | failure =>
      obtain ⟨stage, reason, hasStage, hasReason, staged, reasoned⟩ := labelled.failure kind
      refine ⟨_, ?_, isShort_failureEvent typed named commandId staged reasoned event⟩
      rw [hasStage, hasReason]
      rfl

/-- **The line of a labelled event is always built**, and it is short. -/
theorem eventLine_of_isLabelled {event : ComponentTestEvent} (labelled : event.IsLabelled)
    {testType : Bytes} (typed : IsShort 31 testType) (commandId : UInt32) :
    ∃ line, eventLine commandId (some testType) (some event) = some line ∧
      IsShort 1000 line := by
  obtain ⟨pieces, spelled, short⟩ := testEventPieces_of_isLabelled labelled typed commandId
  refine ⟨pieces.flatten, ?_, short⟩
  have length_le := short.length_le
  rw [eventLine, jsonProtocolBuildTestEvent, Option.bind_eq_bind, Option.bind_some,
    Option.bind_eq_bind, Option.bind_some, spelled]
  refine builtLine_of_fits ?_
  simp only [sessionProtocolLineCapacity]
  omega

end FlightComputer.Firmware
