import FlightComputer.Firmware.ComponentRegistry
import FlightComputer.Firmware.SdCardDriver

/-!
# Polling the SD card

The functions of the driver that only exchange single bytes with the card, and read the tick. What
a byte keeps, they keep (`Pollable`): a property that holds as long as they go on, and one that
holds when they fail.
-/

set_option autoImplicit false

namespace FlightComputer.Firmware

open Library Fallible

/-! ## Rules for an invariant -/

theorem keeps_ask {α : Type} {field : SdCardDriver → α} {P failed : SdCardDriver → Prop} :
    Keeps P failed (ask field) :=
  .ask fun _ holds => holds

theorem keeps_pure {α : Type} {value : α} {P failed : SdCardDriver → Prop} :
    Keeps P failed (pure value) :=
  .pure fun _ holds => holds

/-- One call after the other. -/
theorem keeps_bind {α β : Type} {call : SdCall α} {next : α → SdCall β}
    {P failed : SdCardDriver → Prop} (earlier : Keeps P failed call)
    (later : ∀ value, Keeps P failed (next value)) : Keeps P failed (call >>= next) :=
  Triple.bind earlier later

/-! ## Polls -/

/-- What single bytes and the tick keep, and what holds after a failure. -/
structure Pollable (P F : SdCardDriver → Prop) : Prop where
  byte : ∀ byte, Keeps P F (transferByte byte)
  tick : Keeps P F halGetTick
  failure : ∀ {α : Type} {reason : String} {code : Int32}, IsLabel (ascii reason) →
    Keeps P F (failIfUnset reason code : SdCall α)

namespace Pollable

variable {P F : SdCardDriver → Prop} (pollable : Pollable P F)
include pollable

/-- **`clock_bytes`** -/
theorem clockBytes {value : UInt8} {count : Nat} : Keeps P F (clockBytes value count) := by
  induction count with
  | zero => exact keeps_pure
  | succ count ih => exact keeps_bind (pollable.byte value) fun _ => ih

/-- **`read_bytes`** -/
theorem readBytes {length : Nat} : Keeps P F (readBytes length) := by
  induction length with
  | zero => exact keeps_pure
  | succ length ih =>
      exact keeps_bind (pollable.byte 0xFF) fun _ => keeps_bind ih fun _ => keeps_pure

theorem waitReadyLoop {timeoutMs started : UInt32} {bound : Nat} :
    Keeps P F (waitReadyLoop timeoutMs started bound) := by
  induction bound with
  | zero => exact Triple.never
  | succ bound ih =>
      refine keeps_bind (pollable.byte 0xFF) fun value => .ite (fun _ => keeps_pure) fun _ => ?_
      exact keeps_bind pollable.tick fun now => .ite (fun _ => ih)
        fun _ => pollable.failure (isLabel_of_check (by decide))

/-- **`wait_ready`** -/
theorem waitReady {timeoutMs : UInt32} : Keeps P F (waitReady timeoutMs) :=
  keeps_bind pollable.tick fun _ => keeps_bind keeps_ask fun _ => pollable.waitReadyLoop

theorem awaitResponse {attempts : Nat} : Keeps P F (awaitResponse attempts) := by
  induction attempts with
  | zero => exact pollable.failure (isLabel_of_check (by decide))
  | succ attempts ih =>
      exact keeps_bind (pollable.byte 0xFF) fun _ => .ite (fun _ => keeps_pure) fun _ => ih

theorem awaitToken {started : UInt32} {bound : Nat} : Keeps P F (awaitToken started bound) := by
  induction bound with
  | zero => exact Triple.never
  | succ bound ih =>
      refine keeps_bind (pollable.byte 0xFF) fun token => .ite (fun _ => ?_) fun _ => keeps_pure
      exact keeps_bind pollable.tick fun now => .ite (fun _ => ih) fun _ => keeps_pure

/-- **`wait_for_data_token`** -/
theorem waitForDataToken : Keeps P F waitForDataToken := by
  refine keeps_bind pollable.tick fun _ => keeps_bind keeps_ask fun _ =>
    keeps_bind pollable.awaitToken fun _ => .ite (fun _ => keeps_pure) fun _ => ?_
  exact pollable.failure (isLabel_of_check (by decide))

end Pollable

end FlightComputer.Firmware
