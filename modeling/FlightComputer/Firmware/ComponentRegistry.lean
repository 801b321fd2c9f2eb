import FlightComputer.Library.Json
import FlightComputer.Library.ShortTexts

/-!
# Component tests

What the session layer knows of a component test (`component_registry.h`): its
type, four functions, and the events they produce. The functions work on a state
that belongs to the components and to the hardware behind them; what this state
consists of is a parameter. A call that has not returned has no result.

C strings are the bytes before their NUL; a pointer that may be `NULL` is an
option.
-/

set_option autoImplicit false

namespace FlightComputer.Firmware

open Library

/-- `component_test_process_result_t` -/
inductive ComponentTestProcessResult where
  | running
  | event
  | passed
  | failed
  deriving DecidableEq

/-- `component_test_parameters_t` -/
structure ComponentTestParameters where
  rgbColourPresent : Bool
  red : UInt8
  green : UInt8
  blue : UInt8
  deriving DecidableEq

/-- `component_test_event_kind_t` -/
inductive ComponentTestEventKind where
  | message
  | imuSample
  | barometerSample
  | sdCardInfo
  | failure
  deriving DecidableEq

/-- `component_test_event_t`. A field that an initializer leaves out is zero. -/
structure ComponentTestEvent where
  kind : ComponentTestEventKind
  name : Option Bytes
  accelerationX : Int16 := 0
  accelerationY : Int16 := 0
  accelerationZ : Int16 := 0
  gyroscopeX : Int16 := 0
  gyroscopeY : Int16 := 0
  gyroscopeZ : Int16 := 0
  pressureCentiPa : Int32 := 0
  temperatureCentiC : Int32 := 0
  sectorCount : UInt64 := 0
  testSector : UInt32 := 0
  checksum : UInt32 := 0
  highCapacity : Bool := false
  failureStage : Option Bytes := none
  failureReason : Option Bytes := none
  failureCode : Int32 := 0

/-- An event without data, as the components fill it. -/
def messageEvent (name : String) : ComponentTestEvent where
  kind := .message
  name := some (ascii name)

/-- The event of a failure, as the components fill it. -/
def componentFailure (stage reason : Option Bytes) (code : Int32) : ComponentTestEvent where
  kind := .failure
  name := some (ascii "component_failure")
  failureStage := stage
  failureReason := reason
  failureCode := code

/-- A text that names an event, a stage or a reason: not empty, at most 64 bytes long, in
printable ASCII without quotes and backslashes. -/
structure IsLabel (text : Bytes) : Prop where
  nonempty : text ≠ []
  length_le : text.length ≤ 64
  plain : ∀ byte ∈ text, isPlainStringByte byte = true ∧ byte.toNat ≤ 126

theorem IsLabel.isShort {text : Bytes} (label : IsLabel text) : IsShort 64 text where
  length_le := label.length_le
  printable byte listed := ((isPlainStringByte_iff byte).mp (label.plain byte listed).1).1

/-- A literal that names one of them. -/
theorem isLabel_of_check {text : String}
    (checked : (!(ascii text).isEmpty && decide ((ascii text).length ≤ 64) &&
      (ascii text).all fun byte => isPlainStringByte byte && decide (byte.toNat ≤ 126)) = true) :
    IsLabel (ascii text) := by
  simp only [Bool.and_eq_true, Bool.not_eq_true', decide_eq_true_eq, List.all_eq_true] at checked
  obtain ⟨⟨nonempty, length_le⟩, plain⟩ := checked
  refine ⟨?_, length_le, plain⟩
  intro empty
  rw [empty] at nonempty
  cases nonempty

/-- **An event that can be told**: it has a name, and a failure has a stage and a reason. -/
structure ComponentTestEvent.IsLabelled (event : ComponentTestEvent) : Prop where
  name : ∃ name, event.name = some name ∧ IsLabel name
  failure : event.kind = .failure → ∃ stage reason, event.failureStage = some stage ∧
    event.failureReason = some reason ∧ IsLabel stage ∧ IsLabel reason

theorem isLabelled_messageEvent {name : String} (named : IsLabel (ascii name)) :
    (messageEvent name).IsLabelled :=
  ⟨⟨_, rfl, named⟩, fun kind => ComponentTestEventKind.noConfusion kind⟩

theorem isLabelled_componentFailure {stage reason : Bytes} (staged : IsLabel stage)
    (reasoned : IsLabel reason) (code : Int32) :
    (componentFailure (some stage) (some reason) code).IsLabelled :=
  ⟨⟨_, rfl, isLabel_of_check (by decide)⟩, fun _ => ⟨stage, reason, rfl, rfl, staged, reasoned⟩⟩

/-- The event of a failure that has been diagnosed. -/
def IsDiagnosis (event : ComponentTestEvent) : Prop :=
  ∃ stage reason code, event = componentFailure (some stage) (some reason) code ∧
    IsLabel stage ∧ IsLabel reason

theorem IsDiagnosis.isLabelled {event : ComponentTestEvent} (diagnosis : IsDiagnosis event) :
    event.IsLabelled := by
  obtain ⟨stage, reason, code, rfl, staged, reasoned⟩ := diagnosis
  exact isLabelled_componentFailure staged reasoned code

/-- A call that works on the state of the components, with its result once it
has returned. -/
abbrev ComponentCall (δ α : Type) : Type := StateT δ Option α

section Calls

variable {δ α β : Type} {s t : δ}

/-- A call after which another one returned has returned itself. -/
theorem ComponentCall.bind_eq_some {call : ComponentCall δ α} {next : α → ComponentCall δ β}
    {value : β}
    (returned : (call >>= next) s = some (value, t)) :
    ∃ first middle, call s = some (first, middle) ∧ next first middle = some (value, t) := by
  obtain ⟨⟨first, middle⟩, called, rest⟩ := Option.bind_eq_some_iff.mp returned
  exact ⟨first, middle, called, rest⟩

/-- After a call that has returned, the other one follows. -/
theorem ComponentCall.bind_of_returned {call : ComponentCall δ α} {next : α → ComponentCall δ β}
    {value : α} (returned : call s = some (value, t)) : (call >>= next) s = next value t := by
  show (call s).bind _ = _
  rw [returned]
  rfl

theorem ComponentCall.get_bind {next : δ → ComponentCall δ β} :
    ((get : ComponentCall δ δ) >>= next) s = next s s := rfl

theorem ComponentCall.modify_bind {update : δ → δ} {next : PUnit → ComponentCall δ β} :
    ((modify update : ComponentCall δ PUnit) >>= next) s = next ⟨⟩ (update s) := rfl

/-- What a call that only returns a value returns. -/
theorem ComponentCall.pure_eq_some {value result : α}
    (returned : (pure value : ComponentCall δ α) s = some (result, t)) :
    result = value ∧ t = s := by
  obtain ⟨rfl, rfl⟩ := Prod.mk.inj (Option.some.inj returned)
  exact ⟨rfl, rfl⟩

end Calls

/-- `component_test_definition_t` -/
structure ComponentTestDefinition (δ : Type) where
  type : Bytes
  start : ComponentTestParameters → ComponentCall δ Unit
  process : ComponentCall δ ComponentTestProcessResult
  event : Option (δ → Option ComponentTestEvent)
  stop : ComponentCall δ Unit

/-- `component_test_registry_t` -/
abbrev ComponentTestRegistry (δ : Type) : Type := List (ComponentTestDefinition δ)

/-- `component_registry_find` -/
def componentRegistryFind {δ : Type} (registry : ComponentTestRegistry δ) (type : Bytes) :
    Option (ComponentTestDefinition δ) :=
  registry.find? fun definition => definition.type == type

/-- The definition that is found is registered and has the type looked for. -/
theorem componentRegistryFind_eq_some {δ : Type} {registry : ComponentTestRegistry δ}
    {type : Bytes} {definition : ComponentTestDefinition δ}
    (found : componentRegistryFind registry type = some definition) :
    definition ∈ registry ∧ definition.type = type := by
  have same := List.find?_some found
  exact ⟨List.mem_of_find?_eq_some found, beq_iff_eq.mp same⟩

end FlightComputer.Firmware
