import FlightComputer.Firmware.ComponentRegistry
import FlightComputer.Firmware.SdCardDriver

/-!
# The SD card test

`sd_card_test.c`: it waits for the removal and the insertion of a card, initializes it, and
writes, verifies and clears the blocks of the test area, one block in a call of
`process`. The ticks and the card-detect readings to come are given in advance. The driver is a
parameter, since what the test concludes depends on the results of its functions only;
`sdCardDriverCalls` is the driver of the firmware.

What the test does is recorded: its starts, the readings of the card-detect switch and the
calls of the driver with their results. `sdCardTestProcess_returns` says what one
call of `process` can do.
-/

set_option autoImplicit false

namespace FlightComputer.Firmware

open Library

/-! ## The state -/

/-- `sd_card_test_state_t` -/
inductive SdCardTestState where
  | announceRemoval
  | waitingForRemoval
  | announceInsertion
  | waitingForInsertion
  | initializing
  | writing
  | verifying
  | cleaningUp
  | complete
  | failed
  deriving DecidableEq

/-- What the test does, as it can be observed: it is started, reads the card-detect
switch, calls the driver, and emits events. -/
inductive SdCardAction where
  | start
  | cardRead (present : Bool)
  | initialization (ok : Bool)
  | block (operation : BlockOperation) (block : UInt32) (ok : Bool)
  | shutdown
  | event (name : Option Bytes)
  deriving DecidableEq

/-- `SD_CARD_POLL_INTERVAL_MS` -/
def sdCardPollIntervalMs : UInt32 := 20

/-- `SD_CARD_STABLE_POLLS` -/
def sdCardStablePolls : UInt8 := 3

/-- The driver as the test uses it: a state, the functions on it, the information structure
that the test hands to them, and `sd_card_driver_last_failure`. -/
structure SdCardDriverCalls (δ : Type) where
  initializeCard : Fallible δ Unit
  block : BlockOperation → UInt32 → Fallible δ Unit
  shutdown : Fallible δ Unit
  information : δ → SdCardInformation
  lastFailure : δ → SdCardFailure
  clearInformation : δ → δ

/-- The static state of the test, with a driver below it, the ticks and the readings to
come, and the actions so far. -/
structure SdCardTest (δ : Type) where
  driver : δ
  state : SdCardTestState
  nextPollAt : UInt32
  matchingPolls : UInt8
  currentBlock : UInt32
  latestEvent : ComponentTestEvent
  ticks : List UInt32
  cardReads : List Bool
  actions : List SdCardAction

variable {δ : Type} (calls : SdCardDriverCalls δ)

/-- A call of the test. -/
abbrev SdTestCall (δ α : Type) : Type := ComponentCall (SdCardTest δ) α

/-- An action is recorded. -/
def SdCardTest.record (action : SdCardAction) (s : SdCardTest δ) : SdCardTest δ :=
  { s with actions := s.actions ++ [action] }

/-- `HAL_GetTick` -/
def sdTestTick : SdTestCall δ UInt32 := fun s =>
  match s.ticks with
  | [] => none
  | now :: later => some (now, { s with ticks := later })

/-- `flightcomputer_v1_sd_card_inserted` -/
def sdCardInserted : SdTestCall δ Bool := fun s =>
  match s.cardReads with
  | [] => none
  | present :: later => some (present, { s with cardReads := later }.record (.cardRead present))

/-- A call of the driver, with the `bool` that it returns. -/
def sdDriverCall (call : Fallible δ Unit) (action : Bool → SdCardAction) : SdTestCall δ Bool :=
  fun s => (call s.driver).map fun returned =>
    (returned.1.isSome, { s with driver := returned.2 }.record (action returned.1.isSome))

/-! ## Events -/

/-- The event of `card_information_event`. -/
def cardInformation (name : String) (information : SdCardInformation) : ComponentTestEvent where
  kind := .sdCardInfo
  name := some (ascii name)
  sectorCount := information.sectorCount
  testSector := information.testSector
  checksum := information.checksum
  highCapacity := information.highCapacity

/-- `message` -/
def sdMessage (name : String) (s : SdCardTest δ) : SdCardTest δ :=
  { s with latestEvent := messageEvent name }

/-- `card_information_event` -/
def cardInformationEvent (name : String) (s : SdCardTest δ) : SdCardTest δ :=
  { s with latestEvent := cardInformation name (calls.information s.driver) }

/-- `failure_event` -/
def sdFailureEvent (stage reason : Option Bytes) (code : Int32) (s : SdCardTest δ) : SdCardTest δ :=
  { s with latestEvent := componentFailure stage reason code }

/-- `driver_failure_event`, on `sd_card_driver_last_failure` -/
def sdDriverFailureEvent (s : SdCardTest δ) : SdCardTest δ :=
  let failure := calls.lastFailure s.driver
  sdFailureEvent failure.stage failure.reason failure.code s

/-! ## The functions -/

/-- `stable_card_state` -/
def stableCardState (inserted : Bool) : SdTestCall δ Bool := do
  let now ← sdTestTick
  if (now - (← get).nextPollAt).toInt32 < 0 then pure false
  else do
    modify fun s => { s with nextPollAt := now + sdCardPollIntervalMs }
    let present ← sdCardInserted
    modify fun s =>
      { s with matchingPolls := if present = inserted then s.matchingPolls + 1 else 0 }
    pure (decide (sdCardStablePolls ≤ (← get).matchingPolls))

/-- `sd_card_test_start` -/
def sdCardTestStart (_ : ComponentTestParameters) : SdTestCall δ Unit := do
  modify (SdCardTest.record .start)
  modify fun s => { s with
    driver := calls.clearInformation s.driver
    matchingPolls := 0
    currentBlock := 0 }
  let now ← sdTestTick
  modify fun s => { s with nextPollAt := now }
  let present ← sdCardInserted
  modify fun s => { s with state := if present then .announceRemoval else .announceInsertion }

/-- Announce the next step. -/
def announce (next : SdCardTestState) (name : String) : SdTestCall δ ComponentTestProcessResult := do
  modify fun s => sdMessage name { s with state := next }
  pure .event

/-- Wait until the card is stably in the wanted state, then announce the next step. -/
def waitForCard (inserted : Bool) (next : SdCardTestState) (matchingPolls : UInt8 → UInt8)
    (name : String) : SdTestCall δ ComponentTestProcessResult := do
  if ← stableCardState inserted then do
    modify fun s => { s with matchingPolls := matchingPolls s.matchingPolls }
    announce next name
  else pure .running

/-- A call of the driver, if the card is present; then the test goes on, or fails. -/
def callWithCard (stage : String) (code : Int32) (call : Fallible δ Unit) (action : Bool → SdCardAction)
    (next : SdTestCall δ ComponentTestProcessResult) : SdTestCall δ ComponentTestProcessResult := do
  if ← sdCardInserted then do
    if ← sdDriverCall call action then next
    else do
      modify fun s => { sdDriverFailureEvent calls s with state := .failed }
      pure .event
  else do
    modify fun s =>
      { sdFailureEvent (some (ascii stage)) (some (ascii "card_removed")) code s with
        state := .failed }
    pure .event

/-- One block of a phase; after the last one the phase has ended. -/
def blockPhase (stage : String) (operation : BlockOperation) (next : SdCardTestState)
    (restart : UInt32 → UInt32) (name : String) : SdTestCall δ ComponentTestProcessResult := do
  let block := (← get).currentBlock
  callWithCard calls stage block.toInt32 (calls.block operation block) (.block operation block) do
    modify fun s => { s with currentBlock := s.currentBlock + 1 }
    if (← get).currentBlock < sdCardTestBlockCount then pure .running
    else do
      modify fun s => cardInformationEvent calls name
        { s with state := next, currentBlock := restart s.currentBlock }
      pure .event

/-- `sd_card_test_process` -/
def sdCardTestProcess : SdTestCall δ ComponentTestProcessResult := do
  match (← get).state with
  | .announceRemoval => announce .waitingForRemoval "sd_card_remove_required"
  | .waitingForRemoval => waitForCard false .announceInsertion (fun _ => 0) "sd_card_removed"
  | .announceInsertion => announce .waitingForInsertion "sd_card_insert_required"
  | .waitingForInsertion => waitForCard true .initializing id "sd_card_detected"
  | .initializing =>
      callWithCard calls "initialization" 0 calls.initializeCard .initialization do
        modify fun s => cardInformationEvent calls "sd_card_initialized" { s with state := .writing }
        pure .event
  | .writing =>
      blockPhase calls "write" .write .verifying (fun _ => 0) "sd_card_written"
  | .verifying =>
      blockPhase calls "verify" .verify .cleaningUp (fun _ => 0) "sd_card_verified"
  | .cleaningUp =>
      blockPhase calls "cleanup" .clear .complete id "sd_card_cleaned_up"
  | .complete => pure .passed
  | .failed => pure .failed

/-- `sd_card_test_event` -/
def sdCardTestEvent (s : SdCardTest δ) : Option ComponentTestEvent := some s.latestEvent

/-- `sd_card_test_stop` -/
def sdCardTestStop : SdTestCall δ Unit := do
  let _ ← sdDriverCall calls.shutdown fun _ => .shutdown

/-- The driver of the firmware. A start clears the information structure, and begins a run
in which no initialization has come to its last step. -/
def sdCardDriverCalls : SdCardDriverCalls SdCardDriver where
  initializeCard := sdCardDriverInitialize false
  block := BlockOperation.call
  shutdown := sdCardDriverShutdown
  information := SdCardDriver.information
  lastFailure := SdCardDriver.lastFailure
  clearInformation s := { s with information := ⟨0, 0, 0, false⟩, highSpeedReached := false }

/-! ## What one call can do -/

/-- The states before a card has been inserted. -/
def SdCardTestState.isWaiting : SdCardTestState → Bool
  | .announceRemoval | .waitingForRemoval | .announceInsertion | .waitingForInsertion => true
  | _ => false

/-- The messages of these states. -/
def sdMessages : List String :=
  ["sd_card_remove_required", "sd_card_removed", "sd_card_insert_required", "sd_card_detected"]

/-- The stages in which a missing card is noticed. -/
def sdStages : List String := ["initialization", "write", "verify", "cleanup"]

/-- The state in which an operation is performed. -/
def BlockOperation.state : BlockOperation → SdCardTestState
  | .write => .writing
  | .verify => .verifying
  | .clear => .cleaningUp

/-- The state after the operation has been performed on every block. -/
def BlockOperation.next : BlockOperation → SdCardTestState
  | .write => .verifying
  | .verify => .cleaningUp
  | .clear => .complete

/-- The event after the operation has been performed on every block. -/
def BlockOperation.event : BlockOperation → String
  | .write => "sd_card_written"
  | .verify => "sd_card_verified"
  | .clear => "sd_card_cleaned_up"

/-- The call of the driver that is to be made in a state, and its action. -/
inductive PendingCall (s : SdCardTest δ) : Fallible δ Unit → (Bool → SdCardAction) → Prop where
  | initialization (state : s.state = .initializing) :
      PendingCall s calls.initializeCard .initialization
  | block (operation : BlockOperation) (state : s.state = operation.state) :
      PendingCall s (calls.block operation s.currentBlock) (.block operation s.currentBlock)

/-- **What one call of `process` can do.** -/
inductive Processed (s t : SdCardTest δ) : ComponentTestProcessResult → Prop where
  | waits (reads : List Bool) (before : s.state.isWaiting = true) (state : t.state = s.state)
      (block : t.currentBlock = s.currentBlock) (driver : t.driver = s.driver)
      (actions : t.actions = s.actions ++ reads.map .cardRead) : Processed s t .running
  | announces {name : String} (reads : List Bool) (before : s.state.isWaiting = true)
      (state : t.state.isWaiting = true ∨ t.state = .initializing)
      (block : t.currentBlock = s.currentBlock) (driver : t.driver = s.driver)
      (listed : name ∈ sdMessages) (event : t.latestEvent = messageEvent name)
      (actions : t.actions = s.actions ++ reads.map .cardRead) : Processed s t .event
  | removed {stage : String} {code : Int32} {call : Fallible δ Unit} {action : Bool → SdCardAction}
      (pending : PendingCall calls s call action) (state : t.state = .failed)
      (driver : t.driver = s.driver) (listed : stage ∈ sdStages)
      (event : t.latestEvent =
        componentFailure (some (ascii stage)) (some (ascii "card_removed")) code)
      (actions : t.actions = s.actions ++ [.cardRead false]) : Processed s t .event
  | callFails {call : Fallible δ Unit} {action : Bool → SdCardAction}
      (pending : PendingCall calls s call action) (called : call s.driver = some (none, t.driver))
      (state : t.state = .failed)
      (event : t.latestEvent = componentFailure (calls.lastFailure t.driver).stage
        (calls.lastFailure t.driver).reason (calls.lastFailure t.driver).code)
      (actions : t.actions = s.actions ++ [.cardRead true, action false]) : Processed s t .event
  | initialized (before : s.state = .initializing)
      (called : calls.initializeCard s.driver = some (some (), t.driver)) (state : t.state = .writing)
      (block : t.currentBlock = s.currentBlock)
      (event : t.latestEvent =
        cardInformation "sd_card_initialized" (calls.information t.driver))
      (actions : t.actions = s.actions ++ [.cardRead true, .initialization true]) :
      Processed s t .event
  | blockDone (operation : BlockOperation) (before : s.state = operation.state)
      (called : calls.block operation s.currentBlock s.driver = some (some (), t.driver))
      (more : s.currentBlock + 1 < sdCardTestBlockCount) (state : t.state = s.state)
      (block : t.currentBlock = s.currentBlock + 1)
      (actions : t.actions =
        s.actions ++ [.cardRead true, .block operation s.currentBlock true]) :
      Processed s t .running
  | phaseDone (operation : BlockOperation) (before : s.state = operation.state)
      (called : calls.block operation s.currentBlock s.driver = some (some (), t.driver))
      (last : ¬s.currentBlock + 1 < sdCardTestBlockCount) (state : t.state = operation.next)
      (block : t.state ≠ .complete → t.currentBlock = 0)
      (event : t.latestEvent = cardInformation operation.event (calls.information t.driver))
      (actions : t.actions =
        s.actions ++ [.cardRead true, .block operation s.currentBlock true]) :
      Processed s t .event
  | passed (state : s.state = .complete) (same : t = s) : Processed s t .passed
  | failed (state : s.state = .failed) (same : t = s) : Processed s t .failed

variable {calls} {s t : SdCardTest δ} {result : ComponentTestProcessResult}

theorem sdCardInserted_returns {present : Bool} (returned : sdCardInserted s = some (present, t)) :
    ∃ later, t = { s with cardReads := later }.record (.cardRead present) := by
  rw [sdCardInserted] at returned
  cases held : s.cardReads with
  | nil =>
      rw [held] at returned
      exact absurd returned.symm (Option.some_ne_none _)
  | cons answer later =>
      rw [held] at returned
      obtain ⟨rfl, rfl⟩ := Prod.mk.inj (Option.some.inj returned)
      exact ⟨later, rfl⟩

theorem sdTestTick_returns {now : UInt32} (returned : sdTestTick s = some (now, t)) :
    ∃ later, t = { s with ticks := later } := by
  rw [sdTestTick] at returned
  cases held : s.ticks with
  | nil =>
      rw [held] at returned
      exact absurd returned.symm (Option.some_ne_none _)
  | cons answer later =>
      rw [held] at returned
      obtain ⟨rfl, rfl⟩ := Prod.mk.inj (Option.some.inj returned)
      exact ⟨later, rfl⟩

/-- The fields that only the calls of the driver and the ends of the phases change. -/
structure Waited (s t : SdCardTest δ) : Prop where
  state : t.state = s.state
  block : t.currentBlock = s.currentBlock
  driver : t.driver = s.driver
  actions : ∃ reads : List Bool, t.actions = s.actions ++ reads.map .cardRead

/-- **Polling** reads the switch at most once. -/
theorem stableCardState_returns {inserted stable : Bool}
    (returned : stableCardState inserted s = some (stable, t)) : Waited s t := by
  obtain ⟨now, polled, ticked, rest⟩ := ComponentCall.bind_eq_some returned
  obtain ⟨later, rfl⟩ := sdTestTick_returns ticked
  rw [ComponentCall.get_bind] at rest
  split_ifs at rest with early
  · obtain ⟨_, rfl⟩ := ComponentCall.pure_eq_some rest
    exact ⟨rfl, rfl, rfl, [], (List.append_nil _).symm⟩
  · rw [ComponentCall.modify_bind] at rest
    obtain ⟨present, read, inserted', rest⟩ := ComponentCall.bind_eq_some rest
    obtain ⟨laterReads, rfl⟩ := sdCardInserted_returns inserted'
    rw [ComponentCall.modify_bind, ComponentCall.get_bind] at rest
    obtain ⟨_, rfl⟩ := ComponentCall.pure_eq_some rest
    exact ⟨rfl, rfl, rfl, [present], rfl⟩

theorem waitForCard_returns {inserted : Bool} {next : SdCardTestState}
    {matchingPolls : UInt8 → UInt8} {name : String} (before : s.state.isWaiting = true)
    (after : next.isWaiting = true ∨ next = .initializing) (listed : name ∈ sdMessages)
    (returned : waitForCard inserted next matchingPolls name s = some (result, t)) :
    Processed calls s t result := by
  obtain ⟨stable, polled, waited, rest⟩ := ComponentCall.bind_eq_some returned
  obtain ⟨state, block, driver, reads, actions⟩ := stableCardState_returns waited
  cases stable with
  | true =>
      obtain ⟨rfl, rfl⟩ := ComponentCall.pure_eq_some rest
      exact .announces reads before after block driver listed rfl actions
  | false =>
      obtain ⟨rfl, rfl⟩ := ComponentCall.pure_eq_some rest
      exact .waits reads before state block driver actions

theorem announce_returns {next : SdCardTestState} {name : String}
    (before : s.state.isWaiting = true)
    (after : next.isWaiting = true ∨ next = .initializing) (listed : name ∈ sdMessages)
    (returned : announce next name s = some (result, t)) : Processed calls s t result := by
  obtain ⟨rfl, rfl⟩ := ComponentCall.pure_eq_some returned
  exact .announces [] before after rfl rfl listed rfl (List.append_nil _).symm

/-- **A call of the driver with the card present**: what follows a success is left to be
told. -/
theorem callWithCard_returns {stage : String} {code : Int32} {call : Fallible δ Unit}
    {action : Bool → SdCardAction} {next : SdTestCall δ ComponentTestProcessResult}
    (pending : PendingCall calls s call action) (listed : stage ∈ sdStages)
    (returned : callWithCard calls stage code call action next s = some (result, t)) :
    Processed calls s t result ∨ ∃ driver later, call s.driver = some (some (), driver) ∧
      next { s with driver := driver, cardReads := later,
                    actions := s.actions ++ [.cardRead true, action true] } = some (result, t) := by
  obtain ⟨present, read, inserted, rest⟩ := ComponentCall.bind_eq_some returned
  obtain ⟨later, rfl⟩ := sdCardInserted_returns inserted
  cases present with
  | false =>
      obtain ⟨rfl, rfl⟩ := ComponentCall.pure_eq_some rest
      exact .inl (.removed pending rfl rfl listed rfl rfl)
  | true =>
      obtain ⟨ok, after, called, rest⟩ := ComponentCall.bind_eq_some rest
      obtain ⟨⟨answer, driver⟩, made, same⟩ := Option.map_eq_some_iff.mp called
      obtain ⟨rfl, rfl⟩ := Prod.mk.inj same
      have pair : ∀ ok : Bool, s.actions ++ [.cardRead true] ++ [action ok] =
          s.actions ++ [.cardRead true, action ok] := fun ok => List.append_assoc ..
      cases answer with
      | none =>
          obtain ⟨rfl, rfl⟩ := ComponentCall.pure_eq_some rest
          exact .inl (.callFails pending made rfl rfl (pair false))
      | some _ =>
          refine .inr ⟨driver, later, made, ?_⟩
          rw [← pair true]
          exact rest

theorem blockPhase_returns {stage : String} {operation : BlockOperation}
    {restart : UInt32 → UInt32} (before : s.state = operation.state) (listed : stage ∈ sdStages)
    (first : operation.next ≠ .complete → ∀ block, restart block = 0)
    (returned : blockPhase calls stage operation operation.next restart operation.event s =
      some (result, t)) : Processed calls s t result := by
  rw [blockPhase, ComponentCall.get_bind] at returned
  rcases callWithCard_returns (.block operation before) listed returned with
    done | ⟨driver, later, called, rest⟩
  · exact done
  · rw [ComponentCall.modify_bind, ComponentCall.get_bind] at rest
    split_ifs at rest with more
    · obtain ⟨rfl, rfl⟩ := ComponentCall.pure_eq_some rest
      exact .blockDone operation before called more rfl rfl rfl
    · obtain ⟨rfl, rfl⟩ := ComponentCall.pure_eq_some rest
      exact .phaseDone operation before called more rfl (fun goes => first goes _) rfl rfl

/-- **`sd_card_test_process`** -/
theorem sdCardTestProcess_returns (returned : sdCardTestProcess calls s = some (result, t)) :
    Processed calls s t result := by
  rw [sdCardTestProcess, ComponentCall.get_bind] at returned
  cases state : s.state with
  | announceRemoval =>
      rw [state] at returned
      exact announce_returns (by rw [state]; rfl) (.inl rfl) (by decide) returned
  | waitingForRemoval =>
      rw [state] at returned
      exact waitForCard_returns (by rw [state]; rfl) (.inl rfl) (by decide) returned
  | announceInsertion =>
      rw [state] at returned
      exact announce_returns (by rw [state]; rfl) (.inl rfl) (by decide) returned
  | waitingForInsertion =>
      rw [state] at returned
      exact waitForCard_returns (by rw [state]; rfl) (.inr rfl) (by decide) returned
  | initializing =>
      rw [state] at returned
      rcases callWithCard_returns (.initialization state) (by decide) returned with
        done | ⟨driver, later, called, rest⟩
      · exact done
      · obtain ⟨rfl, rfl⟩ := ComponentCall.pure_eq_some rest
        exact .initialized state called rfl rfl rfl rfl
  | writing =>
      rw [state] at returned
      exact blockPhase_returns (s := s) (show s.state = BlockOperation.write.state from state)
        (by decide) (fun _ _ => rfl) returned
  | verifying =>
      rw [state] at returned
      exact blockPhase_returns (s := s) (show s.state = BlockOperation.verify.state from state)
        (by decide) (fun _ _ => rfl) returned
  | cleaningUp =>
      rw [state] at returned
      exact blockPhase_returns (show s.state = BlockOperation.clear.state from state) (by decide)
        (fun goes => absurd rfl goes) returned
  | complete =>
      rw [state] at returned
      obtain ⟨rfl, same⟩ := ComponentCall.pure_eq_some returned
      exact .passed state same
  | failed =>
      rw [state] at returned
      obtain ⟨rfl, same⟩ := ComponentCall.pure_eq_some returned
      exact .failed state same

/-- **`sd_card_test_start`** -/
theorem sdCardTestStart_returns {parameters : ComponentTestParameters} {u : Unit}
    (returned : sdCardTestStart calls parameters s = some (u, t)) :
    t.state.isWaiting = true ∧ t.currentBlock = 0 ∧ t.driver = calls.clearInformation s.driver ∧
      ∃ present, t.actions = s.actions ++ [.start, .cardRead present] := by
  rw [sdCardTestStart, ComponentCall.modify_bind, ComponentCall.modify_bind] at returned
  obtain ⟨now, ticked, tick, rest⟩ := ComponentCall.bind_eq_some returned
  obtain ⟨later, rfl⟩ := sdTestTick_returns tick
  rw [ComponentCall.modify_bind] at rest
  obtain ⟨present, read, inserted, rest⟩ := ComponentCall.bind_eq_some rest
  obtain ⟨laterReads, rfl⟩ := sdCardInserted_returns inserted
  obtain ⟨_, rfl⟩ := ComponentCall.pure_eq_some rest
  refine ⟨?_, rfl, rfl, present, List.append_assoc ..⟩
  cases present with
  | false => rfl
  | true => rfl

/-- **`sd_card_test_stop`** -/
theorem sdCardTestStop_returns {u : Unit} (returned : sdCardTestStop calls s = some (u, t)) :
    ∃ answer driver, calls.shutdown s.driver = some (answer, driver) ∧
      t = { s with driver := driver }.record .shutdown := by
  obtain ⟨ok, after, called, rest⟩ := ComponentCall.bind_eq_some returned
  obtain ⟨_, rfl⟩ := ComponentCall.pure_eq_some rest
  obtain ⟨⟨answer, driver⟩, made, same⟩ := Option.map_eq_some_iff.mp called
  obtain ⟨rfl, rfl⟩ := Prod.mk.inj same
  exact ⟨answer, driver, made, rfl⟩

end FlightComputer.Firmware
