import FlightComputer.Firmware.SdCardTest
import FlightComputer.Library.Runs
import Mathlib.Data.List.Induction

/-!
# The verdict of the SD card test

For every sequence of starts, updates and stops, whatever the card-detect switch reads
and the functions of the driver return: the test passes only after it has initialized the
card and then written, verified and cleared every test block in order, each call with the
card present and none in between but the shutdowns of `sd_card_test_stop`
(`sd_card_verdict`). After a failure it calls the driver no more, and can only fail.
-/

set_option autoImplicit false

namespace FlightComputer.Firmware

open Library

variable {δ : Type}

/-! ## Steps -/

/-- The calls of the test, an update with its result. -/
inductive SdCardTestCall where
  | start
  | process (result : ComponentTestProcessResult)
  | stop
  deriving DecidableEq

/-- An event that an update announces is emitted. -/
def SdCardTest.emit (result : ComponentTestProcessResult) (t : SdCardTest δ) : SdCardTest δ :=
  if result = .event then t.record (.event t.latestEvent.name) else t

/-- The calls of the test, in any order. -/
inductive SdCardTestStep (calls : SdCardDriverCalls δ) :
    SdCardTest δ → SdCardTestCall → SdCardTest δ → Prop where
  | start {s t : SdCardTest δ} {parameters : ComponentTestParameters} {u : Unit}
      (returned : sdCardTestStart calls parameters s = some (u, t)) :
      SdCardTestStep calls s .start t
  | process {s t : SdCardTest δ} {result : ComponentTestProcessResult}
      (returned : sdCardTestProcess calls s = some (result, t)) :
      SdCardTestStep calls s (.process result) (t.emit result)
  | stop {s t : SdCardTest δ} {u : Unit} (returned : sdCardTestStop calls s = some (u, t)) :
      SdCardTestStep calls s .stop t

/-- The test after a reset, on any driver, with whatever the hardware will answer. -/
def SdCardTest.initial (driver : δ) (ticks : List UInt32) (cardReads : List Bool) :
    SdCardTest δ where
  driver := driver
  state := .announceRemoval
  nextPollAt := 0
  matchingPolls := 0
  currentBlock := 0
  latestEvent := { kind := .message, name := none }
  ticks := ticks
  cardReads := cardReads
  actions := []

/-! ## Histories -/

/-- The calls of the driver that work on the card. -/
def SdCardAction.isCall : SdCardAction → Bool
  | .initialization _ | .block _ _ _ => true
  | _ => false

/-- The event of a failure. -/
def failureEmitted : SdCardAction := .event (some (ascii "component_failure"))

/-- One action more in the current run. -/
def nextRun (run : List SdCardAction) : SdCardAction → List SdCardAction
  | .start => []
  | .shutdown => run
  | action => run ++ [action]

/-- The actions since the last start, or since the reset, without the shutdowns. -/
def currentRun (actions : List SdCardAction) : List SdCardAction := actions.foldl nextRun []

/-- No call among them. -/
def Quiet (actions : List SdCardAction) : Prop := ∀ action ∈ actions, action.isCall = false

/-- **What holds of every history**: calls are made with the card present and for test
blocks, and none follows a failure in the same run. -/
structure SoundHistory (actions : List SdCardAction) : Prop where
  present : ∀ before call after, actions = before ++ call :: after → call.isCall = true →
    ∃ earlier, before = earlier ++ [.cardRead true]
  inside : ∀ operation block ok, .block operation block ok ∈ actions →
    block < sdCardTestBlockCount
  silent : ∀ before after, actions = before ++ failureEmitted :: after → .start ∉ after →
    Quiet after

theorem currentRun_snoc (actions : List SdCardAction) (action : SdCardAction) :
    currentRun (actions ++ [action]) = nextRun (currentRun actions) action :=
  List.foldl_append ..

/-- An action of the current run stays in it until the next start. -/
theorem mem_currentRun {before after : List SdCardAction} {name : Option Bytes}
    (same : .start ∉ after) :
    .event name ∈ currentRun (before ++ .event name :: after) := by
  induction after using List.reverseRecOn with
  | nil =>
      rw [currentRun_snoc]
      exact List.mem_append_right _ (List.mem_singleton_self _)
  | append_singleton after last ih =>
      have kept := ih fun listed => same (List.mem_append_left _ listed)
      rw [← List.cons_append, ← List.append_assoc, currentRun_snoc]
      cases last with
      | start => exact absurd (List.mem_append_right _ (List.mem_singleton_self _)) same
      | shutdown => exact kept
      | cardRead present => exact List.mem_append_left _ kept
      | initialization ok => exact List.mem_append_left _ kept
      | block operation block ok => exact List.mem_append_left _ kept
      | event name => exact List.mem_append_left _ kept

namespace SoundHistory

theorem nil : SoundHistory [] where
  present _ _ _ split _ := absurd split (by simp)
  inside _ _ _ listed := absurd listed List.not_mem_nil
  silent _ _ split _ := absurd split (by simp)

/-- **One action more.** -/
theorem snoc {actions : List SdCardAction} (history : SoundHistory actions)
    {action : SdCardAction}
    (present : action.isCall = true → ∃ earlier, actions = earlier ++ [.cardRead true])
    (inside : ∀ operation block ok, action = .block operation block ok →
      block < sdCardTestBlockCount)
    (silent : failureEmitted ∈ currentRun actions → action.isCall = false) :
    SoundHistory (actions ++ [action]) where
  present before call after split called := by
    rcases List.eq_nil_or_concat after with rfl | ⟨after, last, rfl⟩
    · obtain ⟨rfl, rfl⟩ := List.append_inj' split rfl |>.imp_right (List.cons.inj · |>.1)
      exact present called
    · rw [List.concat_eq_append, ← List.cons_append, ← List.append_assoc] at split
      exact history.present before call after (List.append_inj' split rfl).1 called
  inside operation block ok listed := by
    rcases List.mem_append.mp listed with early | late
    · exact history.inside operation block ok early
    · exact inside operation block ok (List.mem_singleton.mp late).symm
  silent before after split same := by
    rcases List.eq_nil_or_concat after with rfl | ⟨after, last, rfl⟩
    · exact fun _ listed => absurd listed List.not_mem_nil
    · rw [List.concat_eq_append, ← List.cons_append, ← List.append_assoc] at split
      obtain ⟨whole, ends⟩ := List.append_inj' split rfl
      obtain rfl : action = last := (List.cons.inj ends).1
      rw [List.concat_eq_append] at same ⊢
      have earlier : .start ∉ after := fun listed => same (List.mem_append_left _ listed)
      intro other listed
      rcases List.mem_append.mp listed with early | late
      · exact history.silent before after whole earlier other early
      · rw [List.mem_singleton.mp late]
        exact silent (whole ▸ mem_currentRun earlier)

/-- An action that is not a call. -/
theorem snoc_quiet {actions : List SdCardAction} (history : SoundHistory actions)
    {action : SdCardAction} (quiet : action.isCall = false) : SoundHistory (actions ++ [action]) :=
  history.snoc (fun called => absurd (quiet.symm.trans called) Bool.false_ne_true)
    (by rintro operation block ok rfl; exact absurd quiet (by simp [SdCardAction.isCall]))
    fun _ => quiet

/-- Readings of the switch. -/
theorem append_reads {actions : List SdCardAction} (history : SoundHistory actions)
    (reads : List Bool) : SoundHistory (actions ++ reads.map .cardRead) := by
  induction reads using List.reverseRecOn with
  | nil => exact (List.append_nil actions).symm ▸ history
  | append_singleton reads last ih =>
      rw [List.map_append, ← List.append_assoc]
      exact ih.snoc_quiet rfl

/-- A call with the card present. -/
theorem append_call {actions : List SdCardAction} (history : SoundHistory actions)
    {action : SdCardAction}
    (inside : ∀ operation block ok, action = .block operation block ok →
      block < sdCardTestBlockCount)
    (healthy : failureEmitted ∉ currentRun actions) :
    SoundHistory (actions ++ [.cardRead true, action]) := by
  rw [List.append_cons]
  refine (history.snoc_quiet rfl).snoc (fun _ => ⟨actions, rfl⟩) inside fun failed => ?_
  rw [currentRun_snoc] at failed
  rcases List.mem_append.mp failed with early | late
  · exact absurd early healthy
  · exact absurd (List.mem_singleton.mp late) (by simp [failureEmitted])

end SoundHistory

/-! ## Progress -/

/-- An operation on the first blocks, each time with the card present. -/
def performed (operation : BlockOperation) (count : Nat) : List SdCardAction :=
  (List.range count).flatMap fun block =>
    [.cardRead true, .block operation (UInt32.ofNat block) true]

/-- The initialization and its event. -/
def afterInitialization : List SdCardAction :=
  [.cardRead true, .initialization true, .event (some (ascii "sd_card_initialized"))]

/-- A phase: the operation on every block, and its event. -/
def BlockOperation.phase (operation : BlockOperation) : List SdCardAction :=
  performed operation sdCardTestBlockCount.toNat ++ [.event (some (ascii operation.event))]

/-- What comes before a phase, from the initialization on. -/
def BlockOperation.earlier : BlockOperation → List SdCardAction
  | .write => afterInitialization
  | .verify => afterInitialization ++ BlockOperation.phase .write
  | .clear => afterInitialization ++ BlockOperation.phase .write ++ BlockOperation.phase .verify

/-- **The whole coverage of the test area**: one initialization, then blocks 0 to 7
written, verified and cleared in this order, each phase with its event, and the card read
as present immediately before each call. -/
def coverage : List SdCardAction :=
  afterInitialization ++ BlockOperation.phase .write ++ BlockOperation.phase .verify ++
    BlockOperation.phase .clear

/-- The current run has covered the test area, after it has waited for the card. -/
def CoversArea (actions : List SdCardAction) : Prop :=
  ∃ waiting, Quiet waiting ∧ currentRun actions = waiting ++ coverage

/-- **The invariant of the test**: how far the current run has come in each state. -/
structure SdProgress (s : SdCardTest δ) : Prop where
  history : SoundHistory s.actions
  waiting : s.state.isWaiting = true ∨ s.state = .initializing →
    s.currentBlock = 0 ∧ Quiet (currentRun s.actions)
  working : ∀ operation : BlockOperation, s.state = operation.state →
    s.currentBlock < sdCardTestBlockCount ∧ ∃ waiting, Quiet waiting ∧
      currentRun s.actions =
        waiting ++ (operation.earlier ++ performed operation s.currentBlock.toNat)
  complete : s.state = .complete → CoversArea s.actions
  failing : failureEmitted ∈ currentRun s.actions → s.state = .failed

theorem performed_succ (operation : BlockOperation) (count : Nat) :
    performed operation (count + 1) =
      performed operation count ++ [.cardRead true, .block operation (UInt32.ofNat count) true] := by
  rw [performed, List.range_succ, List.flatMap_append, List.flatMap_singleton]
  rfl

/-- Actions that neither start nor shut down go on with the current run. -/
theorem currentRun_append (actions : List SdCardAction) {added : List SdCardAction}
    (plain : ∀ action ∈ added, action ≠ .start ∧ action ≠ .shutdown) :
    currentRun (actions ++ added) = currentRun actions ++ added := by
  induction added using List.reverseRecOn with
  | nil => rw [List.append_nil, List.append_nil]
  | append_singleton added last ih =>
      have earlier := ih fun action listed => plain action (List.mem_append_left _ listed)
      obtain ⟨going, up⟩ := plain last (List.mem_append_right _ (List.mem_singleton_self _))
      rw [← List.append_assoc, currentRun_snoc, earlier, ← List.append_assoc]
      cases last with
      | start => exact absurd rfl going
      | shutdown => exact absurd rfl up
      | cardRead present => rfl
      | initialization ok => rfl
      | block operation block ok => rfl
      | event name => rfl

theorem currentRun_reads (actions : List SdCardAction) (reads : List Bool) :
    currentRun (actions ++ reads.map .cardRead) = currentRun actions ++ reads.map .cardRead := by
  refine currentRun_append actions ?_
  rintro _ listed
  obtain ⟨present, _, rfl⟩ := List.mem_map.mp listed
  exact ⟨SdCardAction.noConfusion, SdCardAction.noConfusion⟩

theorem currentRun_call (actions : List SdCardAction) {call : SdCardAction}
    (called : call.isCall = true) :
    currentRun (actions ++ [.cardRead true, call]) =
      currentRun actions ++ [.cardRead true, call] := by
  refine currentRun_append actions ?_
  intro action listed
  rcases List.mem_cons.mp listed with rfl | last
  · exact ⟨SdCardAction.noConfusion, SdCardAction.noConfusion⟩
  · rw [List.mem_singleton.mp last]
    constructor
    · rintro rfl
      exact Bool.false_ne_true called
    · rintro rfl
      exact Bool.false_ne_true called

theorem currentRun_event (actions : List SdCardAction) (name : Option Bytes) :
    currentRun (actions ++ [.event name]) = currentRun actions ++ [.event name] :=
  currentRun_snoc actions (.event name)

theorem Quiet.append {first second : List SdCardAction} (quiet : Quiet first)
    (quiet' : Quiet second) : Quiet (first ++ second) := by
  intro action listed
  rcases List.mem_append.mp listed with early | late
  · exact quiet action early
  · exact quiet' action late

theorem quiet_reads (reads : List Bool) : Quiet (reads.map SdCardAction.cardRead) := by
  intro action listed
  obtain ⟨present, _, rfl⟩ := List.mem_map.mp listed
  rfl

theorem quiet_event (name : Option Bytes) : Quiet [.event name] := by
  intro action listed
  rw [List.mem_singleton.mp listed]
  rfl

namespace SdProgress

variable {s t : SdCardTest δ}

/-! The invariant in a state of each kind. -/

theorem of_waiting (state : s.state.isWaiting = true ∨ s.state = .initializing)
    (history : SoundHistory s.actions) (block : s.currentBlock = 0)
    (quiet : Quiet (currentRun s.actions)) (healthy : failureEmitted ∉ currentRun s.actions) :
    SdProgress s where
  history := history
  waiting _ := ⟨block, quiet⟩
  working operation same := by
    rw [same] at state
    cases operation <;> rcases state with state | state <;> cases state
  complete same := by
    rw [same] at state
    rcases state with state | state <;> cases state
  failing listed := absurd listed healthy

theorem of_working (operation : BlockOperation) (state : s.state = operation.state)
    (history : SoundHistory s.actions) (inside : s.currentBlock < sdCardTestBlockCount)
    {waiting : List SdCardAction} (quiet : Quiet waiting)
    (covered : currentRun s.actions =
      waiting ++ (operation.earlier ++ performed operation s.currentBlock.toNat))
    (healthy : failureEmitted ∉ currentRun s.actions) : SdProgress s where
  history := history
  waiting other := by
    rw [state] at other
    cases operation <;> rcases other with other | other <;> cases other
  working other same := by
    obtain rfl : operation = other := by
      rw [state] at same
      cases operation <;> cases other <;> first | rfl | cases same
    exact ⟨inside, waiting, quiet, covered⟩
  complete same := by
    rw [state] at same
    cases operation <;> cases same
  failing listed := absurd listed healthy

theorem of_complete (state : s.state = .complete) (history : SoundHistory s.actions)
    (covers : CoversArea s.actions) (healthy : failureEmitted ∉ currentRun s.actions) :
    SdProgress s where
  history := history
  waiting other := by
    rw [state] at other
    rcases other with other | other <;> cases other
  working operation same := by
    rw [state] at same
    cases operation <;> cases same
  complete _ := covers
  failing listed := absurd listed healthy

theorem of_failed (state : s.state = .failed) (history : SoundHistory s.actions) :
    SdProgress s where
  history := history
  waiting other := by
    rw [state] at other
    rcases other with other | other <;> cases other
  working operation same := by
    rw [state] at same
    cases operation <;> cases same
  complete same := by
    rw [state] at same
    cases same
  failing _ := state

/-- A state that has not failed has no failure in its run. -/
theorem healthy (progress : SdProgress s) (state : s.state ≠ .failed) :
    failureEmitted ∉ currentRun s.actions :=
  fun listed => state (progress.failing listed)

/-- A call goes on with the run. -/
theorem record_call (progress : SdProgress s) (state : s.state ≠ .failed) {call : SdCardAction}
    (called : call.isCall = true)
    (inside : ∀ operation block ok, call = .block operation block ok →
      block < sdCardTestBlockCount)
    (actions : t.actions = s.actions ++ [.cardRead true, call]) :
    SoundHistory t.actions ∧ currentRun t.actions = currentRun s.actions ++ [.cardRead true, call] ∧
      failureEmitted ∉ currentRun t.actions := by
  have healthy := progress.healthy state
  have run : currentRun t.actions = currentRun s.actions ++ [.cardRead true, call] := by
    rw [actions, currentRun_call _ called]
  refine ⟨actions ▸ progress.history.append_call inside healthy, run, fun listed => ?_⟩
  rw [run] at listed
  rcases List.mem_append.mp listed with early | late
  · exact healthy early
  · rcases List.mem_cons.mp late with same | last
    · cases same
    · rw [← List.mem_singleton.mp last] at called
      cases called

/-- Readings of the switch go on with the run. -/
theorem record_reads (progress : SdProgress s) (state : s.state ≠ .failed) {reads : List Bool}
    (actions : t.actions = s.actions ++ reads.map .cardRead) :
    SoundHistory t.actions ∧ currentRun t.actions = currentRun s.actions ++ reads.map .cardRead ∧
      failureEmitted ∉ currentRun t.actions := by
  have run : currentRun t.actions = currentRun s.actions ++ reads.map .cardRead := by
    rw [actions, currentRun_reads]
  refine ⟨actions ▸ progress.history.append_reads reads, run, fun listed => ?_⟩
  rw [run] at listed
  rcases List.mem_append.mp listed with early | late
  · exact progress.healthy state early
  · obtain ⟨_, _, same⟩ := List.mem_map.mp late
    cases same

/-- An event goes on with the run. -/
theorem emit_event {name : String} (history : SoundHistory t.actions)
    (healthy : failureEmitted ∉ currentRun t.actions)
    (named : t.latestEvent.name = some (ascii name))
    (other : ascii name ≠ ascii "component_failure") :
    SoundHistory (t.emit .event).actions ∧
      currentRun (t.emit .event).actions =
        currentRun t.actions ++ [.event (some (ascii name))] ∧
      failureEmitted ∉ currentRun (t.emit .event).actions := by
  have actions : (t.emit .event).actions = t.actions ++ [.event (some (ascii name))] := by
    rw [← named]
    rfl
  have run := currentRun_event t.actions (some (ascii name))
  rw [actions]
  refine ⟨history.snoc_quiet rfl, run, fun listed => ?_⟩
  rw [run] at listed
  rcases List.mem_append.mp listed with early | late
  · exact healthy early
  · have same : failureEmitted = .event (some (ascii name)) := List.mem_singleton.mp late
    rw [failureEmitted, SdCardAction.event.injEq, Option.some.injEq] at same
    exact other same.symm

theorem operation_ne_failed (operation : BlockOperation) : operation.state ≠ .failed := by
  cases operation <;> exact SdCardTestState.noConfusion

/-- The block after one of the first blocks. -/
theorem toNat_add_one {block : UInt32} (inside : block < sdCardTestBlockCount) :
    (block + 1).toNat = block.toNat + 1 := by
  have small : block.toNat < 8 := inside
  have one : (1 : UInt32).toNat = 1 := rfl
  rw [UInt32.toNat_add, one]
  omega

/-- The last block. -/
theorem eq_last {block : UInt32} (inside : block < sdCardTestBlockCount)
    (last : ¬block + 1 < sdCardTestBlockCount) :
    block.toNat + 1 = sdCardTestBlockCount.toNat := by
  have above : sdCardTestBlockCount.toNat ≤ (block + 1).toNat :=
    Nat.not_lt.mp fun below => last below
  have small : block.toNat < sdCardTestBlockCount.toNat := inside
  rw [toNat_add_one inside] at above
  omega

/-- An event of a failure ends the run. -/
theorem emit_failure (state : t.state = .failed) (history : SoundHistory t.actions) :
    SdProgress (t.emit .event) :=
  of_failed (s := t.emit .event) state (history.snoc_quiet rfl)

theorem waiting_ne_failed (state : s.state.isWaiting = true) : s.state ≠ .failed := by
  intro failed
  rw [failed] at state
  cases state

/-- A call that is to be made, and its state. -/
theorem pending_spec {calls : SdCardDriverCalls δ} {call : Fallible δ Unit}
    {action : Bool → SdCardAction} (progress : SdProgress s)
    (pending : PendingCall calls s call action) :
    s.state ≠ .failed ∧ ∀ ok, (action ok).isCall = true ∧
      ∀ operation block ok', action ok = .block operation block ok' →
        block < sdCardTestBlockCount := by
  cases pending with
  | initialization state =>
      refine ⟨fun failed => ?_, fun ok => ⟨rfl, fun _ _ _ same => SdCardAction.noConfusion same⟩⟩
      rw [state] at failed
      cases failed
  | block operation state =>
      refine ⟨state ▸ operation_ne_failed operation, fun ok => ⟨rfl, ?_⟩⟩
      rintro _ _ _ ⟨⟩
      exact (progress.working operation state).1

/-- The first block of the next phase, or the end. -/
theorem next_phase (operation : BlockOperation) {waiting : List SdCardAction} (quiet : Quiet waiting)
    (state : t.state = operation.next) (block : t.state ≠ .complete → t.currentBlock = 0)
    (history : SoundHistory t.actions) (healthy : failureEmitted ∉ currentRun t.actions)
    (covered : currentRun t.actions = waiting ++ (operation.earlier ++ operation.phase)) :
    SdProgress t := by
  cases operation with
  | write =>
      have first : t.currentBlock = 0 := block (by rw [state]; exact SdCardTestState.noConfusion)
      refine of_working .verify state history (by rw [first]; decide) quiet ?_ healthy
      rw [covered, first]
      exact congrArg _ (List.append_nil _).symm
  | verify =>
      have first : t.currentBlock = 0 := block (by rw [state]; exact SdCardTestState.noConfusion)
      refine of_working .clear state history (by rw [first]; decide) quiet ?_ healthy
      rw [covered, first]
      exact congrArg _ (List.append_nil _).symm
  | clear => exact of_complete state history ⟨waiting, quiet, covered⟩ healthy

/-- **An update keeps the invariant.** -/
theorem process {calls : SdCardDriverCalls δ} {result : ComponentTestProcessResult}
    (progress : SdProgress s) (processed : Processed calls s t result) :
    SdProgress (t.emit result) := by
  cases processed with
  | waits reads before state block driver actions =>
      obtain ⟨first, quiet⟩ := progress.waiting (.inl before)
      obtain ⟨history, run, healthy⟩ := progress.record_reads (waiting_ne_failed before) actions
      exact of_waiting (s := t) (.inl (state ▸ before)) history (block.trans first)
        (run ▸ quiet.append (quiet_reads reads)) healthy
  | @announces name reads before state block driver listed event actions =>
      obtain ⟨first, quiet⟩ := progress.waiting (.inl before)
      obtain ⟨history, run, healthy⟩ := progress.record_reads (waiting_ne_failed before) actions
      have others : ∀ name ∈ sdMessages, ascii name ≠ ascii "component_failure" := by decide
      obtain ⟨history', run', healthy'⟩ :=
        emit_event history healthy (by rw [event]; rfl) (others name listed)
      refine of_waiting (s := t.emit .event) state history' (block.trans first) ?_ healthy'
      rw [run', run]
      exact (quiet.append (quiet_reads reads)).append (quiet_event _)
  | removed pending state driver listed event actions =>
      obtain ⟨state', _⟩ := pending_spec progress pending
      have reads : t.actions = s.actions ++ [false].map .cardRead := actions
      exact emit_failure state (progress.record_reads state' reads).1
  | callFails pending called state event actions =>
      obtain ⟨state', made⟩ := pending_spec progress pending
      exact emit_failure state
        (progress.record_call state' (made false).1 (made false).2 actions).1
  | initialized before called state block event actions =>
      obtain ⟨first, quiet⟩ := progress.waiting (.inr before)
      have going : s.state ≠ .failed := by
        rw [before]
        exact SdCardTestState.noConfusion
      obtain ⟨history, run, healthy⟩ := progress.record_call going rfl
        (fun _ _ _ same => SdCardAction.noConfusion same) actions
      obtain ⟨history', run', healthy'⟩ :=
        emit_event history healthy (by rw [event]; rfl) (by decide)
      have start : t.currentBlock = 0 := block.trans first
      refine of_working (s := t.emit .event) .write state history' ?_ quiet ?_ healthy'
      · show t.currentBlock < _
        rw [start]
        decide
      · show currentRun (t.emit .event).actions =
          currentRun s.actions ++ (afterInitialization ++ performed .write t.currentBlock.toNat)
        rw [run', run, start, List.append_assoc]
        rfl
  | blockDone operation before called more state block actions =>
      obtain ⟨inside, waiting, quiet, covered⟩ := progress.working operation before
      obtain ⟨history, run, healthy⟩ := progress.record_call
        (before ▸ operation_ne_failed operation) rfl
        (by rintro _ _ _ ⟨⟩; exact inside) actions
      refine of_working (s := t) operation (state.trans before) history (block ▸ more) quiet ?_
        healthy
      rw [run, covered, block, toNat_add_one inside, performed_succ, UInt32.ofNat_toNat]
      simp only [List.append_assoc]
  | phaseDone operation before called last state block event actions =>
      obtain ⟨inside, waiting, quiet, covered⟩ := progress.working operation before
      obtain ⟨history, run, healthy⟩ := progress.record_call
        (before ▸ operation_ne_failed operation) rfl
        (by rintro _ _ _ ⟨⟩; exact inside) actions
      obtain ⟨history', run', healthy'⟩ := emit_event history healthy (by rw [event]; rfl)
        (by cases operation <;> decide : ascii operation.event ≠ ascii "component_failure")
      refine next_phase (t := t.emit .event) operation quiet state block history' healthy' ?_
      rw [run', run, covered, BlockOperation.phase, ← eq_last inside last, performed_succ,
        UInt32.ofNat_toNat]
      simp only [List.append_assoc]
  | passed state same =>
      rw [same]
      exact progress
  | failed state same =>
      rw [same]
      exact progress

/-- **Every step keeps the invariant.** -/
theorem step {calls : SdCardDriverCalls δ} {call : SdCardTestCall} (progress : SdProgress s)
    (step : SdCardTestStep calls s call t) : SdProgress t := by
  cases step with
  | start returned =>
      obtain ⟨state, block, _, present, actions⟩ := sdCardTestStart_returns returned
      have run : currentRun t.actions = [.cardRead present] := by
        rw [actions, List.append_cons, currentRun_snoc, currentRun_snoc]
        rfl
      refine of_waiting (.inl state) ?_ block (run ▸ quiet_reads [present]) ?_
      · rw [actions, List.append_cons]
        exact (progress.history.snoc_quiet rfl).snoc_quiet rfl
      · rw [run]
        exact fun listed => SdCardAction.noConfusion (List.mem_singleton.mp listed)
  | process returned => exact progress.process (sdCardTestProcess_returns returned)
  | stop returned =>
      obtain ⟨_, driver, _, rfl⟩ := sdCardTestStop_returns returned
      have run : currentRun (s.actions ++ [.shutdown]) = currentRun s.actions :=
        currentRun_snoc s.actions .shutdown
      refine ⟨progress.history.snoc_quiet rfl, fun state => ?_, fun operation state => ?_,
        fun state => ?_, fun listed => progress.failing (run ▸ listed)⟩
      · exact (progress.waiting state).imp_right (run ▸ ·)
      · exact (progress.working operation state).imp_right (run ▸ ·)
      · obtain ⟨waiting, quiet, covered⟩ := progress.complete state
        exact ⟨waiting, quiet, run.trans covered⟩

/-- The invariant holds after a reset. -/
theorem initial (driver : δ) (ticks : List UInt32) (cardReads : List Bool) :
    SdProgress (.initial driver ticks cardReads) :=
  of_waiting (.inl rfl) .nil rfl (fun _ listed => absurd listed List.not_mem_nil)
    List.not_mem_nil

end SdProgress

/-! ## The verdict -/

/-- **The verdict of the SD card test is sound.** In every run of starts, updates and
stops, with any driver: the test passes only if, since the last start or else the reset,
it has covered the test area, with no calls in between but shutdowns; each call is made
immediately after the card was read as present; every block is one of the eight; and
after a failure the driver is not called any more, and the result is failed, until the
next start. -/
theorem sd_card_verdict {calls : SdCardDriverCalls δ} {driver : δ} {ticks : List UInt32}
    {cardReads : List Bool} {labels : List SdCardTestCall} {s : SdCardTest δ}
    (run : Run (SdCardTestStep calls) (.initial driver ticks cardReads) labels s) :
    (∀ t, sdCardTestProcess calls s = some (.passed, t) → CoversArea s.actions) ∧
      (∀ before call after, s.actions = before ++ call :: after → call.isCall = true →
        ∃ earlier, before = earlier ++ [.cardRead true]) ∧
      (∀ operation block ok, .block operation block ok ∈ s.actions →
        block < sdCardTestBlockCount) ∧
      ∀ before after, s.actions = before ++ failureEmitted :: after → .start ∉ after →
        Quiet after ∧ ∀ result t, sdCardTestProcess calls s = some (result, t) →
          result = .failed := by
  have progress : SdProgress s :=
    run.invariant (I := SdProgress) (fun _ _ _ before step => before.step step)
      (.initial driver ticks cardReads)
  refine ⟨fun t returned => ?_, progress.history.present, progress.history.inside, ?_⟩
  · cases sdCardTestProcess_returns returned with
    | passed state _ => exact progress.complete state
  · intro before after split same
    refine ⟨progress.history.silent before after split same, fun result t returned => ?_⟩
    have state : s.state = .failed := progress.failing (split ▸ mem_currentRun same)
    rw [sdCardTestProcess, ComponentCall.get_bind, state] at returned
    exact (ComponentCall.pure_eq_some returned).1

/-! ## Performing calls -/

/-- Perform a call, if it has the given result. -/
def performCall (calls : SdCardDriverCalls δ) (s : SdCardTest δ) :
    SdCardTestCall → Option (SdCardTest δ)
  | .start => (sdCardTestStart calls ⟨false, 0, 0, 0⟩ s).map Prod.snd
  | .process result =>
      (sdCardTestProcess calls s).bind fun returned =>
        if returned.1 = result then some (returned.2.emit result) else none
  | .stop => (sdCardTestStop calls s).map Prod.snd

theorem step_of_performCall {calls : SdCardDriverCalls δ} {s t : SdCardTest δ}
    {call : SdCardTestCall} (performed : performCall calls s call = some t) :
    SdCardTestStep calls s call t := by
  cases call with
  | start =>
      obtain ⟨returned, started, rfl⟩ := Option.map_eq_some_iff.mp performed
      exact .start started
  | process result =>
      obtain ⟨returned, processed, same⟩ := Option.bind_eq_some_iff.mp performed
      split_ifs at same with result
      obtain rfl := Option.some.inj same
      subst result
      exact .process processed
  | stop =>
      obtain ⟨returned, stopped, rfl⟩ := Option.map_eq_some_iff.mp performed
      exact .stop stopped

/-- Calls that can be performed one after the other are a run. -/
theorem run_of_performed {calls : SdCardDriverCalls δ} {labels : List SdCardTestCall}
    {s t : SdCardTest δ} (performed : labels.foldlM (performCall calls) s = some t) :
    Run (SdCardTestStep calls) s labels t :=
  .of_performed (fun _ _ _ => step_of_performCall) performed

/-- A driver that always succeeds. -/
def workingDriver : SdCardDriverCalls Unit where
  initializeCard := pure ()
  block _ _ := pure ()
  shutdown := pure ()
  information _ := ⟨1024, 1008, 0, true⟩
  lastFailure _ := ⟨none, none, 0⟩
  clearInformation := id

/-- The calls of a phase. -/
def phaseCalls : List SdCardTestCall := List.replicate 7 (.process .running) ++ [.process .event]

/-- The calls from a start to the initialization. -/
def callsToWriting : List SdCardTestCall :=
  [.start, .process .event, .process .running, .process .running, .process .event,
    .process .event]

/-- The test in front of this driver: there is no card at first, and then there is one. -/
def cardInsertedLater : SdCardTest Unit :=
  .initial () [0, 0, 20, 40] (false :: List.replicate 28 true)

set_option maxRecDepth 4000 in
/-- A run that passes. -/
theorem sd_card_verdict_passed : ∃ labels s,
    Run (SdCardTestStep workingDriver) cardInsertedLater labels s ∧
      sdCardTestProcess workingDriver s = some (.passed, s) ∧ CoversArea s.actions := by
  have passes : ((callsToWriting ++ phaseCalls ++ phaseCalls ++ phaseCalls).foldlM
      (performCall workingDriver) cardInsertedLater).map SdCardTest.state = some .complete := by
    decide +kernel
  obtain ⟨s, performed, state⟩ := Option.map_eq_some_iff.mp passes
  have run := run_of_performed performed
  have passed : sdCardTestProcess workingDriver s = some (.passed, s) := by
    rw [sdCardTestProcess, ComponentCall.get_bind, state]
    rfl
  exact ⟨_, s, run, passed, (sd_card_verdict run).1 s passed⟩

/-- The calls of a run that is stopped after the first block, and goes on. -/
def interruptedCalls : List SdCardTestCall :=
  callsToWriting ++ [.process .running, .stop] ++ phaseCalls.tail ++ phaseCalls ++ phaseCalls

set_option maxRecDepth 4000 in
/-- A stop after the first block, which shuts the driver down, does not keep the test from
passing. -/
theorem passed_after_shutdown : ∃ labels s before after,
    Run (SdCardTestStep workingDriver) cardInsertedLater labels s ∧
      sdCardTestProcess workingDriver s = some (.passed, s) ∧
      s.actions = before ++ ([.block .write 0 true, .shutdown, .cardRead true,
        .block .write 1 true] ++ after) ∧ .start ∉ after := by
  have passes : (interruptedCalls.foldlM (performCall workingDriver) cardInsertedLater).map
      (fun s => (s.state, (s.actions.drop 11).take 4, decide (.start ∈ s.actions.drop 15))) =
      some (.complete, [.block .write 0 true, .shutdown, .cardRead true, .block .write 1 true],
        false) := by
    decide +kernel
  obtain ⟨s, performed, same⟩ := Option.map_eq_some_iff.mp passes
  obtain ⟨state, middle, once⟩ := Prod.mk.inj same |>.imp_right Prod.mk.inj
  refine ⟨_, s, s.actions.take 11, s.actions.drop 15, run_of_performed performed, ?_, ?_,
    of_decide_eq_false once⟩
  · rw [sdCardTestProcess, ComponentCall.get_bind, state]
    rfl
  · rw [← middle, ← List.drop_drop (i := 4) (j := 11), List.take_append_drop, List.take_append_drop]

end FlightComputer.Firmware
