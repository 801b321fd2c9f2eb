import FlightComputer.Firmware.SdCardVerdict
import FlightComputer.Library.Ticks

/-!
# Debouncing of the card-detect switch

What the SD card test does is observed with the times at which it reads the tick. For every
sequence of starts, updates and stops, whatever the switch reads, and at whatever times, the
card is initialized only after the socket has been seen empty since the last start, and then a
card three times in a row, at least 20 ms apart (`card_insertion_debounced`).
-/

set_option autoImplicit false

namespace FlightComputer.Firmware

open Library

variable {δ : Type}

/-! ## Observations -/

/-- An action of the test, with its call and the time of the tick that the call has read. -/
structure Observation where
  call : SdCardTestCall
  time : Option Nat
  action : SdCardAction
  deriving DecidableEq

/-- The test, the times at which ticks will be read, and what has been observed. -/
structure TimedTest (δ : Type) where
  test : SdCardTest δ
  times : List Nat
  log : List Observation

/-- The ticks that have been read from one state of the test to another. -/
def ticksRead (s t : SdCardTest δ) : Nat := s.ticks.length - t.ticks.length

/-- A call of the test is observed. -/
def TimedTest.observe (s : TimedTest δ) (call : SdCardTestCall) (t : SdCardTest δ) :
    TimedTest δ where
  test := t
  times := s.times.drop (ticksRead s.test t)
  log := s.log ++ (t.actions.drop s.test.actions.length).map fun action =>
    ⟨call, (s.times.take (ticksRead s.test t)).head?, action⟩

/-- The calls of the test, in any order, and observed. -/
def TimedStep (calls : SdCardDriverCalls δ) (s : TimedTest δ) (call : SdCardTestCall)
    (t : TimedTest δ) : Prop :=
  ∃ test, SdCardTestStep calls s.test call test ∧ t = s.observe call test

/-- The test after a reset, before ticks at given times. -/
def TimedTest.initial (driver : δ) (times : List Nat) (cardReads : List Bool) : TimedTest δ where
  test := .initial driver (times.map tickAt) cardReads
  times := times
  log := []

/-- One observation more. -/
def nextObserved (log : List Observation) (observed : Observation) : List Observation :=
  if observed.action = .start then [observed] else log ++ [observed]

/-- What has been observed since the last start, or since the reset. -/
def sinceStart (log : List Observation) : List Observation := log.foldl nextObserved []

/-- A poll of the switch: its time, and whether a card was present. -/
abbrev CardPoll : Type := Nat × Bool

/-- The poll that an update has made, once it was due. -/
def cardPoll : Observation → Option CardPoll
  | ⟨.process _, some time, .cardRead present⟩ => some (time, present)
  | _ => none

/-- The polls among what has been observed. -/
def cardPolls (log : List Observation) : List CardPoll := log.filterMap cardPoll

/-- The start has read the socket as empty. -/
def StartedEmpty (log : List Observation) : Prop :=
  ∃ time, ⟨.start, time, .cardRead false⟩ ∈ log

/-! ## Stable readings -/

/-- The last polls have all read the same. -/
def LastPolls (present : Bool) (count : Nat) (polls : List CardPoll) : Prop :=
  ∃ earlier last, polls = earlier ++ last ∧ last.length = count ∧ ∀ poll ∈ last, poll.2 = present

/-- Polls that are at least 20 ms apart. -/
def PollsApart (polls : List CardPoll) : Prop :=
  polls.Pairwise fun earlier later => earlier.1 + sdCardPollIntervalMs.toNat ≤ later.1

/-- The socket has been seen empty: by the start, or else by three polls in a row. -/
def SeenEmpty (startedEmpty : Prop) (polls : List CardPoll) : Prop :=
  startedEmpty ∨ LastPolls false sdCardStablePolls.toNat polls

/-- **A card has been inserted**: the socket has been seen empty, and then three polls in a row
have read a card. -/
def InsertionSeen (startedEmpty : Prop) (polls : List CardPoll) : Prop :=
  ∃ emptied inserted, polls = emptied ++ inserted ∧ SeenEmpty startedEmpty emptied ∧
    LastPolls true sdCardStablePolls.toNat inserted

/-- **The card has been debounced** since the last start. -/
structure Debounced (log : List Observation) : Prop where
  inserted : InsertionSeen (StartedEmpty (sinceStart log)) (cardPolls (sinceStart log))
  apart : PollsApart (cardPolls (sinceStart log))

theorem LastPolls.zero (present : Bool) (polls : List CardPoll) : LastPolls present 0 polls :=
  ⟨polls, [], (List.append_nil polls).symm, rfl, fun _ listed => absurd listed List.not_mem_nil⟩

/-- One poll more that reads the same. -/
theorem LastPolls.snoc {present : Bool} {count : Nat} {polls : List CardPoll}
    (last : LastPolls present count polls) (now : Nat) :
    LastPolls present (count + 1) (polls ++ [(now, present)]) := by
  obtain ⟨earlier, last, rfl, counted, same⟩ := last
  refine ⟨earlier, last ++ [(now, present)], List.append_assoc .., ?_, ?_⟩
  · rw [List.length_append, counted]
    rfl
  · intro poll listed
    rcases List.mem_append.mp listed with before | this
    · exact same poll before
    · rw [List.mem_singleton.mp this]

/-! ## Logs -/

theorem sinceStart_snoc (log : List Observation) (observed : Observation) :
    sinceStart (log ++ [observed]) = nextObserved (sinceStart log) observed :=
  List.foldl_append ..

/-- What is no start goes on with what has been observed. -/
theorem sinceStart_append (log : List Observation) {added : List Observation}
    (going : ∀ observed ∈ added, observed.action ≠ .start) :
    sinceStart (log ++ added) = sinceStart log ++ added := by
  induction added using List.reverseRecOn with
  | nil => rw [List.append_nil, List.append_nil]
  | append_singleton added last ih =>
      have earlier := ih fun observed listed => going observed (List.mem_append_left _ listed)
      have goes := going last (List.mem_append_right _ (List.mem_singleton_self _))
      rw [← List.append_assoc, sinceStart_snoc, earlier, nextObserved, if_neg goes,
        List.append_assoc]

/-- An observation that belongs to no start and is no poll. -/
structure Unpolled (observed : Observation) : Prop where
  call : observed.call ≠ .start
  action : observed.action ≠ .start
  poll : cardPoll observed = none

theorem cardPolls_append (log : List Observation) {added : List Observation}
    (unpolled : ∀ observed ∈ added, Unpolled observed) :
    cardPolls (sinceStart (log ++ added)) = cardPolls (sinceStart log) := by
  rw [sinceStart_append log fun observed listed => (unpolled observed listed).action, cardPolls,
    List.filterMap_append, List.filterMap_eq_nil_iff.mpr fun observed listed =>
      (unpolled observed listed).poll, List.append_nil]
  rfl

theorem startedEmpty_append (log : List Observation) {added : List Observation}
    (later : ∀ observed ∈ added, observed.call ≠ .start ∧ observed.action ≠ .start) :
    StartedEmpty (sinceStart (log ++ added)) ↔ StartedEmpty (sinceStart log) := by
  rw [sinceStart_append log fun observed listed => (later observed listed).2]
  constructor
  · rintro ⟨time, listed⟩
    rcases List.mem_append.mp listed with before | this
    · exact ⟨time, before⟩
    · exact absurd rfl (later _ this).1
  · rintro ⟨time, listed⟩
    exact ⟨time, List.mem_append_left _ listed⟩

/-- What has been debounced remains so. -/
theorem Debounced.append {log added : List Observation} (debounced : Debounced log)
    (unpolled : ∀ observed ∈ added, Unpolled observed) : Debounced (log ++ added) := by
  obtain ⟨inserted, apart⟩ := debounced
  have started := startedEmpty_append log fun observed listed =>
    ⟨(unpolled observed listed).call, (unpolled observed listed).action⟩
  refine ⟨?_, ?_⟩
  · rw [cardPolls_append log unpolled, propext started]
    exact inserted
  · rw [cardPolls_append log unpolled]
    exact apart

/-! ## The invariant -/

/-- Polls in a row have read what is waited for: an empty socket, or a card after the socket has
been seen empty. -/
def ReadInARow (startedEmpty : Prop) (count : Nat) (polls : List CardPoll) : Bool → Prop
  | false => LastPolls false count polls
  | true => ∃ emptied inserted, polls = emptied ++ inserted ∧ SeenEmpty startedEmpty emptied ∧
      LastPolls true count inserted

/-- One poll more. -/
theorem ReadInARow.read {startedEmpty : Prop} {count : Nat} {polls : List CardPoll}
    {inserted : Bool} (inARow : ReadInARow startedEmpty count polls inserted) (now : Nat) (present : Bool) :
    ReadInARow startedEmpty (if present = inserted then count + 1 else 0)
      (polls ++ [(now, present)]) inserted := by
  split_ifs with same
  · subst same
    cases present with
    | false => exact LastPolls.snoc inARow now
    | true =>
        obtain ⟨emptied, inserted, rfl, seen, last⟩ := inARow
        exact ⟨emptied, inserted ++ [(now, true)], List.append_assoc .., seen, last.snoc now⟩
  · cases inserted with
    | false => exact LastPolls.zero false _
    | true =>
        obtain ⟨emptied, inserted, rfl, seen, _⟩ := inARow
        exact ⟨emptied, inserted ++ [(now, present)], List.append_assoc .., seen, .zero true _⟩

/-- The state in which the card is waited for. -/
def awaiting : Bool → SdCardTestState
  | false => .waitingForRemoval
  | true => .waitingForInsertion

/-- What the readings so far allow in each state. -/
def DebouncePhase (matchingPolls : UInt8) (startedEmpty : Prop) (polls : List CardPoll) :
    SdCardTestState → Prop
  | .announceRemoval => matchingPolls = 0
  | .waitingForRemoval =>
      matchingPolls < sdCardStablePolls ∧ ReadInARow startedEmpty matchingPolls.toNat polls false
  | .announceInsertion => matchingPolls = 0 ∧ SeenEmpty startedEmpty polls
  | .waitingForInsertion =>
      matchingPolls < sdCardStablePolls ∧ ReadInARow startedEmpty matchingPolls.toNat polls true
  | .initializing => InsertionSeen startedEmpty polls
  | _ => True

/-- The initialization of the card. -/
def SdCardAction.isInitialization : SdCardAction → Bool
  | .initialization _ => true
  | _ => false

/-- Each initialization of the card came after it had been debounced. -/
def InitializedDebounced (log : List Observation) : Prop :=
  ∀ before observed after, log = before ++ observed :: after →
    observed.action.isInitialization = true → Debounced before

/-- **The invariant of the debouncing.** -/
structure Debouncing (s : TimedTest δ) : Prop where
  ticks : s.test.ticks = s.times.map tickAt
  ordered : s.times.Pairwise (· ≤ ·)
  apart : PollsApart (cardPolls (sinceStart s.log))
  onward : ∀ poll ∈ cardPolls (sinceStart s.log), ∀ time ∈ s.times, poll.1 ≤ time
  deadline : s.test.state.isWaiting = true → ∀ poll ∈ (cardPolls (sinceStart s.log)).getLast?,
    s.test.nextPollAt = tickAt (poll.1 + sdCardPollIntervalMs.toNat)
  phase : DebouncePhase s.test.matchingPolls (StartedEmpty (sinceStart s.log))
    (cardPolls (sinceStart s.log)) s.test.state
  past : InitializedDebounced s.log

theorem debouncePhase_of_inserted {matchingPolls : UInt8} {startedEmpty : Prop}
    {polls : List CardPoll} {state : SdCardTestState} (past : state.isWaiting = false)
    (done : state ≠ .initializing) : DebouncePhase matchingPolls startedEmpty polls state := by
  cases state with
  | announceRemoval | waitingForRemoval | announceInsertion | waitingForInsertion =>
      exact absurd past Bool.noConfusion
  | initializing => exact absurd rfl done
  | writing | verifying | cleaningUp | complete | failed => exact True.intro

theorem InitializedDebounced.append {log added : List Observation}
    (past : InitializedDebounced log)
    (new : ∀ before observed after, added = before ++ observed :: after →
      observed.action.isInitialization = true → Debounced (log ++ before)) :
    InitializedDebounced (log ++ added) := by
  intro before observed after split initialized
  rcases List.append_eq_append_iff.mp split with ⟨more, rfl, rest⟩ | ⟨more, whole, rest⟩
  · exact new more observed after rest initialized
  · cases more with
    | nil =>
        rw [List.append_nil] at whole
        have first := new [] observed after rest.symm initialized
        rw [List.append_nil, whole] at first
        exact first
    | cons first others =>
        obtain ⟨rfl, _⟩ := List.cons.inj rest
        exact past before observed others whole initialized

/-- Polls that go on being apart. -/
theorem PollsApart.snoc {polls : List CardPoll} (apart : PollsApart polls) {now : Nat}
    (last : ∀ poll ∈ polls.getLast?, poll.1 + sdCardPollIntervalMs.toNat ≤ now) (present : Bool) :
    PollsApart (polls ++ [(now, present)]) := by
  refine List.pairwise_append.mpr ⟨apart, List.pairwise_singleton _ _, ?_⟩
  intro poll listed other this
  rw [List.mem_singleton.mp this]
  rcases List.eq_nil_or_concat polls with rfl | ⟨earlier, newest, rfl⟩
  · exact absurd listed List.not_mem_nil
  · rw [List.concat_eq_append] at listed apart last
    have due := last newest List.getLast?_concat
    rcases List.mem_append.mp listed with before | ends
    · have spaced := (List.pairwise_append.mp apart).2.2 poll before newest
        (List.mem_singleton_self _)
      show poll.1 + sdCardPollIntervalMs.toNat ≤ now
      omega
    · rw [List.mem_singleton.mp ends]
      exact due

/-! ## Steps -/

variable {s : TimedTest δ} {t : SdCardTest δ} {call : SdCardTestCall}

/-- A call that reads no tick. -/
theorem observe_same (new : List SdCardAction) (ticks : t.ticks = s.test.ticks)
    (actions : t.actions = s.test.actions ++ new) :
    s.observe call t = ⟨t, s.times, s.log ++ new.map fun action => ⟨call, none, action⟩⟩ := by
  have none_read : ticksRead s.test t = 0 := by rw [ticksRead, ticks, Nat.sub_self]
  rw [TimedTest.observe, none_read, actions, List.drop_left]
  rfl

/-- A call that reads a tick. -/
theorem observe_tick (new : List SdCardAction) {now : Nat} {times : List Nat}
    (ticks : s.test.ticks = s.times.map tickAt) (head : s.times = now :: times) (rest : t.ticks = times.map tickAt)
    (actions : t.actions = s.test.actions ++ new) :
    s.observe call t = ⟨t, times, s.log ++ new.map fun action => ⟨call, some now, action⟩⟩ := by
  have one_read : ticksRead s.test t = 1 := by
    rw [ticksRead, ticks, rest, head, List.length_map, List.length_map, List.length_cons]
    exact Nat.add_sub_cancel_left _ _
  rw [TimedTest.observe, one_read, actions, List.drop_left, head]
  rfl

theorem toNat_counted {count matchingPolls : UInt8} (few : count < sdCardStablePolls)
    {same : Prop} [Decidable same] (counted : matchingPolls = if same then count + 1 else 0) :
    matchingPolls.toNat = if same then count.toNat + 1 else 0 := by
  have below : count.toNat < 3 := few
  have one : (1 : UInt8).toNat = 1 := rfl
  rw [counted]
  split_ifs
  · rw [UInt8.toNat_add]
    exact Nat.mod_eq_of_lt (by omega)
  · rfl

/-- A count that has reached the number of stable polls is this number. -/
theorem counted_stable {count matchingPolls : UInt8} (few : count < sdCardStablePolls)
    {same : Prop} [Decidable same] (counted : matchingPolls = if same then count + 1 else 0)
    (stable : sdCardStablePolls ≤ matchingPolls) : matchingPolls = sdCardStablePolls := by
  have below : count.toNat < 3 := few
  have above : 3 ≤ matchingPolls.toNat := stable
  have value := toNat_counted few counted
  apply UInt8.toNat.inj
  show matchingPolls.toNat = 3
  split_ifs at value <;> omega

theorem sdTestTick_reads {s t : SdCardTest δ} {now : UInt32}
    (returned : sdTestTick s = some (now, t)) :
    ∃ later, s.ticks = now :: later ∧ t = { s with ticks := later } := by
  rw [sdTestTick] at returned
  cases held : s.ticks with
  | nil =>
      rw [held] at returned
      exact absurd returned.symm (Option.some_ne_none _)
  | cons answer later =>
      rw [held] at returned
      obtain ⟨rfl, rfl⟩ := Prod.mk.inj (Option.some.inj returned)
      exact ⟨later, rfl, rfl⟩

/-- The test after a poll. -/
def SdCardTest.pollSwitch (s : SdCardTest δ) (now : UInt32) (later : List UInt32) (present : Bool)
    (cardReads : List Bool) (matchingPolls : UInt8) : SdCardTest δ :=
  { s with
    ticks := later
    nextPollAt := now + sdCardPollIntervalMs
    matchingPolls := matchingPolls
    cardReads := cardReads
    actions := s.actions ++ [.cardRead present] }

/-- **What a call of `stable_card_state` can do**: it is too early, or the switch is polled. -/
inductive PollsSwitch (inserted : Bool) (s : SdCardTest δ) : Bool → SdCardTest δ → Prop where
  | early {now : UInt32} {later : List UInt32} (ticks : s.ticks = now :: later)
      (early : (now - s.nextPollAt).toInt32 < 0) :
      PollsSwitch inserted s false { s with ticks := later }
  | reads {now : UInt32} {later : List UInt32} {present : Bool} {cardReads : List Bool}
      {matchingPolls : UInt8} (ticks : s.ticks = now :: later)
      (reached : ¬(now - s.nextPollAt).toInt32 < 0)
      (counted : matchingPolls = if present = inserted then s.matchingPolls + 1 else 0) :
      PollsSwitch inserted s (decide (sdCardStablePolls ≤ matchingPolls))
        (s.pollSwitch now later present cardReads matchingPolls)

/-- **`stable_card_state`** -/
theorem stableCardState_polls {inserted stable : Bool} {s t : SdCardTest δ}
    (returned : stableCardState inserted s = some (stable, t)) :
    PollsSwitch inserted s stable t := by
  obtain ⟨now, polled, ticked, rest⟩ := ComponentCall.bind_eq_some returned
  obtain ⟨later, ticks, rfl⟩ := sdTestTick_reads ticked
  rw [ComponentCall.get_bind] at rest
  split_ifs at rest with early
  · obtain ⟨rfl, rfl⟩ := ComponentCall.pure_eq_some rest
    exact .early ticks early
  · rw [ComponentCall.modify_bind] at rest
    obtain ⟨present, read, inserted', rest⟩ := ComponentCall.bind_eq_some rest
    obtain ⟨laterReads, rfl⟩ := sdCardInserted_returns inserted'
    rw [ComponentCall.modify_bind, ComponentCall.get_bind] at rest
    obtain ⟨rfl, rfl⟩ := ComponentCall.pure_eq_some rest
    exact .reads ticks early rfl

/-- **`sd_card_test_start`**, as far as the debouncing is concerned. -/
theorem startsAnew {calls : SdCardDriverCalls δ} {parameters : ComponentTestParameters} {u : Unit}
    {s t : SdCardTest δ} (returned : sdCardTestStart calls parameters s = some (u, t)) :
    ∃ now later present, s.ticks = now :: later ∧ t.ticks = later ∧ t.matchingPolls = 0 ∧
      t.state = (if present then .announceRemoval else .announceInsertion) ∧
      t.actions = s.actions ++ [.start, .cardRead present] := by
  rw [sdCardTestStart, ComponentCall.modify_bind, ComponentCall.modify_bind] at returned
  obtain ⟨now, ticked, tick, rest⟩ := ComponentCall.bind_eq_some returned
  obtain ⟨later, ticks, rfl⟩ := sdTestTick_reads tick
  rw [ComponentCall.modify_bind] at rest
  obtain ⟨present, read, inserted, rest⟩ := ComponentCall.bind_eq_some rest
  obtain ⟨laterReads, rfl⟩ := sdCardInserted_returns inserted
  obtain ⟨_, rfl⟩ := ComponentCall.pure_eq_some rest
  exact ⟨now, later, present, ticks, rfl, rfl, rfl, List.append_assoc ..⟩

/-- A call of the driver reads no tick, if what follows it reads none. -/
theorem callWithCard_ticks {calls : SdCardDriverCalls δ} {stage : String} {code : Int32}
    {call : Fallible δ Unit} {action : Bool → SdCardAction}
    {next : SdTestCall δ ComponentTestProcessResult} {result : ComponentTestProcessResult}
    {s t : SdCardTest δ}
    (kept : ∀ u : SdCardTest δ, next u = some (result, t) → t.ticks = u.ticks)
    (returned : callWithCard calls stage code call action next s = some (result, t)) :
    t.ticks = s.ticks := by
  obtain ⟨present, read, inserted, rest⟩ := ComponentCall.bind_eq_some returned
  obtain ⟨later, rfl⟩ := sdCardInserted_returns inserted
  cases present with
  | false =>
      obtain ⟨_, rfl⟩ := ComponentCall.pure_eq_some rest
      rfl
  | true =>
      obtain ⟨ok, after, called, rest⟩ := ComponentCall.bind_eq_some rest
      obtain ⟨⟨answer, driver⟩, _, same⟩ := Option.map_eq_some_iff.mp called
      obtain ⟨rfl, rfl⟩ := Prod.mk.inj same
      cases answer with
      | none =>
          obtain ⟨_, rfl⟩ := ComponentCall.pure_eq_some rest
          rfl
      | some _ =>
          exact kept { s with
            driver := driver
            cardReads := later
            actions := s.actions ++ [.cardRead true] ++ [action true] } rest

theorem blockPhase_ticks {calls : SdCardDriverCalls δ} {stage : String}
    {operation : BlockOperation} {next : SdCardTestState} {restart : UInt32 → UInt32}
    {name : String} {result : ComponentTestProcessResult} {s t : SdCardTest δ}
    (returned : blockPhase calls stage operation next restart name s = some (result, t)) :
    t.ticks = s.ticks := by
  rw [blockPhase, ComponentCall.get_bind] at returned
  refine callWithCard_ticks (fun u rest => ?_) returned
  rw [ComponentCall.modify_bind, ComponentCall.get_bind] at rest
  split_ifs at rest
  · obtain ⟨_, rfl⟩ := ComponentCall.pure_eq_some rest
    rfl
  · obtain ⟨_, rfl⟩ := ComponentCall.pure_eq_some rest
    rfl

/-- Once the card has been inserted, no tick is read. -/
theorem process_ticks {calls : SdCardDriverCalls δ} {result : ComponentTestProcessResult}
    {s t : SdCardTest δ} (inserted : s.state.isWaiting = false)
    (returned : sdCardTestProcess calls s = some (result, t)) : t.ticks = s.ticks := by
  rw [sdCardTestProcess, ComponentCall.get_bind] at returned
  cases state : s.state with
  | announceRemoval | waitingForRemoval | announceInsertion | waitingForInsertion =>
      rw [state] at inserted
      exact absurd inserted Bool.noConfusion
  | initializing =>
      rw [state] at returned
      refine callWithCard_ticks (fun u rest => ?_) returned
      obtain ⟨_, rfl⟩ := ComponentCall.pure_eq_some rest
      rfl
  | writing | verifying | cleaningUp =>
      rw [state] at returned
      exact blockPhase_ticks returned
  | complete | failed =>
      rw [state] at returned
      obtain ⟨_, rfl⟩ := ComponentCall.pure_eq_some returned
      rfl

/-- **Once the card has been inserted** it is not waited for any more, and it is initialized
at once or never. -/
theorem process_inserted {calls : SdCardDriverCalls δ} {result : ComponentTestProcessResult}
    {s t : SdCardTest δ} (inserted : s.state.isWaiting = false)
    (processed : Processed calls s t result) :
    (t.state.isWaiting = false ∧ t.state ≠ .initializing) ∧
      ∃ new, t.actions = s.actions ++ new ∧ ∀ action ∈ new, action ≠ .start ∧
        (action.isInitialization = true → s.state = .initializing) := by
  have read : ∀ present, SdCardAction.cardRead present ≠ .start ∧
      ((SdCardAction.cardRead present).isInitialization = true → s.state = .initializing) :=
    fun _ => ⟨SdCardAction.noConfusion, fun initialized => absurd initialized Bool.false_ne_true⟩
  cases processed with
  | waits reads before => exact absurd (inserted.symm.trans before) Bool.false_ne_true
  | announces reads before => exact absurd (inserted.symm.trans before) Bool.false_ne_true
  | removed pending state driver listed event actions =>
      refine ⟨by rw [state]; exact ⟨rfl, SdCardTestState.noConfusion⟩, _, actions, ?_⟩
      exact List.forall_mem_singleton.mpr (read false)
  | callFails pending called state event actions =>
      refine ⟨by rw [state]; exact ⟨rfl, SdCardTestState.noConfusion⟩, _, actions, ?_⟩
      refine List.forall_mem_cons.mpr ⟨read true, List.forall_mem_singleton.mpr ?_⟩
      cases pending with
      | initialization before => exact ⟨SdCardAction.noConfusion, fun _ => before⟩
      | block operation before =>
          exact ⟨SdCardAction.noConfusion, fun initialized => absurd initialized Bool.false_ne_true⟩
  | initialized before called state block event actions =>
      refine ⟨by rw [state]; exact ⟨rfl, SdCardTestState.noConfusion⟩, _, actions, ?_⟩
      exact List.forall_mem_cons.mpr ⟨read true,
        List.forall_mem_singleton.mpr ⟨SdCardAction.noConfusion, fun _ => before⟩⟩
  | blockDone operation before called more state block actions =>
      refine ⟨?_, _, actions, ?_⟩
      · rw [state, before]
        cases operation <;> exact ⟨rfl, SdCardTestState.noConfusion⟩
      · exact List.forall_mem_cons.mpr ⟨read true, List.forall_mem_singleton.mpr
          ⟨SdCardAction.noConfusion, fun initialized => absurd initialized Bool.false_ne_true⟩⟩
  | phaseDone operation before called last state block event actions =>
      refine ⟨?_, _, actions, ?_⟩
      · rw [state]
        cases operation <;> exact ⟨rfl, SdCardTestState.noConfusion⟩
      · exact List.forall_mem_cons.mpr ⟨read true, List.forall_mem_singleton.mpr
          ⟨SdCardAction.noConfusion, fun initialized => absurd initialized Bool.false_ne_true⟩⟩
  | passed state same =>
      refine ⟨?_, [], ?_, fun _ listed => absurd listed List.not_mem_nil⟩
      · rw [same, state]
        exact ⟨rfl, SdCardTestState.noConfusion⟩
      · rw [same, List.append_nil]
  | failed state same =>
      refine ⟨?_, [], ?_, fun _ listed => absurd listed List.not_mem_nil⟩
      · rw [same, state]
        exact ⟨rfl, SdCardTestState.noConfusion⟩
      · rw [same, List.append_nil]

namespace Debouncing

/-- **Observations that are no polls**, and no time passes. -/
theorem append (holds : Debouncing s) {added : List Observation} (ticks : t.ticks = s.test.ticks)
    (deadline : t.state.isWaiting = true →
      s.test.state.isWaiting = true ∧ t.nextPollAt = s.test.nextPollAt)
    (unpolled : ∀ observed ∈ added, Unpolled observed)
    (phase : DebouncePhase t.matchingPolls (StartedEmpty (sinceStart s.log))
      (cardPolls (sinceStart s.log)) t.state)
    (initialized : ∀ observed ∈ added, observed.action.isInitialization = true →
      s.test.state = .initializing) : Debouncing ⟨t, s.times, s.log ++ added⟩ := by
  have polls := cardPolls_append s.log unpolled
  have started := propext (startedEmpty_append s.log fun observed listed =>
    ⟨(unpolled observed listed).call, (unpolled observed listed).action⟩)
  refine ⟨ticks.trans holds.ticks, holds.ordered, ?_, ?_, ?_, ?_, holds.past.append ?_⟩
  · rw [polls]
    exact holds.apart
  · rw [polls]
    exact holds.onward
  · intro waiting
    obtain ⟨before, same⟩ := deadline waiting
    rw [polls]
    intro poll last
    exact same.trans (holds.deadline before poll last)
  · rw [polls, started]
    exact phase
  · rintro before observed after rfl initialization
    have state := initialized observed (by simp) initialization
    have seen := holds.phase
    rw [state] at seen
    exact Debounced.append ⟨seen, holds.apart⟩ fun other listed =>
      unpolled other (List.mem_append_left _ listed)

/-- An event is emitted. -/
theorem emits (holds : Debouncing s) (time : Option Nat) {name : Option Bytes}
    (event : s.test.latestEvent.name = name) :
    Debouncing ⟨s.test.emit .event, s.times, s.log ++ [⟨.process .event, time, .event name⟩]⟩ := by
  subst event
  refine holds.append rfl (fun going => ⟨going, rfl⟩) ?_ holds.phase ?_
  · intro observed listed
    rw [List.mem_singleton.mp listed]
    refine ⟨SdCardTestCall.noConfusion, SdCardAction.noConfusion, ?_⟩
    cases time <;> rfl
  · intro observed listed initialized
    rw [List.mem_singleton.mp listed] at initialized
    exact absurd initialized Bool.false_ne_true

/-- The tick that is read next. -/
theorem tick (holds : Debouncing s) {now : UInt32} {later : List UInt32}
    (ticks : s.test.ticks = now :: later) :
    ∃ time times, s.times = time :: times ∧ tickAt time = now ∧ times.map tickAt = later :=
  List.map_eq_cons_iff.mp (holds.ticks.symm.trans ticks)

/-- Time passes. -/
theorem pass (holds : Debouncing s) {now : Nat} {times : List Nat} (head : s.times = now :: times) :
    Debouncing ⟨{ s.test with ticks := times.map tickAt }, times, s.log⟩ where
  ticks := rfl
  ordered := (List.pairwise_cons.mp (head ▸ holds.ordered)).2
  apart := holds.apart
  onward poll listed time later :=
    holds.onward poll listed time (head ▸ List.mem_cons_of_mem _ later)
  deadline := holds.deadline
  phase := holds.phase
  past := holds.past

/-- A poll that is not too early comes 20 ms after the last one, since time does not go back. -/
theorem due (holds : Debouncing s) {now : Nat} {times : List Nat} (head : s.times = now :: times)
    (waiting : s.test.state.isWaiting = true)
    (reached : ¬(tickAt now - s.test.nextPollAt).toInt32 < 0) :
    ∀ poll ∈ (cardPolls (sinceStart s.log)).getLast?,
      poll.1 + sdCardPollIntervalMs.toNat ≤ now := by
  intro poll last
  have onward := holds.onward poll (List.mem_of_getLast? last) now (head ▸ List.mem_cons_self)
  by_contra early
  rw [Nat.not_le] at early
  have interval : sdCardPollIntervalMs.toNat = 20 := rfl
  have near : NearDeadline now (poll.1 + sdCardPollIntervalMs.toNat) := ⟨by omega, by omega⟩
  exact reached ((deadline_early_iff (holds.deadline waiting poll last) near).mpr early)

/-- **A poll.** -/
theorem poll (holds : Debouncing s) {now : Nat} {times : List Nat} (head : s.times = now :: times)
    (waiting : s.test.state.isWaiting = true)
    (reached : ¬(tickAt now - s.test.nextPollAt).toInt32 < 0) (ticks : t.ticks = times.map tickAt)
    (deadline : t.nextPollAt = tickAt now + sdCardPollIntervalMs) {present : Bool}
    (phase : DebouncePhase t.matchingPolls (StartedEmpty (sinceStart s.log))
      (cardPolls (sinceStart s.log) ++ [(now, present)]) t.state)
    (result : ComponentTestProcessResult) :
    Debouncing ⟨t, times, s.log ++ [⟨.process result, some now, .cardRead present⟩]⟩ := by
  have going : ∀ observed ∈ [(⟨.process result, some now, .cardRead present⟩ : Observation)],
      observed.call ≠ .start ∧ observed.action ≠ .start := by
    intro observed listed
    rw [List.mem_singleton.mp listed]
    exact ⟨SdCardTestCall.noConfusion, SdCardAction.noConfusion⟩
  have polls : cardPolls (sinceStart
      (s.log ++ [⟨.process result, some now, .cardRead present⟩])) =
        cardPolls (sinceStart s.log) ++ [(now, present)] := by
    rw [sinceStart_append s.log fun observed listed => (going observed listed).2, cardPolls,
      List.filterMap_append]
    rfl
  have started := propext (startedEmpty_append s.log going)
  obtain ⟨onward, ordered⟩ := List.pairwise_cons.mp (head ▸ holds.ordered)
  refine ⟨ticks, ordered, ?_, ?_, ?_, ?_, holds.past.append ?_⟩
  · rw [polls]
    exact holds.apart.snoc (holds.due head waiting reached) present
  · rw [polls]
    intro other listed time later
    rcases List.mem_append.mp listed with before | this
    · exact holds.onward other before time (head ▸ List.mem_cons_of_mem _ later)
    · rw [List.mem_singleton.mp this]
      exact onward time later
  · rw [polls]
    intro _ other last
    rw [List.getLast?_concat] at last
    obtain rfl := Option.some.inj last
    rw [deadline]
    exact tickAt_add now sdCardPollIntervalMs
  · rw [polls, started]
    exact phase
  · intro before observed after single initialized
    have listed : observed ∈ [(⟨.process result, some now, .cardRead present⟩ : Observation)] :=
      single ▸ List.mem_append_right _ List.mem_cons_self
    rw [List.mem_singleton.mp listed] at initialized
    exact absurd initialized Bool.false_ne_true

section Polled

variable {now : Nat} {times : List Nat} {present : Bool} {cardReads : List Bool}
  {matchingPolls : UInt8}

/-- A poll after which the test goes on to wait. -/
theorem reads (holds : Debouncing s) (head : s.times = now :: times)
    (waiting : s.test.state.isWaiting = true)
    (reached : ¬(tickAt now - s.test.nextPollAt).toInt32 < 0)
    (phase : DebouncePhase matchingPolls (StartedEmpty (sinceStart s.log))
      (cardPolls (sinceStart s.log) ++ [(now, present)]) s.test.state) :
    Debouncing (s.observe (.process .running)
      (s.test.pollSwitch (tickAt now) (times.map tickAt) present cardReads matchingPolls)) := by
  have observed : s.observe (.process .running)
      (s.test.pollSwitch (tickAt now) (times.map tickAt) present cardReads matchingPolls) =
        ⟨s.test.pollSwitch (tickAt now) (times.map tickAt) present cardReads matchingPolls, times,
          s.log ++ [⟨.process .running, some now, .cardRead present⟩]⟩ :=
    observe_tick [.cardRead present] holds.ticks head rfl rfl
  rw [observed]
  exact holds.poll head waiting reached rfl rfl phase .running

/-- A poll after which the next step is announced. -/
theorem announces (holds : Debouncing s) (head : s.times = now :: times)
    (waiting : s.test.state.isWaiting = true)
    (reached : ¬(tickAt now - s.test.nextPollAt).toInt32 < 0) {next : SdCardTestState}
    {name : String}
    (phase : DebouncePhase matchingPolls (StartedEmpty (sinceStart s.log))
      (cardPolls (sinceStart s.log) ++ [(now, present)]) next) :
    Debouncing (s.observe (.process .event) (SdCardTest.emit .event (sdMessage name
      { s.test.pollSwitch (tickAt now) (times.map tickAt) present cardReads matchingPolls with
        state := next }))) := by
  have observed : s.observe (.process .event) (SdCardTest.emit .event (sdMessage name
      { s.test.pollSwitch (tickAt now) (times.map tickAt) present cardReads matchingPolls with
        state := next })) = ⟨SdCardTest.emit .event (sdMessage name
          { s.test.pollSwitch (tickAt now) (times.map tickAt) present cardReads matchingPolls with
            state := next }), times, s.log ++ [⟨.process .event, some now, .cardRead present⟩,
              ⟨.process .event, some now, .event (some (ascii name))⟩]⟩ :=
    observe_tick [.cardRead present, .event (some (ascii name))] holds.ticks head rfl
      (List.append_assoc _ _ _)
  have polled := holds.poll head waiting reached
    (t := sdMessage name { s.test.pollSwitch (tickAt now) (times.map tickAt) present cardReads
      matchingPolls with state := next }) rfl rfl phase .event
  have told := polled.emits (some now) (by rfl)
  rw [List.append_assoc] at told
  rw [observed]
  exact told

end Polled

/-- **The card is waited for.** -/
theorem waits (holds : Debouncing s) (inserted : Bool) (state : s.test.state = awaiting inserted)
    {next : SdCardTestState} {restart : UInt8 → UInt8} {name : String}
    {result : ComponentTestProcessResult}
    (returned : waitForCard inserted next restart name s.test = some (result, t))
    (afterwards : ∀ polls,
      ReadInARow (StartedEmpty (sinceStart s.log)) sdCardStablePolls.toNat polls inserted →
      DebouncePhase (restart sdCardStablePolls) (StartedEmpty (sinceStart s.log)) polls
        next) : Debouncing (s.observe (.process result) (t.emit result)) := by
  obtain ⟨stable, polled, waited, rest⟩ := ComponentCall.bind_eq_some returned
  have waiting : s.test.state.isWaiting = true := by
    rw [state]
    cases inserted <;> rfl
  have phase : s.test.matchingPolls < sdCardStablePolls ∧
      ReadInARow (StartedEmpty (sinceStart s.log)) s.test.matchingPolls.toNat
        (cardPolls (sinceStart s.log)) inserted := by
    have held := holds.phase
    rw [state] at held
    cases inserted <;> exact held
  cases stableCardState_polls waited with
  | early ticks early =>
      obtain ⟨time, times, head, _, rfl⟩ := holds.tick ticks
      obtain ⟨rfl, rfl⟩ := ComponentCall.pure_eq_some rest
      have observed : s.observe (.process .running) { s.test with ticks := times.map tickAt } =
          ⟨{ s.test with ticks := times.map tickAt }, times, s.log ++ []⟩ :=
        observe_tick (t := { s.test with ticks := times.map tickAt }) [] holds.ticks head rfl
          (List.append_nil _).symm
      rw [List.append_nil] at observed
      show Debouncing (s.observe (.process .running) { s.test with ticks := times.map tickAt })
      rw [observed]
      exact holds.pass head
  | @reads _ _ present cardReads matchingPolls ticks reached counted =>
      obtain ⟨time, times, head, rfl, rfl⟩ := holds.tick ticks
      obtain ⟨few, inARow⟩ := phase
      have more := inARow.read time present
      rw [← toNat_counted few counted] at more
      by_cases stable : sdCardStablePolls ≤ matchingPolls
      · rw [decide_eq_true stable] at rest
        obtain ⟨rfl, rfl⟩ := ComponentCall.pure_eq_some rest
        obtain rfl : matchingPolls = sdCardStablePolls := counted_stable few counted stable
        exact holds.announces head waiting reached (afterwards _ more)
      · rw [decide_eq_false stable] at rest
        obtain ⟨rfl, rfl⟩ := ComponentCall.pure_eq_some rest
        refine holds.reads head waiting reached ?_
        rw [state]
        cases inserted <;> exact ⟨UInt8.not_le.mp stable, more⟩

/-- **A step is announced**, and the switch is not read. -/
theorem announced (holds : Debouncing s) (waiting : s.test.state.isWaiting = true)
    {next : SdCardTestState} {name : String} {result : ComponentTestProcessResult}
    (phase : DebouncePhase s.test.matchingPolls (StartedEmpty (sinceStart s.log))
      (cardPolls (sinceStart s.log)) next)
    (returned : announce next name s.test = some (result, t)) :
    Debouncing (s.observe (.process result) (t.emit result)) := by
  obtain ⟨rfl, rfl⟩ := ComponentCall.pure_eq_some returned
  have moved : Debouncing ⟨sdMessage name { s.test with state := next }, s.times, s.log ++ []⟩ :=
    holds.append rfl (fun _ => ⟨waiting, rfl⟩) (fun _ listed => absurd listed List.not_mem_nil)
      phase fun _ listed => absurd listed List.not_mem_nil
  rw [List.append_nil] at moved
  have observed : s.observe (.process .event)
      (SdCardTest.emit .event (sdMessage name { s.test with state := next })) =
        ⟨SdCardTest.emit .event (sdMessage name { s.test with state := next }), s.times,
          s.log ++ [⟨.process .event, none, .event (some (ascii name))⟩]⟩ :=
    observe_same [.event (some (ascii name))] rfl rfl
  rw [observed]
  exact moved.emits none rfl

/-- **A start** begins anew. -/
theorem start {calls : SdCardDriverCalls δ} {parameters : ComponentTestParameters} {u : Unit}
    (holds : Debouncing s) (returned : sdCardTestStart calls parameters s.test = some (u, t)) :
    Debouncing (s.observe .start t) := by
  obtain ⟨now, later, present, ticks, rest, matching, state, actions⟩ := startsAnew returned
  obtain ⟨time, times, head, rfl, rfl⟩ := holds.tick ticks
  have observed : s.observe .start t = ⟨t, times,
      s.log ++ [⟨.start, some time, .start⟩, ⟨.start, some time, .cardRead present⟩]⟩ :=
    observe_tick [.start, .cardRead present] holds.ticks head rest actions
  have current : sinceStart
      (s.log ++ [⟨.start, some time, .start⟩, ⟨.start, some time, .cardRead present⟩]) =
        [⟨.start, some time, .start⟩, ⟨.start, some time, .cardRead present⟩] := by
    rw [List.append_cons, sinceStart_snoc, sinceStart_snoc, nextObserved, nextObserved, if_pos rfl,
      if_neg SdCardAction.noConfusion]
    rfl
  have polls : cardPolls
      [⟨.start, some time, .start⟩, ⟨.start, some time, .cardRead present⟩] = [] := rfl
  rw [observed]
  refine ⟨rest, (List.pairwise_cons.mp (head ▸ holds.ordered)).2, ?_, ?_, ?_, ?_,
    holds.past.append ?_⟩
  · rw [current, polls]
    exact List.Pairwise.nil
  · rw [current, polls]
    exact fun _ listed => absurd listed List.not_mem_nil
  · rw [current, polls]
    exact fun _ _ none => absurd none.symm (Option.some_ne_none _)
  · rw [current, polls]
    cases present with
    | false =>
        rw [state]
        exact ⟨matching, .inl ⟨some time, by simp⟩⟩
    | true =>
        rw [state]
        exact matching
  · intro before other after split initialized
    have listed : other ∈ [(⟨.start, some time, .start⟩ : Observation),
        ⟨.start, some time, .cardRead present⟩] :=
      split ▸ List.mem_append_right _ List.mem_cons_self
    rcases List.mem_cons.mp listed with rfl | last
    · exact absurd initialized Bool.false_ne_true
    · rw [List.mem_singleton.mp last] at initialized
      exact absurd initialized Bool.false_ne_true

/-- **A stop.** -/
theorem stop {calls : SdCardDriverCalls δ} {u : Unit} (holds : Debouncing s)
    (returned : sdCardTestStop calls s.test = some (u, t)) : Debouncing (s.observe .stop t) := by
  obtain ⟨_, driver, _, rfl⟩ := sdCardTestStop_returns returned
  have observed : s.observe .stop ({ s.test with driver := driver }.record .shutdown) =
      ⟨{ s.test with driver := driver }.record .shutdown, s.times,
        s.log ++ [⟨.stop, none, .shutdown⟩]⟩ :=
    observe_same [.shutdown] rfl rfl
  rw [observed]
  refine holds.append rfl (fun waiting => ⟨waiting, rfl⟩) ?_ holds.phase ?_
  · intro other listed
    rw [List.mem_singleton.mp listed]
    exact ⟨SdCardTestCall.noConfusion, SdCardAction.noConfusion, rfl⟩
  · intro other listed initialized
    rw [List.mem_singleton.mp listed] at initialized
    exact absurd initialized Bool.false_ne_true

/-- **Once the card has been inserted.** -/
theorem proceeds {calls : SdCardDriverCalls δ} {result : ComponentTestProcessResult}
    (holds : Debouncing s) (inserted : s.test.state.isWaiting = false)
    (returned : sdCardTestProcess calls s.test = some (result, t)) :
    Debouncing (s.observe (.process result) (t.emit result)) := by
  obtain ⟨⟨past, done⟩, new, actions, plain⟩ :=
    process_inserted inserted (sdCardTestProcess_returns returned)
  have ticks := process_ticks inserted returned
  have phase : DebouncePhase t.matchingPolls (StartedEmpty (sinceStart s.log))
      (cardPolls (sinceStart s.log)) t.state := debouncePhase_of_inserted past done
  have moved : Debouncing ⟨t, s.times, s.log ++ new.map fun action =>
      ⟨.process result, none, action⟩⟩ := by
    refine holds.append ticks (fun waiting => absurd (past.symm.trans waiting) Bool.false_ne_true)
      ?_ phase ?_
    · intro other listed
      obtain ⟨action, among, rfl⟩ := List.mem_map.mp listed
      exact ⟨SdCardTestCall.noConfusion, (plain action among).1, rfl⟩
    · intro other listed
      obtain ⟨action, among, rfl⟩ := List.mem_map.mp listed
      exact (plain action among).2
  by_cases told : result = .event
  · subst told
    have emitted := moved.emits none rfl
    have observed : s.observe (.process .event) (t.emit .event) =
        ⟨t.emit .event, s.times, s.log ++
          (new ++ [SdCardAction.event t.latestEvent.name]).map fun action =>
            ⟨.process .event, none, action⟩⟩ := by
      refine observe_same (t := t.emit .event) (new ++ [.event t.latestEvent.name]) ticks ?_
      rw [← List.append_assoc, ← actions]
      rfl
    rw [observed, List.map_append, ← List.append_assoc]
    exact emitted
  · have quiet : t.emit result = t := if_neg told
    rw [quiet, observe_same new ticks actions]
    exact moved

/-- **An update.** -/
theorem process {calls : SdCardDriverCalls δ} {result : ComponentTestProcessResult}
    (holds : Debouncing s) (returned : sdCardTestProcess calls s.test = some (result, t)) :
    Debouncing (s.observe (.process result) (t.emit result)) := by
  have phase := holds.phase
  have whole := returned
  rw [sdCardTestProcess, ComponentCall.get_bind] at returned
  cases state : s.test.state with
  | announceRemoval =>
      rw [state] at returned phase
      refine holds.announced (by rw [state]; rfl) ?_ returned
      rw [show s.test.matchingPolls = 0 from phase]
      exact ⟨by decide, LastPolls.zero false _⟩
  | waitingForRemoval =>
      rw [state] at returned
      exact holds.waits false state returned fun polls seen => ⟨rfl, .inr seen⟩
  | announceInsertion =>
      rw [state] at returned phase
      obtain ⟨none, seen⟩ := phase
      refine holds.announced (by rw [state]; rfl) ?_ returned
      rw [none]
      exact ⟨by decide, _, [], (List.append_nil _).symm, seen, LastPolls.zero true []⟩
  | waitingForInsertion =>
      rw [state] at returned
      exact holds.waits true state returned fun polls seen => seen
  | initializing | writing | verifying | cleaningUp | complete | failed =>
      exact holds.proceeds (by rw [state]; rfl) whole

/-- **Every step keeps the invariant.** -/
theorem step {calls : SdCardDriverCalls δ} {u : TimedTest δ} (holds : Debouncing s)
    (step : TimedStep calls s call u) : Debouncing u := by
  obtain ⟨test, stepped, rfl⟩ := step
  cases stepped with
  | start returned => exact holds.start returned
  | process returned => exact holds.process returned
  | stop returned => exact holds.stop returned

/-- The invariant holds after a reset. -/
theorem initial (driver : δ) {times : List Nat} (ordered : times.Pairwise (· ≤ ·))
    (cardReads : List Bool) : Debouncing (.initial driver times cardReads) where
  ticks := rfl
  ordered := ordered
  apart := List.Pairwise.nil
  onward _ listed := absurd listed List.not_mem_nil
  deadline _ _ none := absurd none.symm (Option.some_ne_none _)
  phase := rfl
  past _ _ _ split := absurd split (by simp [TimedTest.initial])

end Debouncing

/-! ## Whole runs -/

/-- **The card is debounced before it is initialized.** In every run of starts, updates and stops,
at whatever times the ticks are read and whatever the switch reads, with any driver: before each
initialization, and whenever the next update is to make one, the socket has been seen empty since
the last start, and then a card has been seen. -/
theorem card_insertion_debounced {calls : SdCardDriverCalls δ} {driver : δ} {times : List Nat}
    {cardReads : List Bool} {labels : List SdCardTestCall} {s : TimedTest δ}
    (ordered : times.Pairwise (· ≤ ·))
    (run : Run (TimedStep calls) (.initial driver times cardReads) labels s) :
    (∀ before time call ok after,
        s.log = before ++ ⟨call, time, .initialization ok⟩ :: after → Debounced before) ∧
      (s.test.state = .initializing → Debounced s.log) := by
  have holds : Debouncing s := run.invariant (I := Debouncing)
    (fun _ _ _ before step => before.step step) (.initial driver ordered cardReads)
  refine ⟨fun before time call ok after split => holds.past before _ after split rfl, ?_⟩
  intro state
  have seen := holds.phase
  rw [state] at seen
  exact ⟨seen, holds.apart⟩

/-- Perform a call, and observe it. -/
def performTimed (calls : SdCardDriverCalls δ) (s : TimedTest δ) (call : SdCardTestCall) :
    Option (TimedTest δ) :=
  (performCall calls s.test call).map (s.observe call)

/-- A card is inserted while the tick wraps; the second update is too early for a poll. -/
def insertedAcrossWrap : TimedTest Unit :=
  .initial () [4294967280, 4294967280, 4294967290, 4294967300, 4294967320]
    (false :: List.replicate 4 true)

/-- The calls from the start to the initialization. -/
def insertionCalls : List SdCardTestCall :=
  [.start, .process .event, .process .running, .process .running, .process .running,
    .process .event, .process .event]

theorem card_insertion_debounced_wrapping : ∃ s before after,
    Run (TimedStep workingDriver) insertedAcrossWrap insertionCalls s ∧
      s.log = before ++ ⟨.process .event, none, .initialization true⟩ :: after ∧
      Debounced before := by
  have initializes : (insertionCalls.foldlM (performTimed workingDriver) insertedAcrossWrap).map
      (fun s => (s.log.drop 8).head?) =
        some (some ⟨.process .event, none, .initialization true⟩) := by
    decide +kernel
  obtain ⟨s, performed, ninth⟩ := Option.map_eq_some_iff.mp initializes
  obtain ⟨after, rest⟩ := List.head?_eq_some_iff.mp ninth
  have run : Run (TimedStep workingDriver) insertedAcrossWrap insertionCalls s := by
    refine Run.of_performed (fun _ _ _ performed => ?_) performed
    obtain ⟨test, called, same⟩ := Option.map_eq_some_iff.mp performed
    exact ⟨test, step_of_performCall called, same.symm⟩
  have split : s.log = s.log.take 8 ++ ⟨.process .event, none, .initialization true⟩ :: after := by
    rw [← rest, List.take_append_drop]
  exact ⟨s, _, after, run, split,
    (card_insertion_debounced (by decide) run).1 _ _ _ _ _ split⟩

end FlightComputer.Firmware
