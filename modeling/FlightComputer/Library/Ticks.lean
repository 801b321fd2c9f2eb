import Mathlib.Data.List.Chain
import Mathlib.Algebra.Ring.Nat

/-!
# Ticks that wrap, and timetables

A clock counts milliseconds modulo 2³². Software compares a tick with a deadline by the sign of
their difference, which is right as long as the two are less than 2³¹ apart (`early_iff`).

A timetable says what is to be done in each stage, which stage is next, and how long after the
action of a stage that of the next one is due. It is polled: at each of the given times
something is done or not. It is followed when nothing is done before it is due and everything is
done by the first poll that is not too early (`Timetable.Follows`). A program whose single polls
act as the timetable says follows it, whatever the times of the polls (`Timetable.exists_run`).
-/

set_option autoImplicit false

namespace FlightComputer.Library

/-! ## Ticks -/

/-- The tick at a time. -/
def tickAt (time : Nat) : UInt32 := UInt32.ofNat time

theorem tickAt_add (time : Nat) (delay : UInt32) :
    tickAt time + delay = tickAt (time + delay.toNat) := by
  apply UInt32.toNat.inj
  rw [tickAt, tickAt, UInt32.toNat_add, UInt32.toNat_ofNat', UInt32.toNat_ofNat']
  omega

/-- A poll and a deadline that are so near each other that the order of their ticks is
clear. -/
structure NearDeadline (now due : Nat) : Prop where
  early : due ≤ now + 2 ^ 31
  late : now < due + 2 ^ 31

/-- A deadline at the time of the first poll. -/
theorem nearDeadline_head (first : Nat) (later : List Nat) :
    ∀ now ∈ (first :: later).head?, NearDeadline now first := by
  intro now head
  obtain rfl := Option.some.inj head
  exact ⟨Nat.le_add_right _ _, Nat.lt_add_of_pos_right (by decide)⟩

/-- **The comparison of ticks.** -/
theorem early_iff {now due : Nat} (near : NearDeadline now due) :
    (tickAt now - tickAt due).toInt32 < 0 ↔ now < due := by
  obtain ⟨early, late⟩ := near
  have difference : (tickAt now - tickAt due).toNat =
      (now % 2 ^ 32 + (2 ^ 32 - due % 2 ^ 32)) % 2 ^ 32 := by
    rw [tickAt, tickAt, UInt32.toNat_sub, UInt32.toNat_ofNat', UInt32.toNat_ofNat', Nat.add_comm]
  have sign : (tickAt now - tickAt due).toInt32.toInt =
      Int.bmod ((now % 2 ^ 32 + (2 ^ 32 - due % 2 ^ 32)) % 2 ^ 32 : Nat) (2 ^ 32) := by
    rw [← difference]
    exact BitVec.toInt_eq_toNat_bmod _
  rw [Int32.lt_iff_toInt_lt, sign, Int32.toInt_zero, Int.bmod]
  split_ifs <;> omega

/-- The comparison with a deadline that is kept as its tick. -/
theorem deadline_early_iff {deadline : UInt32} {now due : Nat} (kept : deadline = tickAt due)
    (near : NearDeadline now due) : (tickAt now - deadline).toInt32 < 0 ↔ now < due := by
  rw [kept]
  exact early_iff near

/-! ## Timetables -/

/-- What is done in a stage, the stage that comes next, and how long after the one the other is
due. -/
structure Timetable (ι β : Type) where
  label : ι → β
  next : ι → ι
  delay : ι → Nat

/-- A poll: its time, and what is done. -/
abbrev Poll (β : Type) : Type := Nat × Option β

/-- What has been done, with its time. -/
def emissions {β : Type} (polls : List (Poll β)) : List (Nat × β) :=
  polls.filterMap fun poll => poll.2.map fun done => (poll.1, done)

/-- A clock that is read at these times never goes back, and it advances by less than 2³¹
from one poll to the next. -/
def Advances (times : List Nat) : Prop :=
  times.IsChain fun earlier later => earlier ≤ later ∧ later < earlier + 2 ^ 31

/-- The times at which ticks are read, if the clock never makes a whole turn from one to the
next. -/
def timesFrom (last : Nat) : List UInt32 → List Nat
  | [] => []
  | tick :: ticks =>
      (last + (tick - tickAt last).toNat) :: timesFrom (last + (tick - tickAt last).toNat) ticks

/-- The first tick is read at a time before the first turn. -/
theorem timesFrom_zero (tick : UInt32) (ticks : List UInt32) :
    timesFrom 0 (tick :: ticks) = tick.toNat :: timesFrom tick.toNat ticks := by
  have first : 0 + (tick - tickAt 0).toNat = tick.toNat := by
    rw [Nat.zero_add]
    exact congrArg UInt32.toNat (UInt32.sub_zero tick)
  rw [timesFrom, first]

theorem length_timesFrom {ticks : List UInt32} : ∀ {last : Nat},
    (timesFrom last ticks).length = ticks.length := by
  induction ticks with
  | nil =>
      intro last
      rfl
  | cons tick ticks ih =>
      intro last
      rw [timesFrom, List.length_cons, ih, List.length_cons]

theorem map_tickAt_timesFrom {ticks : List UInt32} : ∀ {last : Nat},
    (timesFrom last ticks).map tickAt = ticks := by
  induction ticks with
  | nil =>
      intro last
      rfl
  | cons tick ticks ih =>
      intro last
      rw [timesFrom, List.map_cons, ih, ← tickAt_add, UInt32.add_comm, UInt32.sub_add_cancel]

/-- Ticks that advance by less than 2³¹ are read at times that do. -/
theorem advances_timesFrom {ticks : List UInt32} : ∀ {last : Nat} {tick : UInt32},
    ((tick :: ticks).IsChain fun earlier later => (later - earlier).toNat < 2 ^ 31) →
      Advances (timesFrom last (tick :: ticks)) := by
  induction ticks with
  | nil =>
      intro last tick _
      exact List.isChain_singleton _
  | cons next ticks ih =>
      intro last tick advance
      obtain ⟨small, rest⟩ := List.isChain_cons_cons.mp advance
      have reached : tickAt (last + (tick - tickAt last).toNat) = tick := by
        rw [← tickAt_add, UInt32.add_comm, UInt32.sub_add_cancel]
      rw [timesFrom, timesFrom]
      refine List.isChain_cons_cons.mpr ⟨⟨Nat.le_add_right _ _, ?_⟩, ih rest⟩
      rw [reached]
      exact Nat.add_lt_add_left small _

/-- The polls of a program. -/
def runPolls {σ β : Type} (poll : σ → Option (Option β × σ)) :
    List Nat → σ → Option (List (Poll β) × σ)
  | [], s => some ([], s)
  | time :: times, s =>
      (poll s).bind fun polled =>
        (runPolls poll times polled.2).map fun rest => ((time, polled.1) :: rest.1, rest.2)

theorem runPolls_cons {σ β : Type} {poll : σ → Option (Option β × σ)} {time : Nat}
    {times : List Nat} {s t : σ} {polls : List (Poll β)}
    (run : runPolls poll (time :: times) s = some (polls, t)) :
    ∃ done rest, polls = (time, done) :: rest := by
  obtain ⟨polled, _, rest⟩ := Option.bind_eq_some_iff.mp run
  obtain ⟨last, _, same⟩ := Option.map_eq_some_iff.mp rest
  exact ⟨polled.1, last.1, (Prod.mk.inj same).1.symm⟩

namespace Timetable

variable {ι β : Type} (table : Timetable ι β)

/-- **The polls follow the timetable**, from a stage on that is due at a time. -/
def Follows : ι → Nat → List (Poll β) → Prop
  | _, _, [] => True
  | stage, due, (time, done) :: polls =>
      if time < due then done = none ∧ Follows stage due polls
      else done = some (table.label stage) ∧
        Follows (table.next stage) (time + table.delay stage) polls

/-- Things that are done in the order of the stages, none before it is due. -/
def Spaced : ι → Nat → List (Nat × β) → Prop
  | _, _, [] => True
  | stage, due, (time, done) :: later =>
      done = table.label stage ∧ due ≤ time ∧
        Spaced (table.next stage) (time + table.delay stage) later

variable {table}

/-- **What is done on a timetable is spaced.** -/
theorem Follows.spaced {polls : List (Poll β)} : ∀ {stage : ι} {due : Nat},
    table.Follows stage due polls → table.Spaced stage due (emissions polls) := by
  induction polls with
  | nil =>
      intro stage due _
      exact True.intro
  | cons poll polls ih =>
      obtain ⟨time, done⟩ := poll
      intro stage due follows
      rw [Follows] at follows
      split_ifs at follows with early
      · obtain ⟨rfl, rest⟩ := follows
        exact ih rest
      · obtain ⟨rfl, rest⟩ := follows
        exact ⟨rfl, Nat.le_of_not_lt early, ih rest⟩

/-- A timetable is followed from a first poll on at which the first stage is due. -/
theorem Follows.first {stage : ι} {start : Nat}
    {done : Option β} {rest : List (Poll β)}
    (follows : table.Follows stage start ((start, done) :: rest)) :
    emissions ((start, done) :: rest) = (start, table.label stage) :: emissions rest ∧
      table.Spaced (table.next stage) (start + table.delay stage) (emissions rest) := by
  rw [Follows, if_neg (Nat.lt_irrefl start)] at follows
  obtain ⟨rfl, later⟩ := follows
  exact ⟨rfl, later.spaced⟩

/-- A stage that is followed by itself. -/
theorem Spaced.pairwise {stage : ι} (repeats : table.next stage = stage)
    {done : List (Nat × β)} : ∀ {due : Nat}, table.Spaced stage due done →
      (∀ emission ∈ done, emission.2 = table.label stage ∧ due ≤ emission.1) ∧
        done.Pairwise fun earlier later => earlier.1 + table.delay stage ≤ later.1 := by
  induction done with
  | nil =>
      intro due _
      exact ⟨fun _ listed => absurd listed List.not_mem_nil, List.Pairwise.nil⟩
  | cons emission later ih =>
      obtain ⟨time, label⟩ := emission
      intro due spaced
      obtain ⟨rfl, reached, rest⟩ := spaced
      rw [repeats] at rest
      obtain ⟨labelled, apart⟩ := ih rest
      refine ⟨List.forall_mem_cons.mpr ⟨⟨rfl, reached⟩, fun other listed => ?_⟩,
        List.pairwise_cons.mpr ⟨fun other listed => (labelled other listed).2, apart⟩⟩
      obtain ⟨same, after⟩ := labelled other listed
      exact ⟨same, by omega⟩

/-- **A program whose single polls act as the timetable says follows it.** Its invariant `I` tells
the stage, when it is due, and the times to come. -/
theorem exists_run {σ : Type} {poll : σ → Option (Option β × σ)}
    {I : ι → Nat → List Nat → σ → Prop} (short : ∀ stage, table.delay stage ≤ 2 ^ 31)
    (step : ∀ stage due now later s, I stage due (now :: later) s → NearDeadline now due →
      ∃ done t, poll s = some (done, t) ∧
        ((now < due ∧ done = none ∧ I stage due later t) ∨
          (due ≤ now ∧ done = some (table.label stage) ∧
            I (table.next stage) (now + table.delay stage) later t)))
    {times : List Nat} : ∀ {stage : ι} {due : Nat} {s : σ}, I stage due times s →
      Advances times → (∀ now ∈ times.head?, NearDeadline now due) →
        ∃ polls t, runPolls poll times s = some (polls, t) ∧ table.Follows stage due polls := by
  induction times with
  | nil =>
      intro stage due s _ _ _
      exact ⟨[], s, rfl, True.intro⟩
  | cons now later ih =>
      intro stage due s holds advances near
      obtain ⟨done, t, polled, outcome⟩ := step stage due now later s holds (near now rfl)
      obtain ⟨early, late⟩ := near now rfl
      obtain ⟨soon, advances⟩ := List.isChain_cons.mp advances
      have run : ∀ {polls : List (Poll β)} {u : σ}, runPolls poll later t = some (polls, u) →
          runPolls poll (now :: later) s = some ((now, done) :: polls, u) := by
        intro polls u rest
        rw [runPolls, polled, Option.bind_some, rest, Option.map_some]
      rcases outcome with ⟨before, rfl, kept⟩ | ⟨reached, rfl, kept⟩
      · obtain ⟨polls, u, rest, follows⟩ := ih kept advances fun next listed => by
          obtain ⟨onward, near⟩ := soon next listed
          exact ⟨by omega, by omega⟩
        refine ⟨_, u, run rest, ?_⟩
        rw [Follows, if_pos before]
        exact ⟨rfl, follows⟩
      · have delayed := short stage
        obtain ⟨polls, u, rest, follows⟩ := ih kept advances fun next listed => by
          obtain ⟨onward, near⟩ := soon next listed
          exact ⟨by omega, by omega⟩
        refine ⟨_, u, run rest, ?_⟩
        rw [Follows, if_neg (Nat.not_lt_of_le reached)]
        exact ⟨rfl, follows⟩

end Timetable

end FlightComputer.Library
