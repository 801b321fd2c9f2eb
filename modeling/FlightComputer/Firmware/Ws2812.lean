import FlightComputer.Firmware.ProductionRegistry
import FlightComputer.Library.Runs
import FlightComputer.Library.Ticks

/-!
# The waveform of the RGB LED

`rgb_led_test.c` drives the data line of the LED from the core: it writes the pin, and it waits by
reading a cycle counter that wraps around. How many cycles lie between two accesses to the pin or to
the counter is given in advance, and so is how long a call of `HAL_Delay` takes.

An LED is on the other side of the line. It takes a pulse for a one if it is long enough, and after
a long low interval it shows the colour of the bits that it has read. If no more than five cycles lie
between two accesses, every interval is in its window (`bitSent`), so that the LED shows exactly
the colours that have been transmitted, in order, whichever threshold it has between the windows and
wherever the counter wraps around (`led_shows_transmitted`).
-/

set_option autoImplicit false

namespace FlightComputer.Firmware

open Library

/-! ## The frame -/

/-- `ws2812_encode` -/
def ws2812Encode (red green blue : UInt8) : Bytes := [green, red, blue]

/-- `WS2812_DATA_BITS` -/
def ws2812DataBits : Nat := 24

/-- The test of a bit of the frame, in the loop of `transmit`. -/
def frameBit (frame : Bytes) (index : Nat) : Bool :=
  frame.getD (index / 8) 0 &&& UInt8.ofNat (0x80 >>> (index % 8)) != 0

/-! ## The core -/

/-- A write of the data line: its level, when it is written, and whether interrupts are masked. -/
structure DinWrite where
  level : Bool
  time : Nat
  masked : Bool
  deriving DecidableEq

/-- The core as `transmit` uses it: the cycles so far, the time at which the cycle counter was
cleared, the cycles between accesses and in delays to come, PRIMASK, and the writes of the data
line. -/
structure Ws2812Core where
  hardwareReady : Bool
  now : Nat
  clearedAt : Nat
  costs : List Nat
  delays : List Nat
  primask : Bool
  writes : List DinWrite

/-- A call on the core. -/
abbrev CoreCall (α : Type) : Type := ComponentCall Ws2812Core α

/-- The next access to the pin or to the counter. -/
def coreAccess : CoreCall Unit := fun s =>
  match s.costs with
  | [] => none
  | cost :: later => some ((), { s with now := s.now + cost, costs := later })

/-- `drive_din_high` and `drive_din_low` -/
def driveDin (level : Bool) : CoreCall Unit := do
  coreAccess
  modify fun s => { s with writes := s.writes ++ [⟨level, s.now, s.primask⟩] }

/-- A read of `DWT->CYCCNT`. -/
def cycleCount : CoreCall UInt32 := do
  coreAccess
  let s ← get
  pure (tickAt (s.now - s.clearedAt))

/-- The loop of `wait_cycles`: the counter is read until enough cycles have passed. -/
def waitLoop (startedAt cycles : UInt32) (clearedAt : Nat) :
    List Nat → Nat → Option (List Nat × Nat)
  | [], _ => none
  | cost :: later, now =>
      if tickAt (now + cost - clearedAt) - startedAt < cycles then
        waitLoop startedAt cycles clearedAt later (now + cost)
      else some (later, now + cost)

/-- `wait_cycles` -/
def waitCycles (cycles : UInt32) : CoreCall Unit := do
  let startedAt ← cycleCount
  fun s => (waitLoop startedAt cycles s.clearedAt s.costs s.now).map fun waited =>
    ((), { s with costs := waited.1, now := waited.2 })

/-- `HAL_Delay(WS2812_RESET_MS)` -/
def resetDelay : CoreCall Unit := fun s =>
  match s.delays with
  | [] => none
  | delay :: later => some ((), { s with now := s.now + delay, delays := later })

/-- `WS2812_ONE_HIGH_CYCLES` and `WS2812_ZERO_HIGH_CYCLES` -/
def highCycles (one : Bool) : UInt32 := if one then 105 else 48

/-- `WS2812_ONE_LOW_CYCLES` and `WS2812_ZERO_LOW_CYCLES` -/
def lowCycles (one : Bool) : UInt32 := if one then 105 else 150

/-- One iteration of the loop of `transmit`. -/
def transmitBit (one : Bool) : CoreCall Unit := do
  driveDin true
  waitCycles (highCycles one)
  driveDin false
  waitCycles (lowCycles one)

/-- The loop of `transmit`. -/
def transmitBits (frame : Bytes) : List Nat → CoreCall Unit
  | [] => pure ()
  | index :: later => do
      transmitBit (frameBit frame index)
      transmitBits frame later

/-- `transmit` -/
def ws2812Transmit (red green blue : UInt8) : CoreCall Bool := do
  if (← get).hardwareReady then do
    let frame := ws2812Encode red green blue
    driveDin false
    resetDelay
    let previousPrimask := (← get).primask
    modify fun s => { s with primask := true }
    transmitBits frame (List.range ws2812DataBits)
    modify fun s => { s with primask := previousPrimask }
    resetDelay
    pure true
  else pure false

/-- `initialize_hardware`; the flags tell whether the core has its expected clock, and whether the
counter can be enabled. -/
def ws2812InitializeHardware (clockExpected counterEnabled : Bool) : CoreCall Bool := do
  if clockExpected then do
    driveDin false
    coreAccess
    modify fun s => { s with clearedAt := s.now }
    if counterEnabled then do
      resetDelay
      pure true
    else pure false
  else pure false

/-! ## The LED -/

/-- A colour: red, green and blue. -/
abbrev LedColour : Type := UInt8 × UInt8 × UInt8

/-- The byte that bits spell, the most significant one first. -/
def byteOfBits (bits : List Bool) : UInt8 :=
  bits.foldl (fun byte bit => 2 * byte + if bit then 1 else 0) 0

/-- The colour of 24 bits: green, red and blue. -/
def colourOfBits (bits : List Bool) : Option LedColour :=
  if bits.length = ws2812DataBits then
    some (byteOfBits ((bits.drop 8).take 8), byteOfBits (bits.take 8), byteOfBits (bits.drop 16))
  else none

/-- An LED behind the data line: the level that it sees and since when, the bits that it has read,
and the colours that it has shown. -/
structure Led where
  level : Bool
  since : Nat
  bits : List Bool
  shown : List LedColour

/-- An LED that has just been powered. -/
def Led.initial : Led := ⟨false, 0, [], []⟩

/-- How an LED reads the line: a pulse of `threshold` cycles is a one, and the line has to be low for
`reset` cycles before the LED shows a colour. -/
structure LedTiming where
  threshold : Nat
  reset : Nat

/-- The thresholds between the windows of a zero and a one, 220 to 380 ns and 580 to 1000 ns, and
the reset times between the window of a low interval, 580 to 1000 ns, and a millisecond, in cycles
of 168 MHz. -/
structure LedTiming.IsCompliant (timing : LedTiming) : Prop where
  zero : 380 * 168 < 1000 * timing.threshold
  one : 1000 * timing.threshold ≤ 580 * 168
  low : 1000 * 168 < 1000 * timing.reset
  reset : timing.reset ≤ 168000

namespace Led

variable (timing : LedTiming)

/-- The LED shows the colour that it has read. -/
def latch (led : Led) : Led :=
  { led with bits := [], shown := led.shown ++ (colourOfBits led.bits).toList }

/-- The LED at a time at which its line may have been low for long. -/
def settle (now : Nat) (led : Led) : Led :=
  if led.level = false ∧ led.since + timing.reset ≤ now then led.latch else led

/-- The LED sees a write of its line. -/
def see (led : Led) (write : DinWrite) : Led :=
  match led.level, write.level with
  | false, true => { led.settle timing write.time with level := true, since := write.time }
  | true, false =>
      { led with
        level := false
        since := write.time
        bits := led.bits ++ [decide (timing.threshold ≤ write.time - led.since)] }
  | _, _ => led

/-- The LED after the writes of its line. -/
def watching (writes : List DinWrite) : Led := writes.foldl (see timing) .initial

theorem watching_append (writes later : List DinWrite) :
    watching timing (writes ++ later) = later.foldl (see timing) (watching timing writes) :=
  List.foldl_append

/-- **The LED expects the next bit** within some cycles: it has read these bits of its frame, and has
shown these colours. -/
structure Expects (led : Led) (now : Nat) (bits : List Bool) (shown : List LedColour) : Prop where
  low : led.level = false
  since : led.since ≤ now
  next : ∀ rise, now ≤ rise → rise ≤ now + 5 →
    (led.settle timing rise).bits = bits ∧ (led.settle timing rise).shown = shown

/-- **The LED has settled**: it has shown these colours and waits for a frame. -/
structure Settled (led : Led) (now : Nat) (shown : List LedColour) : Prop where
  low : led.level = false
  since : led.since ≤ now
  bits : (led.settle timing now).bits = []
  shown : (led.settle timing now).shown = shown

variable {timing} {led : Led} {now rise fall : Nat} {bits : List Bool} {shown : List LedColour}

/-- Settling is over when there are no bits. -/
theorem latch_of_nil (empty : led.bits = []) : led.latch = led := by
  obtain ⟨level, since, bits, shown⟩ := led
  obtain rfl : bits = [] := empty
  exact congrArg (Led.mk level since []) (List.append_nil shown)

/-- A settled LED stays settled. -/
theorem Settled.later (settled : led.Settled timing now shown) {later : Nat} (after : now ≤ later) :
    led.Settled timing later shown := by
  obtain ⟨low, since, bits, same⟩ := settled
  rw [settle] at bits same
  split_ifs at bits same with due
  · have due' : led.level = false ∧ led.since + timing.reset ≤ later :=
      ⟨low, Nat.le_trans due.2 after⟩
    refine ⟨low, Nat.le_trans since after, ?_, ?_⟩
    · rw [settle, if_pos due']
      exact bits
    · rw [settle, if_pos due']
      exact same
  · have still : led.settle timing later = led := by
      rw [settle]
      split_ifs
      · exact latch_of_nil bits
      · rfl
    refine ⟨low, Nat.le_trans since after, ?_, ?_⟩
    · rw [still]
      exact bits
    · rw [still]
      exact same

theorem Settled.expects (settled : led.Settled timing now shown) :
    led.Expects timing now [] shown where
  low := settled.low
  since := settled.since
  next := by
    intro rise after _
    exact ⟨(settled.later after).bits, (settled.later after).shown⟩

/-- **A frame is shown** when the line has been low for long. -/
theorem Expects.settled (expects : led.Expects timing now bits shown) (nonempty : bits ≠ [])
    {later : Nat} (long : now + timing.reset ≤ later) :
    led.Settled timing later (shown ++ (colourOfBits bits).toList) := by
  obtain ⟨low, since, next⟩ := expects
  obtain ⟨same, rfl⟩ := next now (Nat.le_refl now) (Nat.le_add_right now 5)
  have due : led.level = false ∧ led.since + timing.reset ≤ later :=
    ⟨low, Nat.le_trans (Nat.add_le_add_right since _) long⟩
  have pending : led.settle timing now = led := by
    rw [settle] at same ⊢
    split_ifs at same ⊢
    · exact absurd same.symm nonempty
    · rfl
  rw [pending] at same ⊢
  refine ⟨low, Nat.le_trans since (Nat.le_trans (Nat.le_add_right _ _) long), ?_, ?_⟩
  · rw [settle, if_pos due]
    rfl
  · rw [settle, if_pos due, ← same]
    rfl

/-- **A pulse is read** as the bit that it stands for, and the LED expects the next one if the line
is not low for long. -/
theorem Expects.pulse (expects : led.Expects timing now bits shown) {one masked masked' : Bool}
    (early : now ≤ rise) (soon : rise ≤ now + 5) {later : Nat} (after : fall ≤ later)
    (width : timing.threshold ≤ fall - rise ↔ one = true) (short : later + 5 < fall + timing.reset) :
    ((led.see timing ⟨true, rise, masked⟩).see timing ⟨false, fall, masked'⟩).Expects timing later
      (bits ++ [one]) shown := by
  obtain ⟨low, since, next⟩ := expects
  obtain ⟨same, same'⟩ := next rise early soon
  have raised : led.see timing ⟨true, rise, masked⟩ =
      { led.settle timing rise with level := true, since := rise } := by
    rw [see, low]
  have bit : decide (timing.threshold ≤ fall - rise) = one := by
    rw [Bool.eq_iff_iff, decide_eq_true_iff]
    exact width
  rw [raised, see]
  dsimp only
  rw [same, same', bit]
  refine ⟨rfl, after, ?_⟩
  intro rise' _ soon'
  have waiting : ¬fall + timing.reset ≤ rise' := by
    have bound := Nat.lt_of_le_of_lt soon' short
    exact Nat.not_le_of_lt bound
  rw [settle, if_neg fun due => waiting due.2]
  exact ⟨rfl, rfl⟩

/-- A low line that is written low again. -/
theorem see_low (low : led.level = false) (time : Nat) (masked : Bool) :
    led.see timing ⟨false, time, masked⟩ = led := by
  rw [see, low]

end Led

/-! ## Waiting -/

/-- At most five cycles lie between two accesses. -/
def IsQuick (costs : List Nat) : Prop := ∀ cost ∈ costs, cost ≤ 5

section Waiting

variable {started clearedAt cycles : Nat}

/-- What the loop compares: the cycles since the start, as long as the counter has not gone all the
way round. -/
theorem cyclesSince_lt_iff {now : Nat} (cleared : clearedAt ≤ started) (after : started ≤ now)
    (near : now < started + 2 ^ 32) (small : cycles < 2 ^ 32) :
    tickAt (now - clearedAt) - tickAt (started - clearedAt) < UInt32.ofNat cycles ↔
      now - started < cycles := by
  rw [UInt32.lt_iff_toNat_lt, tickAt, tickAt, UInt32.toNat_sub, UInt32.toNat_ofNat',
    UInt32.toNat_ofNat', UInt32.toNat_ofNat']
  omega

/-- **The loop of `wait_cycles`** ends when enough cycles have passed, and soon. -/
theorem waitLoop_returns {costs later : List Nat} {now last : Nat} (cleared : clearedAt ≤ started)
    (after : started ≤ now) (early : now - started < cycles) (small : cycles + 5 < 2 ^ 32)
    (quick : IsQuick costs)
    (returned : waitLoop (tickAt (started - clearedAt)) (UInt32.ofNat cycles) clearedAt costs now =
      some (later, last)) :
    IsQuick later ∧ started + cycles ≤ last ∧ last < started + cycles + 5 := by
  induction costs generalizing now with
  | nil => cases returned
  | cons cost costs ih =>
      obtain ⟨one, rest⟩ := List.forall_mem_cons.mp quick
      have near : now + cost < started + 2 ^ 32 := by omega
      rw [waitLoop] at returned
      split_ifs at returned with waiting
      · rw [cyclesSince_lt_iff cleared (by omega) near (by omega)] at waiting
        exact ih (by omega) waiting rest returned
      · rw [cyclesSince_lt_iff cleared (by omega) near (by omega)] at waiting
        obtain ⟨rfl, rfl⟩ := Prod.mk.inj (Option.some.inj returned)
        exact ⟨rest, by omega, by omega⟩

/-- The loop ends if time passes. -/
theorem exists_waitLoop {costs : List Nat} {now : Nat} (cleared : clearedAt ≤ started)
    (after : started ≤ now) (early : now - started < cycles) (small : cycles + 5 < 2 ^ 32)
    (quick : IsQuick costs) (passes : ∀ cost ∈ costs, 1 ≤ cost)
    (enough : cycles - (now - started) ≤ costs.length) :
    ∃ later last, waitLoop (tickAt (started - clearedAt)) (UInt32.ofNat cycles) clearedAt costs now =
      some (later, last) ∧ later <:+ costs ∧
      costs.length ≤ later.length + (cycles - (now - started)) := by
  induction costs generalizing now with
  | nil => exact absurd enough (by rw [List.length_nil]; omega)
  | cons cost costs ih =>
      obtain ⟨one, rest⟩ := List.forall_mem_cons.mp quick
      obtain ⟨some, others⟩ := List.forall_mem_cons.mp passes
      rw [List.length_cons] at enough
      have near : now + cost < started + 2 ^ 32 := by omega
      rw [waitLoop]
      split_ifs with waiting
      · rw [cyclesSince_lt_iff cleared (by omega) near (by omega)] at waiting
        obtain ⟨later, last, returned, suffix, used⟩ :=
          ih (by omega) waiting rest others (by omega)
        refine ⟨later, last, returned, suffix.trans (List.suffix_cons _ _), ?_⟩
        rw [List.length_cons]
        omega
      · refine ⟨costs, now + cost, rfl, List.suffix_cons _ _, ?_⟩
        rw [List.length_cons]
        omega

end Waiting

section Calls

variable {s t : Ws2812Core}

/-- What does not change while bits are sent, and what is written: with interrupts masked if they
were masked before. -/
structure SameCore (s t : Ws2812Core) : Prop where
  hardwareReady : t.hardwareReady = s.hardwareReady
  clearedAt : t.clearedAt = s.clearedAt
  delays : t.delays = s.delays
  primask : t.primask = s.primask
  quick : IsQuick s.costs → IsQuick t.costs
  written : ∃ added, t.writes = s.writes ++ added ∧ ∀ write ∈ added, write.masked = s.primask

theorem SameCore.refl (s : Ws2812Core) : SameCore s s :=
  ⟨rfl, rfl, rfl, rfl, id, [], (List.append_nil _).symm, fun _ listed => absurd listed List.not_mem_nil⟩

theorem SameCore.trans {u : Ws2812Core} (first : SameCore s t) (second : SameCore t u) :
    SameCore s u where
  hardwareReady := second.hardwareReady.trans first.hardwareReady
  clearedAt := second.clearedAt.trans first.clearedAt
  delays := second.delays.trans first.delays
  primask := second.primask.trans first.primask
  quick quick := second.quick (first.quick quick)
  written := by
    obtain ⟨added, writes, masked⟩ := first.written
    obtain ⟨later, writes', masked'⟩ := second.written
    refine ⟨added ++ later, ?_, ?_⟩
    · rw [writes', writes, List.append_assoc]
    · intro write listed
      rcases List.mem_append.mp listed with earlier | new
      · exact masked write earlier
      · exact (masked' write new).trans first.primask

/-- Without a write of the data line. -/
theorem SameCore.quiet (hardwareReady : t.hardwareReady = s.hardwareReady)
    (clearedAt : t.clearedAt = s.clearedAt) (delays : t.delays = s.delays)
    (primask : t.primask = s.primask) (quick : IsQuick s.costs → IsQuick t.costs)
    (writes : t.writes = s.writes) : SameCore s t :=
  ⟨hardwareReady, clearedAt, delays, primask, quick, [], writes.trans (List.append_nil _).symm,
    fun _ listed => absurd listed List.not_mem_nil⟩

theorem coreAccess_returns (returned : coreAccess s = some ((), t)) :
    ∃ cost later, s.costs = cost :: later ∧ t = { s with now := s.now + cost, costs := later } := by
  rw [coreAccess] at returned
  cases costs : s.costs with
  | nil =>
      rw [costs] at returned
      cases returned
  | cons cost later =>
      rw [costs] at returned
      cases returned
      exact ⟨cost, later, rfl, rfl⟩

/-- An access takes five cycles at most. -/
theorem coreAccess_quick (quick : IsQuick s.costs) (returned : coreAccess s = some ((), t)) :
    SameCore s t ∧ t.writes = s.writes ∧ s.now ≤ t.now ∧ t.now ≤ s.now + 5 := by
  obtain ⟨cost, later, costs, rfl⟩ := coreAccess_returns returned
  rw [costs] at quick
  obtain ⟨one, rest⟩ := List.forall_mem_cons.mp quick
  exact ⟨.quiet rfl rfl rfl rfl (fun _ => rest) rfl, rfl, Nat.le_add_right _ _,
    Nat.add_le_add_left one _⟩

/-- **A write of the data line.** -/
theorem driveDin_returns {level : Bool} (quick : IsQuick s.costs)
    (returned : driveDin level s = some ((), t)) :
    SameCore s t ∧ t.writes = s.writes ++ [⟨level, t.now, s.primask⟩] ∧ s.now ≤ t.now ∧
      t.now ≤ s.now + 5 := by
  obtain ⟨_, after, access, rest⟩ := ComponentCall.bind_eq_some returned
  obtain ⟨same, writes, early, late⟩ := coreAccess_quick quick access
  cases rest
  have added : after.writes ++ [⟨level, after.now, after.primask⟩] =
      s.writes ++ [⟨level, after.now, s.primask⟩] := by
    rw [writes, same.primask]
  refine ⟨⟨same.hardwareReady, same.clearedAt, same.delays, same.primask, same.quick, _, added, ?_⟩,
    added, early, late⟩
  intro write listed
  rw [List.mem_singleton.mp listed]

/-- **`wait_cycles`** takes at least its cycles, and nine more at most. -/
theorem waitCycles_returns {cycles : Nat} (positive : 0 < cycles) (small : cycles + 5 < 2 ^ 32)
    (cleared : s.clearedAt ≤ s.now) (quick : IsQuick s.costs)
    (returned : waitCycles (UInt32.ofNat cycles) s = some ((), t)) :
    SameCore s t ∧ t.writes = s.writes ∧ s.now + cycles ≤ t.now ∧ t.now < s.now + cycles + 10 := by
  obtain ⟨startedAt, read, counted, rest⟩ := ComponentCall.bind_eq_some returned
  obtain ⟨_, accessed, access, counter⟩ := ComponentCall.bind_eq_some counted
  obtain ⟨same, writes, early, late⟩ := coreAccess_quick quick access
  cases counter
  obtain ⟨⟨later, last⟩, waited, ended⟩ := Option.map_eq_some_iff.mp rest
  cases ended
  obtain ⟨quick', enough, soon⟩ := waitLoop_returns (by rw [same.clearedAt]; omega)
    (Nat.le_refl _) (by omega) small (same.quick quick) waited
  refine ⟨.quiet same.hardwareReady same.clearedAt same.delays same.primask (fun _ => quick') writes,
    writes, ?_, ?_⟩
  · show s.now + cycles ≤ last
    omega
  · show last < s.now + cycles + 10
    omega

/-- The cycles of `highCycles` and `lowCycles`, as numbers. -/
theorem cycles_eq (one : Bool) :
    highCycles one = UInt32.ofNat (if one then 105 else 48) ∧
      lowCycles one = UInt32.ofNat (if one then 105 else 150) := by
  cases one <;> exact ⟨rfl, rfl⟩

variable {timing : LedTiming} (compliant : timing.IsCompliant)
include compliant

/-- **A bit is sent**: every interval is in its window, so that the LED reads the bit and expects the
next one. -/
theorem bitSent {one : Bool} {bits : List Bool} {shown : List LedColour}
    (expects : (Led.watching timing s.writes).Expects timing s.now bits shown)
    (cleared : s.clearedAt ≤ s.now) (quick : IsQuick s.costs)
    (returned : transmitBit one s = some ((), t)) :
    SameCore s t ∧ s.now ≤ t.now ∧
      (Led.watching timing t.writes).Expects timing t.now (bits ++ [one]) shown := by
  obtain ⟨zero, ones, low, _⟩ := compliant
  obtain ⟨high, lows⟩ := cycles_eq one
  obtain ⟨_, raised, raise, rest⟩ := ComponentCall.bind_eq_some returned
  obtain ⟨same₁, writes₁, early₁, late₁⟩ := driveDin_returns quick raise
  obtain ⟨_, held, hold, rest⟩ := ComponentCall.bind_eq_some rest
  rw [high] at hold
  obtain ⟨same₂, writes₂, early₂, late₂⟩ := waitCycles_returns (by split <;> omega)
    (by split <;> omega) (by rw [same₁.clearedAt]; omega) (same₁.quick quick) hold
  obtain ⟨_, lowered, lower, rest⟩ := ComponentCall.bind_eq_some rest
  have same₁₂ := same₁.trans same₂
  obtain ⟨same₃, writes₃, early₃, late₃⟩ := driveDin_returns (same₁₂.quick quick) lower
  have same₁₃ := same₁₂.trans same₃
  rw [lows] at rest
  obtain ⟨same₄, writes₄, early₄, late₄⟩ := waitCycles_returns (by split <;> omega)
    (by split <;> omega) (by rw [same₁₃.clearedAt]; omega) (same₁₃.quick quick) rest
  refine ⟨same₁₃.trans same₄, by omega, ?_⟩
  rw [writes₄, writes₃, writes₂, writes₁, List.append_assoc, Led.watching_append]
  refine expects.pulse early₁ late₁ (by omega) ?_ ?_
  · cases one with
    | false =>
        rw [if_neg Bool.false_ne_true] at early₂ late₂
        exact iff_of_false (by omega) Bool.false_ne_true
    | true =>
        rw [if_pos rfl] at early₂ late₂
        exact iff_of_true (by omega) rfl
  · cases one with
    | false =>
        rw [if_neg Bool.false_ne_true] at early₄ late₄
        omega
    | true =>
        rw [if_pos rfl] at early₄ late₄
        omega

/-- **Bit after bit** is sent. -/
theorem bitsSent {frame : Bytes} {indices : List Nat} {bits : List Bool} {shown : List LedColour}
    (expects : (Led.watching timing s.writes).Expects timing s.now bits shown)
    (cleared : s.clearedAt ≤ s.now) (quick : IsQuick s.costs)
    (returned : transmitBits frame indices s = some ((), t)) :
    SameCore s t ∧ s.now ≤ t.now ∧
      (Led.watching timing t.writes).Expects timing t.now (bits ++ indices.map (frameBit frame))
        shown := by
  induction indices generalizing s bits with
  | nil =>
      obtain ⟨_, rfl⟩ := ComponentCall.pure_eq_some returned
      rw [List.map_nil, List.append_nil]
      exact ⟨.refl t, Nat.le_refl _, expects⟩
  | cons index indices ih =>
      obtain ⟨_, middle, sent, rest⟩ := ComponentCall.bind_eq_some returned
      obtain ⟨same, later, expects'⟩ := bitSent compliant expects cleared quick sent
      obtain ⟨same', later', expects''⟩ := ih expects' (by rw [same.clearedAt]; omega)
        (same.quick quick) rest
      refine ⟨same.trans same', Nat.le_trans later later', ?_⟩
      rw [List.map_cons, List.append_cons]
      exact expects''

end Calls

/-! ## Frames -/

/-- The bits of a byte, the most significant one first. -/
def bitsOfByte (byte : UInt8) : List Bool :=
  (List.range 8).map fun index => byte &&& UInt8.ofNat (0x80 >>> index) != 0

set_option maxRecDepth 4000 in
/-- **The bits of a byte spell it.** -/
theorem byteOfBits_bitsOfByte (byte : UInt8) : byteOfBits (bitsOfByte byte) = byte := by
  have checked : ∀ number : Fin 256,
      byteOfBits (bitsOfByte (UInt8.ofNat number.val)) = UInt8.ofNat number.val := by
    decide +kernel
  have same := checked ⟨byte.toNat, byte.toNat_lt⟩
  rwa [UInt8.ofNat_toNat] at same

theorem length_bitsOfByte (byte : UInt8) : (bitsOfByte byte).length = 8 := by
  rw [bitsOfByte, List.length_map, List.length_range]

/-- **The bits of a frame** are those of its bytes. -/
theorem frameBits_eq (red green blue : UInt8) :
    (List.range ws2812DataBits).map (frameBit (ws2812Encode red green blue)) =
      bitsOfByte green ++ bitsOfByte red ++ bitsOfByte blue := rfl

/-- **A frame spells its colour**: green comes first. -/
theorem colourOfBits_frame (red green blue : UInt8) :
    colourOfBits ((List.range ws2812DataBits).map (frameBit (ws2812Encode red green blue))) =
      some (red, green, blue) := by
  have first := length_bitsOfByte green
  have second := length_bitsOfByte red
  have third := length_bitsOfByte blue
  have greens : (bitsOfByte green ++ (bitsOfByte red ++ bitsOfByte blue)).take 8 =
      bitsOfByte green := List.take_left' first
  have reds : ((bitsOfByte green ++ (bitsOfByte red ++ bitsOfByte blue)).drop 8).take 8 =
      bitsOfByte red := by
    rw [List.drop_left' first]
    exact List.take_left' second
  have blues : (bitsOfByte green ++ (bitsOfByte red ++ bitsOfByte blue)).drop 16 =
      bitsOfByte blue := by
    rw [← List.append_assoc]
    apply List.drop_left'
    rw [List.length_append, first, second]
  rw [frameBits_eq, colourOfBits, if_pos, List.append_assoc, greens, reds, blues,
    byteOfBits_bitsOfByte, byteOfBits_bitsOfByte, byteOfBits_bitsOfByte]
  rw [List.length_append, List.length_append, first, second, third]
  rfl

/-! ## Transmissions -/

/-- Every delay takes a millisecond or longer. -/
def AreResets (delays : List Nat) : Prop := ∀ delay ∈ delays, 168000 ≤ delay

/-- **The line is in order**: the LED has settled and has shown these colours, and every pulse has
been sent with interrupts masked. -/
structure LineInOrder (timing : LedTiming) (primask : Bool) (s : Ws2812Core)
    (shown : List LedColour) : Prop where
  settled : (Led.watching timing s.writes).Settled timing s.now shown
  cleared : s.clearedAt ≤ s.now
  quick : IsQuick s.costs
  resets : AreResets s.delays
  primask : s.primask = primask
  masked : ∀ write ∈ s.writes, write.level = true → write.masked = true

section Transmissions

variable {timing : LedTiming} {primask : Bool} {s t : Ws2812Core} {shown : List LedColour}

theorem resetDelay_returns (returned : resetDelay s = some ((), t)) :
    ∃ delay later, s.delays = delay :: later ∧
      t = { s with now := s.now + delay, delays := later } := by
  rw [resetDelay] at returned
  cases delays : s.delays with
  | nil =>
      rw [delays] at returned
      cases returned
  | cons delay later =>
      rw [delays] at returned
      cases returned
      exact ⟨delay, later, rfl, rfl⟩

/-- A delay of the LED that waits. -/
theorem LineInOrder.delayed (order : LineInOrder timing primask s shown)
    (returned : resetDelay s = some ((), t)) : LineInOrder timing primask t shown := by
  obtain ⟨delay, later, delays, rfl⟩ := resetDelay_returns returned
  have resets := order.resets
  rw [delays] at resets
  exact ⟨order.settled.later (Nat.le_add_right _ _),
    Nat.le_trans order.cleared (Nat.le_add_right _ _), order.quick,
    (List.forall_mem_cons.mp resets).2, order.primask, order.masked⟩

/-- A low write of the line of an LED that waits. -/
theorem LineInOrder.lowered (order : LineInOrder timing primask s shown)
    (returned : driveDin false s = some ((), t)) : LineInOrder timing primask t shown := by
  obtain ⟨same, writes, early, _⟩ := driveDin_returns order.quick returned
  refine ⟨?_, ?_, same.quick order.quick, ?_, same.primask.trans order.primask, ?_⟩
  · rw [writes, Led.watching_append, List.foldl_cons, List.foldl_nil,
      Led.see_low order.settled.low]
    exact order.settled.later early
  · rw [same.clearedAt]
    exact Nat.le_trans order.cleared early
  · rw [same.delays]
    exact order.resets
  · rw [writes]
    intro write listed raised
    rcases List.mem_append.mp listed with earlier | new
    · exact order.masked write earlier raised
    · rw [List.mem_singleton.mp new] at raised
      cases raised

/-- The counter is cleared. -/
theorem LineInOrder.cleared_again (order : LineInOrder timing primask s shown)
    (returned : coreAccess s = some ((), t)) :
    LineInOrder timing primask { t with clearedAt := t.now } shown := by
  obtain ⟨same, writes, early, _⟩ := coreAccess_quick order.quick returned
  refine ⟨?_, Nat.le_refl _, same.quick order.quick, ?_, same.primask.trans order.primask, ?_⟩
  · show (Led.watching timing t.writes).Settled timing t.now shown
    rw [writes]
    exact order.settled.later early
  · show AreResets t.delays
    rw [same.delays]
    exact order.resets
  · show ∀ write ∈ t.writes, write.level = true → write.masked = true
    rw [writes]
    exact order.masked

/-- **`transmit`** shows its colour if the hardware is ready, and restores PRIMASK. -/
theorem LineInOrder.transmitted (compliant : timing.IsCompliant) {red green blue : UInt8}
    {sent : Bool} (order : LineInOrder timing primask s shown)
    (returned : ws2812Transmit red green blue s = some (sent, t)) :
    sent = s.hardwareReady ∧ t.hardwareReady = s.hardwareReady ∧
      LineInOrder timing primask t (shown ++ if sent then [(red, green, blue)] else []) := by
  rw [ws2812Transmit, ComponentCall.get_bind] at returned
  split_ifs at returned with ready
  · obtain ⟨_, lowered, lower, rest⟩ := ComponentCall.bind_eq_some returned
    obtain ⟨_, waited, wait, rest⟩ := ComponentCall.bind_eq_some rest
    rw [ComponentCall.get_bind, ComponentCall.modify_bind] at rest
    obtain ⟨_, bits, send, rest⟩ := ComponentCall.bind_eq_some rest
    rw [ComponentCall.modify_bind] at rest
    obtain ⟨_, last, wait', rest⟩ := ComponentCall.bind_eq_some rest
    obtain ⟨rfl, rfl⟩ := ComponentCall.pure_eq_some rest
    have same := (driveDin_returns order.quick lower).1
    have order' := (order.lowered lower).delayed wait
    have ready' : waited.hardwareReady = s.hardwareReady := by
      obtain ⟨_, _, _, rfl⟩ := resetDelay_returns wait
      exact same.hardwareReady
    obtain ⟨sentSame, later, expects⟩ :=
      @bitsSent { waited with primask := true } bits timing compliant _ _ _ _
        order'.settled.expects order'.cleared order'.quick send
    obtain ⟨delay, delays, held, rfl⟩ := resetDelay_returns wait'
    have resets : AreResets (delay :: delays) := by
      rw [← held]
      show AreResets bits.delays
      rw [sentSame.delays]
      exact order'.resets
    obtain ⟨long, resets⟩ := List.forall_mem_cons.mp resets
    refine ⟨ready.symm, sentSame.hardwareReady.trans ready', ?_, ?_,
      sentSame.quick order'.quick, resets, order'.primask, ?_⟩
    · have shows := expects.settled (List.cons_ne_nil _ _)
        (Nat.add_le_add_left (Nat.le_trans compliant.reset long) bits.now)
      rw [List.nil_append, colourOfBits_frame] at shows
      exact shows
    · show bits.clearedAt ≤ bits.now + delay
      rw [sentSame.clearedAt]
      exact Nat.le_trans order'.cleared (Nat.le_trans later (Nat.le_add_right _ _))
    · show ∀ write ∈ bits.writes, write.level = true → write.masked = true
      obtain ⟨added, writes, masked⟩ := sentSame.written
      rw [writes]
      intro write listed raised
      rcases List.mem_append.mp listed with earlier | new
      · exact order'.masked write earlier raised
      · exact masked write new
  · obtain ⟨rfl, rfl⟩ := ComponentCall.pure_eq_some returned
    rw [if_neg Bool.false_ne_true, List.append_nil]
    exact ⟨(eq_false_of_ne_true ready).symm, rfl, order⟩

/-- **`initialize_hardware`** shows nothing. -/
theorem LineInOrder.initialized {clockExpected counterEnabled ready : Bool}
    (order : LineInOrder timing primask s shown)
    (returned : ws2812InitializeHardware clockExpected counterEnabled s = some (ready, t)) :
    LineInOrder timing primask t shown := by
  rw [ws2812InitializeHardware] at returned
  split_ifs at returned with expected enabled
  · obtain ⟨_, lowered, lower, rest⟩ := ComponentCall.bind_eq_some returned
    obtain ⟨_, cleared, clear, rest⟩ := ComponentCall.bind_eq_some rest
    rw [ComponentCall.modify_bind] at rest
    obtain ⟨_, last, wait, rest⟩ := ComponentCall.bind_eq_some rest
    obtain ⟨rfl, rfl⟩ := ComponentCall.pure_eq_some rest
    exact ((order.lowered lower).cleared_again clear).delayed wait
  · obtain ⟨_, lowered, lower, rest⟩ := ComponentCall.bind_eq_some returned
    obtain ⟨_, cleared, clear, rest⟩ := ComponentCall.bind_eq_some rest
    rw [ComponentCall.modify_bind] at rest
    obtain ⟨rfl, rfl⟩ := ComponentCall.pure_eq_some rest
    exact (order.lowered lower).cleared_again clear
  · obtain ⟨rfl, rfl⟩ := ComponentCall.pure_eq_some returned
    exact order

end Transmissions

/-! ## Time passes -/

/-- The core can make a number of accesses, and time passes in each. -/
structure CanAccess (count : Nat) (s : Ws2812Core) : Prop where
  cleared : s.clearedAt ≤ s.now
  quick : IsQuick s.costs
  passes : ∀ cost ∈ s.costs, 1 ≤ cost
  enough : count ≤ s.costs.length

section TimePasses

variable {s : Ws2812Core} {count : Nat}

theorem CanAccess.access (can : CanAccess (count + 1) s) :
    ∃ t, coreAccess s = some ((), t) ∧ CanAccess count t ∧ t.delays = s.delays ∧
      t.clearedAt = s.clearedAt := by
  obtain ⟨cleared, quick, passes, enough⟩ := can
  cases costs : s.costs with
  | nil =>
      rw [costs] at enough
      exact absurd enough (Nat.not_succ_le_zero _)
  | cons cost later =>
      rw [costs] at quick passes enough
      refine ⟨{ s with now := s.now + cost, costs := later }, ?_, ⟨?_, ?_, ?_, ?_⟩, rfl, rfl⟩
      · rw [coreAccess, costs]
      · exact Nat.le_trans cleared (Nat.le_add_right _ _)
      · exact (List.forall_mem_cons.mp quick).2
      · exact (List.forall_mem_cons.mp passes).2
      · exact Nat.le_of_succ_le_succ enough

theorem CanAccess.driveDin (can : CanAccess (count + 1) s) (level : Bool) :
    ∃ t, driveDin level s = some ((), t) ∧ CanAccess count t ∧ t.delays = s.delays := by
  obtain ⟨t, accessed, can', delays, _⟩ := can.access
  refine ⟨_, ComponentCall.bind_of_returned accessed, ?_, delays⟩
  exact ⟨can'.cleared, can'.quick, can'.passes, can'.enough⟩

theorem CanAccess.waitCycles {cycles : Nat} (can : CanAccess (count + cycles + 1) s)
    (positive : 0 < cycles) (small : cycles + 5 < 2 ^ 32) :
    ∃ t, waitCycles (UInt32.ofNat cycles) s = some ((), t) ∧ CanAccess count t ∧
      t.delays = s.delays := by
  obtain ⟨middle, accessed, can', delays, _⟩ := can.access
  have counted : cycleCount s = some (tickAt (middle.now - middle.clearedAt), middle) :=
    ComponentCall.bind_of_returned accessed
  obtain ⟨later, last, waited, suffix, used⟩ := exists_waitLoop can'.cleared (Nat.le_refl _)
    (by omega) small can'.quick can'.passes (by have := can'.enough; omega)
  have onward : middle.now ≤ last := by
    have := (waitLoop_returns can'.cleared (Nat.le_refl _) (by omega) small can'.quick waited).2.1
    omega
  refine ⟨{ middle with costs := later, now := last }, ?_, ⟨?_, ?_, ?_, ?_⟩, delays⟩
  · rw [Firmware.waitCycles, ComponentCall.bind_of_returned counted, waited]
    rfl
  · exact Nat.le_trans can'.cleared onward
  · exact fun cost listed => can'.quick cost (suffix.mem listed)
  · exact fun cost listed => can'.passes cost (suffix.mem listed)
  · have enough := can'.enough
    show count ≤ later.length
    omega

theorem CanAccess.transmitBit (can : CanAccess (count + 214) s) (one : Bool) :
    ∃ t, transmitBit one s = some ((), t) ∧ CanAccess count t ∧ t.delays = s.delays := by
  obtain ⟨high, low⟩ := cycles_eq one
  have more : CanAccess (count + (if one then 105 else 150) + 1 + 1 + (if one then 105 else 48) +
      1 + 1) s := ⟨can.cleared, can.quick, can.passes, by have := can.enough; split <;> omega⟩
  obtain ⟨raised, raise, can, delays₁⟩ := more.driveDin true
  obtain ⟨held, hold, can, delays₂⟩ :=
    can.waitCycles (by split <;> omega) (by split <;> omega)
  obtain ⟨lowered, lower, can, delays₃⟩ := can.driveDin false
  obtain ⟨last, wait, can, delays₄⟩ :=
    can.waitCycles (by split <;> omega) (by split <;> omega)
  rw [← high] at hold
  rw [← low] at wait
  refine ⟨last, ?_, can, delays₄.trans (delays₃.trans (delays₂.trans delays₁))⟩
  rw [Firmware.transmitBit, ComponentCall.bind_of_returned raise,
    ComponentCall.bind_of_returned hold, ComponentCall.bind_of_returned lower, wait]

theorem CanAccess.transmitBits {frame : Bytes} {indices : List Nat}
    (can : CanAccess (count + 214 * indices.length) s) :
    ∃ t, transmitBits frame indices s = some ((), t) ∧ CanAccess count t ∧
      t.delays = s.delays := by
  induction indices generalizing s with
  | nil => exact ⟨s, rfl, can, rfl⟩
  | cons index indices ih =>
      rw [List.length_cons, Nat.mul_succ, ← Nat.add_assoc] at can
      obtain ⟨middle, sent, can, delays⟩ := can.transmitBit (frameBit frame index)
      obtain ⟨t, rest, can, delays'⟩ := ih can
      refine ⟨t, ?_, can, delays'.trans delays⟩
      rw [Firmware.transmitBits, ComponentCall.bind_of_returned sent, rest]

/-- **`transmit` returns** if time passes. -/
theorem exists_ws2812Transmit (can : CanAccess (214 * ws2812DataBits + 1) s)
    (delays : 2 ≤ s.delays.length) (red green blue : UInt8) :
    ∃ t, ws2812Transmit red green blue s = some (s.hardwareReady, t) := by
  rw [ws2812Transmit, ComponentCall.get_bind]
  split_ifs with ready
  · obtain ⟨first, second, others, held⟩ : ∃ first second others,
        s.delays = first :: second :: others := by
      match s.delays, delays with
      | first :: second :: others, _ => exact ⟨first, second, others, rfl⟩
    obtain ⟨lowered, lower, can, same⟩ := can.driveDin false
    rw [held] at same
    have waited : resetDelay lowered = some ((), { lowered with
        now := lowered.now + first, delays := second :: others }) := by
      rw [resetDelay, same]
    have can' : CanAccess (0 + 214 * (List.range ws2812DataBits).length) { lowered with
        now := lowered.now + first, delays := second :: others, primask := true } := by
      rw [Nat.zero_add, List.length_range]
      exact ⟨Nat.le_trans can.cleared (Nat.le_add_right _ _), can.quick, can.passes, can.enough⟩
    obtain ⟨bits, send, _, same'⟩ :=
      @CanAccess.transmitBits _ 0 (ws2812Encode red green blue) _ can'
    have waited' : ∀ primask : Bool, resetDelay { bits with primask := primask } = some ((),
        { bits with primask := primask, now := bits.now + second, delays := others }) := by
      intro primask
      rw [resetDelay]
      dsimp only
      rw [same']
    refine ⟨{ bits with
      primask := lowered.primask, now := bits.now + second, delays := others }, ?_⟩
    rw [ComponentCall.bind_of_returned lower, ComponentCall.bind_of_returned waited,
      ComponentCall.get_bind, ComponentCall.modify_bind, ComponentCall.bind_of_returned send,
      ComponentCall.modify_bind, ComponentCall.bind_of_returned (waited' lowered.primask), ready]
    rfl
  · refine ⟨s, ?_⟩
    rw [eq_false_of_ne_true ready]
    rfl

end TimePasses

/-! ## The LED and the test -/

/-- A call of the test on the hardware, with its result. -/
inductive RgbHardwareCall where
  | initializeHardware (ready : Bool)
  | transmit (red green blue : UInt8) (sent : Bool)

/-- The calls on the core. The test clears and stores `hardware_ready`. -/
inductive CoreCalled : Ws2812Core → RgbHardwareCall → Ws2812Core → Prop where
  | initializeHardware {s t : Ws2812Core} {clockExpected counterEnabled ready : Bool}
      (returned : ws2812InitializeHardware clockExpected counterEnabled
        { s with hardwareReady := false } = some (ready, t)) :
      CoreCalled s (.initializeHardware ready) { t with hardwareReady := ready }
  | transmit {s t : Ws2812Core} {red green blue : UInt8} {sent : Bool}
      (returned : ws2812Transmit red green blue s = some (sent, t)) :
      CoreCalled s (.transmit red green blue sent) t

/-- The same calls as the test sees them. -/
inductive RgbCalled : RgbLedTest → RgbHardwareCall → RgbLedTest → Prop where
  | initializeHardware (test : RgbLedTest) (ready : Bool) :
      RgbCalled test (.initializeHardware ready) { test with hardwareReady := ready }
  | transmit {test test' : RgbLedTest} {red green blue : UInt8} {sent : Bool}
      (returned : rgbTransmit red green blue test = some (sent, test')) :
      RgbCalled test (.transmit red green blue sent) test'

/-- A core that displays what the test has transmitted. -/
structure Displays (timing : LedTiming) (primask : Bool) (s : Ws2812Core) (test : RgbLedTest) :
    Prop where
  ready : test.hardwareReady = s.hardwareReady
  order : LineInOrder timing primask s test.transmitted

section Displays

variable {timing : LedTiming} {primask : Bool} {s t : Ws2812Core} {test : RgbLedTest}
  {call : RgbHardwareCall}

/-- **A call on the core** is one of the test. -/
theorem Displays.called (compliant : timing.IsCompliant) (displays : Displays timing primask s test)
    (called : CoreCalled s call t) :
    ∃ test', RgbCalled test call test' ∧ Displays timing primask t test' := by
  obtain ⟨ready, order⟩ := displays
  cases called with
  | @initializeHardware t _ _ result returned =>
      have unready : LineInOrder timing primask { s with hardwareReady := false }
          test.transmitted :=
        ⟨order.settled, order.cleared, order.quick, order.resets, order.primask, order.masked⟩
      have after := unready.initialized returned
      exact ⟨_, .initializeHardware test result, rfl, after.settled, after.cleared, after.quick,
        after.resets, after.primask, after.masked⟩
  | @transmit _ red green blue sent returned =>
      obtain ⟨rfl, same, order'⟩ := order.transmitted compliant returned
      rw [← ready] at order' ⊢
      refine ⟨if test.hardwareReady then
        { test with transmitted := test.transmitted ++ [(red, green, blue)] } else test, .transmit ?_,
        ?_, ?_⟩
      · rw [rgbTransmit, ComponentCall.get_bind]
        split_ifs with set
        · exact congrArg (fun sent => some (sent, _)) set.symm
        · exact congrArg (fun sent => some (sent, _)) (eq_false_of_ne_true set).symm
      · rw [same, ← ready]
        split_ifs <;> rfl
      · split_ifs at order' ⊢ with set
        · exact order'
        · rw [List.append_nil] at order'
          exact order'

/-- The core after a reset: the line has never been driven. -/
structure Ws2812Core.IsReset (s : Ws2812Core) : Prop where
  ready : s.hardwareReady = false
  cleared : s.clearedAt ≤ s.now
  writes : s.writes = []

/-- **The LED shows what the test transmits**, in every run of `initialize_hardware` and `transmit`
after a reset in which no two accesses are more than five cycles apart: exactly the colours that have
been transmitted with success, in order. Every pulse is sent with interrupts masked, and PRIMASK is
restored. -/
theorem led_shows_transmitted (compliant : timing.IsCompliant) (reset : s.IsReset)
    (quick : IsQuick s.costs) (resets : AreResets s.delays) (dark : test.transmitted = [])
    (unready : test.hardwareReady = false) {calls : List RgbHardwareCall}
    (run : Run CoreCalled s calls t) :
    ∃ test', Run RgbCalled test calls test' ∧
      ((Led.watching timing t.writes).settle timing t.now).shown = test'.transmitted ∧
      t.primask = s.primask ∧
      ∀ write ∈ t.writes, write.level = true → write.masked = true := by
  have first : Displays timing s.primask s test := by
    refine ⟨unready.trans reset.ready.symm, ?_, reset.cleared, quick, resets, rfl, ?_⟩
    · rw [reset.writes, dark]
      refine ⟨rfl, Nat.zero_le _, ?_, ?_⟩
      · rw [Led.settle]
        split_ifs <;> rfl
      · rw [Led.settle]
        split_ifs <;> rfl
    · rw [reset.writes]
      exact fun _ listed => absurd listed List.not_mem_nil
  obtain ⟨test', run', displays⟩ : ∃ test', Run RgbCalled test calls test' ∧
      Displays timing s.primask t test' := by
    clear quick resets reset dark unready
    induction run with
    | refl => exact ⟨test, .refl test, first⟩
    | tail _ called ih =>
        obtain ⟨middle, run', displays⟩ := ih
        obtain ⟨test', called', displays'⟩ := displays.called compliant called
        exact ⟨test', run'.tail called', displays'⟩
  exact ⟨test', run', displays.order.settled.shown, displays.order.primask, displays.order.masked⟩

end Displays

/-- A core whose accesses take three cycles each. -/
def steadyCore : Ws2812Core where
  hardwareReady := false
  now := 4294967000
  clearedAt := 0
  costs := List.replicate 6000 3
  delays := [168000, 168000, 200000]
  primask := false
  writes := []

/-- The core after `initialize_hardware`. -/
def readyCore : Ws2812Core where
  hardwareReady := true
  now := 4295135006
  clearedAt := 4294967006
  costs := List.replicate 5998 3
  delays := [168000, 200000]
  primask := false
  writes := [⟨false, 4294967003, false⟩]

/-- The test before its first run. -/
def darkRgbLed : RgbLedTest where
  hardwareReady := false
  transmissionFailed := false
  state := .colourReady
  latestEvent := { kind := .message, name := none }
  initResults := []
  transmitted := []

/-- A typical LED: it takes a pulse of 80 cycles for a one, and shows a colour after 280 µs. -/
def typicalTiming : LedTiming := ⟨80, 47040⟩

theorem canAccess_readyCore : CanAccess (214 * ws2812DataBits + 1) readyCore where
  cleared := by decide
  quick cost listed := by
    rw [List.eq_of_mem_replicate listed]
    decide
  passes cost listed := by
    rw [List.eq_of_mem_replicate listed]
    decide
  enough := by
    rw [readyCore, List.length_replicate]
    decide

/-- The LED shows the colour of a request. -/
theorem led_shows_transmitted_typical : ∃ t,
    Run CoreCalled steadyCore [.initializeHardware true, .transmit 40 220 200 true] t ∧
    ((Led.watching typicalTiming t.writes).settle typicalTiming t.now).shown = [(40, 220, 200)] := by
  obtain ⟨t, sent⟩ := exists_ws2812Transmit canAccess_readyCore (Nat.le_refl 2) 40 220 200
  have ready : ws2812InitializeHardware true true steadyCore =
      some (true, { readyCore with hardwareReady := false }) := rfl
  have run : Run CoreCalled steadyCore [.initializeHardware true, .transmit 40 220 200 true] t :=
    .head (.initializeHardware ready) (.single (.transmit sent))
  have quick : IsQuick steadyCore.costs := by
    intro cost listed
    rw [List.eq_of_mem_replicate listed]
    decide
  have resets : AreResets steadyCore.delays := by
    intro delay listed
    revert delay
    decide
  obtain ⟨test, calls, shown, _⟩ := @led_shows_transmitted typicalTiming steadyCore t
    darkRgbLed (by constructor <;> decide) ⟨rfl, by decide, rfl⟩ quick
    resets rfl rfl _ run
  obtain ⟨middle, first, last⟩ := @Run.of_concat _ RgbHardwareCall _ _ _ [.initializeHardware true] _ calls
  obtain ⟨start, none, called⟩ := @Run.of_concat _ _ _ _ _ [] _ first
  obtain rfl := none.of_nil
  cases called
  cases last with
  | transmit returned =>
      cases returned
      exact ⟨t, run, shown⟩

end FlightComputer.Firmware
