import FlightComputer.BoardTester.Connection
import Mathlib.Algebra.Order.Group.Int
import Mathlib.Algebra.Ring.Int.Defs

/-!
# Waiting for the USB port of the board

`wait_for_cdc_port` (`connection.py`): after the reset, the serial ports are listed again and again
until one of them is the board or a deadline has passed. What each listing and each reading of the
clock comes to is given by its number (`Surroundings`); the listing with a number is made before
the reading after it.

The port that is returned was the only one that matches, in the first listing in which any port
matched (`searchPorts_ok`). If times are exact numbers, sleeping takes as long as asked and a listing
does not take too long, then a board that appears in time is found, within a number of listings
that is known in advance (`board_is_found`).

`description` and `serial_number` of a port are left out, as nothing depends on them, and so is the
order of the listed ports.
-/

set_option autoImplicit false

namespace FlightComputer.BoardTester

open Library

/-! ## The search -/

/-- `SerialPort` -/
structure SerialPort where
  device : PyStr
  vid : Option Nat
  pid : Option Nat
  deriving DecidableEq

/-- What a listing comes to: the ports, or an exception of `serial` or of the system. -/
inductive PortListing where
  | ports (ports : List SerialPort)
  | failed (error : PyStr)

/-- The arguments of `wait_for_cdc_port`, and the text of the timeout in a message. -/
structure PortSearch (τ : Type) where
  requested : Option PyStr
  vid : Nat
  pid : Nat
  timeout : τ
  poll : τ
  seconds : PyStr

/-- `DEVELOPMENT_USB_VID` -/
def developmentUsbVid : Nat := 0xCAFE

/-- `DEVELOPMENT_USB_PID` -/
def developmentUsbPid : Nat := 0x4001

/-- What the listings and the readings of the clock come to. -/
structure Surroundings (τ : Type) where
  listing : Nat → PortListing
  clock : Nat → τ

/-- `{:04X}` -/
def fourHexDigits (number : Nat) : PyStr :=
  List.leftpad 4 '0'.toNat ((Nat.toDigits 16 number).map fun digit => digit.toUpper.toNat)

namespace PortSearch

variable {τ : Type} (search : PortSearch τ)

/-- `matches` -/
def candidates (ports : List SerialPort) : List SerialPort :=
  match search.requested with
  | some requested => ports.filter fun port => decide (port.device = requested)
  | none => ports.filter fun port =>
      decide (port.vid = some search.vid) && decide (port.pid = some search.pid)

/-- Several ports match. -/
def severalPorts (ports : List SerialPort) : TesterError :=
  transportError .discovery
    [pyStr "multiple OpenFlightComputer USB CDC ports detected (",
      (pyStr ", ").intercalate (ports.map SerialPort.device), pyStr "); select one with --port"]

/-- No port has matched in time. -/
def noPort : TesterError :=
  match search.requested with
  | some requested => transportError .discovery
      [pyStr "USB CDC port ", requested, pyStr " did not appear within ", search.seconds,
        pyStr " seconds"]
  | none => transportError .discovery
      [pyStr "no OpenFlightComputer USB CDC device with VID:PID ", fourHexDigits search.vid,
        pyStr ":", fourHexDigits search.pid, pyStr " appeared within ", search.seconds,
        pyStr " seconds"]

end PortSearch

section Search

variable {τ : Type} [LE τ] [DecidableLE τ]

/-- The loop of `wait_for_cdc_port`, from the listing with a number on and for so many listings.
Without a further listing, it has not returned. -/
def searchPorts (search : PortSearch τ) (around : Surroundings τ) (deadline : τ) :
    Nat → Nat → Option (Except TesterError SerialPort)
  | 0, _ => none
  | listings + 1, number =>
      match around.listing number with
      | .failed error => some (.error (transportError .discovery
          [pyStr "could not enumerate USB CDC ports: ", error]))
      | .ports ports =>
          match search.candidates ports with
          | [port] => some (.ok port)
          | [] =>
              if deadline ≤ around.clock (number + 1) then some (.error search.noPort)
              else searchPorts search around deadline listings (number + 1)
          | several => some (.error (PortSearch.severalPorts several))

variable [Zero τ] [Add τ] [LT τ] [DecidableLT τ]

/-- `wait_for_cdc_port` -/
def waitForCdcPort (search : PortSearch τ) (around : Surroundings τ) (listings : Nat) :
    Option (Except TesterError SerialPort) :=
  if search.timeout < 0 then
    some (.error (.value ⟨"timeout_seconds must not be negative"⟩))
  else if search.poll ≤ 0 then some (.error (.value ⟨"poll_seconds must be positive"⟩))
  else searchPorts search around (around.clock 0 + search.timeout) listings 0

end Search

/-! ## The first listing that matters -/

section First

variable {τ : Type} [LE τ]

/-- No port has matched so far, and there was time left. -/
def NothingBefore (search : PortSearch τ) (around : Surroundings τ) (deadline : τ) (number : Nat) :
    Prop :=
  ∀ earlier < number, (∃ ports, around.listing earlier = .ports ports ∧
    search.candidates ports = []) ∧ ¬deadline ≤ around.clock (earlier + 1)

theorem NothingBefore.succ {search : PortSearch τ} {around : Surroundings τ} {deadline : τ}
    {number : Nat} (nothing : NothingBefore search around deadline number) {ports : List SerialPort}
    (listed : around.listing number = .ports ports) (none : search.candidates ports = [])
    (left : ¬deadline ≤ around.clock (number + 1)) :
    NothingBefore search around deadline (number + 1) := by
  intro earlier before
  rcases Nat.lt_succ_iff_lt_or_eq.mp before with before | rfl
  · exact nothing earlier before
  · exact ⟨⟨ports, listed, none⟩, left⟩

variable [DecidableLE τ] {search : PortSearch τ} {around : Surroundings τ} {deadline : τ}
  {number : Nat} {ports : List SerialPort}

/-- Without a match, the clock decides. -/
theorem searchPorts_waits (listed : around.listing number = .ports ports)
    (none : search.candidates ports = []) (listings : Nat) :
    searchPorts search around deadline (listings + 1) number =
      if deadline ≤ around.clock (number + 1) then some (.error search.noPort)
      else searchPorts search around deadline listings (number + 1) := by
  rw [searchPorts, listed]
  simp only [none]

/-- One match is returned. -/
theorem searchPorts_found (listed : around.listing number = .ports ports) {port : SerialPort}
    (one : search.candidates ports = [port]) (listings : Nat) :
    searchPorts search around deadline (listings + 1) number = some (.ok port) := by
  rw [searchPorts, listed]
  simp only [one]

/-- **The port that is returned is not a guess**: it was the only one that matches, in the first
listing in which any port matched, and there was time left before. -/
theorem searchPorts_ok {listings : Nat} {port : SerialPort}
    (nothing : NothingBefore search around deadline number)
    (returned : searchPorts search around deadline listings number = some (.ok port)) :
    ∃ found ports, around.listing found = .ports ports ∧ search.candidates ports = [port] ∧
      NothingBefore search around deadline found := by
  induction listings generalizing number with
  | zero => cases returned
  | succ listings ih =>
      cases listed : around.listing number with
      | failed error =>
          rw [searchPorts, listed] at returned
          cases Option.some.inj returned
      | ports ports =>
          rcases matched : search.candidates ports with _ | ⟨first, _ | ⟨second, others⟩⟩
          · rw [searchPorts_waits listed matched] at returned
            by_cases passed : deadline ≤ around.clock (number + 1)
            · rw [if_pos passed] at returned
              cases Option.some.inj returned
            · rw [if_neg passed] at returned
              exact ih (nothing.succ listed matched passed) returned
          · rw [searchPorts_found listed matched] at returned
            obtain rfl := Except.ok.inj (Option.some.inj returned)
            exact ⟨number, ports, listed, matched, nothing⟩
          · rw [searchPorts, listed] at returned
            simp only [matched] at returned
            cases Option.some.inj returned

end First

/-! ## A board that appears in time -/

section Timely

variable {τ : Type} [AddCommGroup τ] [LinearOrder τ] [IsOrderedAddMonoid τ]
  {search : PortSearch τ} {around : Surroundings τ} {deadline : τ}

/-- **The time that passes**: a listing takes no longer than `longest` after it is started, and
`sleeper(min(poll_seconds, deadline - now))` takes at least as long as asked. -/
structure TimePasses (search : PortSearch τ) (around : Surroundings τ) (deadline : τ)
    (started : Nat → τ) (longest : τ) : Prop where
  first : around.clock 0 ≤ around.clock 1
  listed : ∀ number, around.clock (number + 1) ≤ started number + longest
  slept : ∀ number, around.clock (number + 1) < deadline →
    around.clock (number + 1) + min search.poll (deadline - around.clock (number + 1)) ≤
      around.clock (number + 2)

/-- **The board appears**: every listing that is started when it is ready shows it, and no listing
shows another port that matches. -/
structure Appears (search : PortSearch τ) (around : Surroundings τ) (started : Nat → τ)
    (board : SerialPort) (ready : τ) : Prop where
  listing : ∀ number, ∃ ports, around.listing number = .ports ports ∧
    (search.candidates ports = [board] ∨
      started number < ready ∧ search.candidates ports = [])

/-- While the deadline has not passed, every reading is later by the pause between listings. -/
theorem TimePasses.reading_le {started : Nat → τ} {longest : τ}
    (passes : TimePasses search around deadline started longest) {number : Nat}
    (left : ∀ earlier < number, around.clock (earlier + 1) < deadline) :
    around.clock 0 + number • search.poll ≤ around.clock (number + 1) ∨
      deadline ≤ around.clock (number + 1) := by
  induction number with
  | zero =>
      rw [zero_nsmul, add_zero]
      exact .inl passes.first
  | succ number ih =>
      have before := left number (Nat.lt_succ_self number)
      have slept := passes.slept number before
      rcases ih fun earlier less => left earlier (Nat.lt_succ_of_lt less) with reached | passed
      · rcases le_total search.poll (deadline - around.clock (number + 1)) with short | long
        · rw [min_eq_left short] at slept
          rw [succ_nsmul, ← add_assoc]
          exact .inl ((add_le_add_left reached search.poll).trans slept)
        · rw [min_eq_right long, add_sub_cancel] at slept
          exact .inr slept
      · exact absurd passed (not_le.mpr before)

/-- **The search from a listing on.** -/
theorem searchPorts_board {started : Nat → τ} {longest ready : τ} {board : SerialPort}
    (passes : TimePasses search around deadline started longest)
    (appears : Appears search around started board ready) (inTime : ready + longest ≤ deadline)
    {pauses : Nat} (enough : deadline ≤ around.clock 0 + pauses • search.poll) {listings number : Nat}
    (left : ∀ earlier < number, around.clock (earlier + 1) < deadline)
    (further : pauses < number + listings) :
    searchPorts search around deadline listings number = some (.ok board) := by
  induction listings generalizing number with
  | zero =>
      -- a listing with this number would come after the deadline
      have late : deadline ≤ around.clock (pauses + 1) := by
        rcases passes.reading_le fun earlier less => left earlier (less.trans further) with
          reached | passed
        · exact enough.trans reached
        · exact passed
      exact absurd (left pauses further) (not_lt.mpr late)
  | succ listings ih =>
      obtain ⟨ports, listed, one | ⟨early, none⟩⟩ := appears.listing number
      · exact searchPorts_found listed one listings
      · have before : around.clock (number + 1) < deadline :=
          ((passes.listed number).trans_lt (add_lt_add_left early longest)).trans_le inTime
        rw [searchPorts_waits listed none, if_neg (not_le.mpr before)]
        refine ih (fun earlier less => ?_) (by omega)
        rcases Nat.lt_succ_iff_lt_or_eq.mp less with less | rfl
        · exact left earlier less
        · exact before

/-- **A board that appears in time is found**: it is the only port that matches, at the latest in
the listings that are started when it is ready, which leaves time for one listing before the
deadline. The number of listings is at most one more than that of the pauses that fill the
timeout. -/
theorem board_is_found {started : Nat → τ} {longest ready : τ} {board : SerialPort} {pauses : Nat}
    (timeout : 0 ≤ search.timeout) (poll : 0 < search.poll)
    (passes : TimePasses search around (around.clock 0 + search.timeout) started longest)
    (appears : Appears search around started board ready)
    (inTime : ready + longest ≤ around.clock 0 + search.timeout)
    (enough : search.timeout ≤ pauses • search.poll) :
    waitForCdcPort search around (pauses + 1) = some (.ok board) := by
  rw [waitForCdcPort, if_neg (not_lt.mpr timeout), if_neg (not_le.mpr poll)]
  refine searchPorts_board passes appears inTime (add_le_add_right enough _) ?_ (by omega)
  exact fun earlier less => absurd less (Nat.not_lt_zero earlier)

end Timely

/-! ## A board that appears after the reset -/

/-- The search of `open_usb_cdc`, in milliseconds. -/
def defaultSearch : PortSearch Int where
  requested := none
  vid := developmentUsbVid
  pid := developmentUsbPid
  timeout := 10000
  poll := 250
  seconds := pyStr "10"

/-- The port of the board. -/
def boardPort : SerialPort := ⟨pyStr "COM3", some developmentUsbVid, some developmentUsbPid⟩

/-- A port that has nothing to do with the board. -/
def otherPort : SerialPort := ⟨pyStr "COM1", none, none⟩

/-- A listing takes 20 ms and is started every 250 ms, and the board is ready after 600 ms. -/
def afterReset : Surroundings Int where
  listing number :=
    .ports (if 600 ≤ 250 * (number : Int) then [otherPort, boardPort] else [otherPort])
  clock
    | 0 => 0
    | number + 1 => 250 * (number : Int) + 20

/-- The board is found after 600 ms. -/
theorem board_is_found_after_reset :
    waitForCdcPort defaultSearch afterReset 41 = some (.ok boardPort) := by
  have other : defaultSearch.candidates [otherPort] = [] := by decide
  have board : defaultSearch.candidates [otherPort, boardPort] = [boardPort] := by decide
  have passes : TimePasses defaultSearch afterReset (afterReset.clock 0 + defaultSearch.timeout)
      (fun number => 250 * (number : Int)) 20 := by
    refine ⟨by decide, fun number => le_refl _, fun number _ => ?_⟩
    refine (Int.add_le_add_left (Int.min_le_left _ _) _).trans ?_
    show 250 * (number : Int) + 20 + 250 ≤ 250 * ((number + 1 : Nat) : Int) + 20
    omega
  have appears : Appears defaultSearch afterReset (fun number => 250 * (number : Int)) boardPort
      600 := by
    refine ⟨fun number => ⟨_, rfl, ?_⟩⟩
    by_cases ready : 600 ≤ 250 * (number : Int)
    · rw [if_pos ready]
      exact .inl board
    · rw [if_neg ready]
      exact .inr ⟨not_le.mp ready, other⟩
  exact board_is_found (by decide) (by decide) passes appears (by decide) (by decide)

end FlightComputer.BoardTester
