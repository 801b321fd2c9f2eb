import FlightComputer.Firmware.ReceivePath

/-!
# Lines after a receive overflow

A segment of the host's stream is undamaged when all its bytes, the line feed
included, entered the raw ring (`undamagedLines`). `cdc_receive` records a drop
at the newest end of the ring, and the flag is acted on at the oldest byte, so
the line discarded is not always the one that lost bytes
(`overflow_joins_lines`).

`DamageMode` describes what the framer makes of the history entries that the
main loop has not consumed yet. While every pop that finds the flag set meets
`DropsDiscarded`, the framer stays in a mode from which no damaged line
completes, and the lines delivered are undamaged segments, in order
(`delivered_lines_undamaged`).
-/

set_option autoImplicit false

namespace FlightComputer.Firmware

open Library

/-- Whether a byte of the host's stream ends a line. -/
def endsHostLine (entry : HostByte) : Bool := endsLine entry.1

/-- The lines of the host's stream none of whose bytes was dropped. -/
def undamagedLines (history : List HostByte) : List Bytes :=
  ((segments endsHostLine history).filter fun piece =>
    (terminated piece).all fun entry => entry.2).map fun piece =>
      withoutTrailingReturn (piece.1.map Prod.fst)

/-- The bytes of the host's current segment. -/
def currentSegment (history : List HostByte) : List HostByte := rest endsHostLine history

theorem undamagedLines_concat (history : List HostByte) (entry : HostByte) :
    undamagedLines (history ++ [entry]) = undamagedLines history ++
      if entry = (lineFeed, true) ∧ (currentSegment history).all (fun entry => entry.2) = true then
        [withoutTrailingReturn ((currentSegment history).map Prod.fst)]
      else [] := by
  obtain ⟨byte, accepted⟩ := entry
  by_cases ended : byte = lineFeed
  · subst ended
    have ends : endsHostLine (lineFeed, accepted) = true := endsLine_lineFeed
    rw [undamagedLines, segments_concat, if_pos ends, List.filter_append, List.map_append,
      ← undamagedLines]
    cases accepted <;> by_cases clean : (currentSegment history).all (fun entry => entry.2) = true
    all_goals
      simp only [currentSegment] at clean
      simp [terminated, currentSegment, clean]
  · have continues : endsHostLine (byte, accepted) = false := by
      simpa [endsHostLine, endsLine] using ended
    rw [undamagedLines, segments_concat, continues]
    simp [ended, undamagedLines]

theorem currentSegment_concat (history : List HostByte) (entry : HostByte) :
    currentSegment (history ++ [entry]) =
      if entry.1 = lineFeed then [] else currentSegment history ++ [entry] := by
  rw [currentSegment, rest_concat, currentSegment]
  by_cases ended : entry.1 = lineFeed <;> simp [endsHostLine, endsLine, ended]

/-! ## What the framer makes of the bytes to come -/

/-- Where the framer stands relative to the host's stream: at a line start,
inside an intact line, in front of bytes that were dropped without the framer
being told, or discarding through the next line feed it is given. -/
inductive DamageMode where
  | start
  | inside
  | skipping
  | discarding
  deriving DecidableEq

namespace DamageMode

/-- The mode after one entry of the history, or `none` where a damaged line
would start to form. -/
def advance : DamageMode → HostByte → Option DamageMode
  | discarding, (byte, accepted) =>
      if byte = lineFeed ∧ accepted then some start else some discarding
  | start, (byte, true) => if byte = lineFeed then some start else some inside
  | inside, (byte, true) => if byte = lineFeed then some start else some inside
  | skipping, (_, true) => none
  | inside, (_, false) => none
  | start, (byte, false) => if byte = lineFeed then some start else some skipping
  | skipping, (byte, false) => if byte = lineFeed then some start else some skipping

/-- The mode after a list of entries. -/
def advanceAll (mode : DamageMode) (entries : List HostByte) : Option DamageMode :=
  entries.foldlM advance mode

@[simp] theorem advanceAll_nil (mode : DamageMode) : mode.advanceAll [] = some mode := rfl

@[simp] theorem advanceAll_cons (mode : DamageMode) (entry : HostByte)
    (entries : List HostByte) :
    mode.advanceAll (entry :: entries) =
      (mode.advance entry).bind fun next => next.advanceAll entries := rfl

theorem advanceAll_append (mode : DamageMode) (first second : List HostByte) :
    mode.advanceAll (first ++ second) =
      (mode.advanceAll first).bind fun middle => middle.advanceAll second := by
  simp [advanceAll, List.foldlM_append, bind]

/-- No damaged line forms, and the entries do not end in front of a lost byte. -/
def Safe (mode : DamageMode) (entries : List HostByte) : Prop :=
  ∃ last, mode.advanceAll entries = some last ∧ last ≠ skipping

/-- Discarding can only keep damaged lines from forming. -/
theorem advance_discarding {mode next : DamageMode} {entry : HostByte}
    (h : mode.advance entry = some next) :
    discarding.advance entry = some next ∨ discarding.advance entry = some discarding := by
  obtain ⟨byte, accepted⟩ := entry
  by_cases ended : byte = lineFeed <;> cases accepted <;> cases mode <;>
    simp_all [advance]

theorem Safe.discarding {mode : DamageMode} {entries : List HostByte} (h : mode.Safe entries) :
    DamageMode.discarding.Safe entries := by
  induction entries generalizing mode with
  | nil => exact ⟨.discarding, rfl, by decide⟩
  | cons entry entries ih =>
      obtain ⟨last, reached, notSkipping⟩ := h
      rw [advanceAll_cons, Option.bind_eq_some_iff] at reached
      obtain ⟨next, first, later⟩ := reached
      have tail : next.Safe entries := ⟨last, later, notSkipping⟩
      rcases advance_discarding first with same | still
      · refine ⟨last, ?_, notSkipping⟩
        rw [advanceAll_cons, same]
        exact later
      · obtain ⟨last', later', notSkipping'⟩ := ih tail
        refine ⟨last', ?_, notSkipping'⟩
        rw [advanceAll_cons, still]
        exact later'

/-- Discarding goes on while no line feed is accepted. -/
theorem discarding_advanceAll {entries : List HostByte}
    (without : lineFeed ∉ acceptedBytes entries) :
    DamageMode.discarding.advanceAll entries = some .discarding := by
  induction entries with
  | nil => rfl
  | cons entry entries ih =>
      obtain ⟨byte, accepted⟩ := entry
      cases accepted with
      | false =>
          rw [advanceAll_cons, advance]
          simpa using ih without
      | true =>
          simp only [acceptedBytes, List.filter_cons_of_pos, List.map_cons, List.mem_cons,
            not_or] at without
          rw [advanceAll_cons, advance]
          simpa [Ne.symm without.1] using ih without.2

/-- After a line feed was accepted last, the framer is at a line start or has
lost bytes since. -/
theorem advanceAll_accepted_lineFeed {mode last : DamageMode} {entries : List HostByte}
    (reached : mode.advanceAll entries = some last)
    (ended : (acceptedBytes entries).getLast? = some lineFeed) :
    last = start ∨ last = skipping := by
  induction entries using List.reverseRecOn generalizing last with
  | nil => simp [acceptedBytes] at ended
  | append_singleton entries entry ih =>
      rw [advanceAll_append, Option.bind_eq_some_iff] at reached
      obtain ⟨middle, before, step⟩ := reached
      simp only [advanceAll_cons, advanceAll_nil, Option.bind_fun_some] at step
      obtain ⟨byte, accepted⟩ := entry
      rw [acceptedBytes_append] at ended
      cases accepted with
      | true =>
          have newest : byte = lineFeed := by simpa [acceptedBytes] using ended
          cases middle <;> simp_all [advance]
      | false =>
          have older : (acceptedBytes entries).getLast? = some lineFeed := by
            simpa [acceptedBytes] using ended
          rcases ih before older with rfl | rfl <;> by_cases feed : byte = lineFeed <;>
            simp_all [advance]

/-- Dropped bytes that end with a line feed lead from a line start to a line
start. -/
theorem start_advanceAll_dropped {entries : List HostByte}
    (dropped : ∀ entry ∈ entries, entry.2 = false)
    (ended : (entries.getLast?).map Prod.fst = some lineFeed) :
    start.advanceAll entries = some start := by
  have ready : ∀ entries : List HostByte, (∀ entry ∈ entries, entry.2 = false) →
      start.advanceAll entries = some start ∨ start.advanceAll entries = some skipping := by
    intro entries dropped
    induction entries using List.reverseRecOn with
    | nil => exact .inl rfl
    | append_singleton entries entry ih =>
        obtain ⟨byte, accepted⟩ := entry
        obtain rfl : accepted = false := dropped (byte, accepted) (by simp)
        rcases ih fun entry member => dropped entry (by simp [member]) with middle | middle <;>
          by_cases feed : byte = lineFeed <;>
            simp [advanceAll_append, middle, advance, feed]
  induction entries using List.reverseRecOn with
  | nil => simp at ended
  | append_singleton entries entry _ =>
      obtain ⟨byte, accepted⟩ := entry
      obtain rfl : accepted = false := dropped (byte, accepted) (by simp)
      obtain rfl : byte = lineFeed := by simpa using ended
      rcases ready entries fun entry member => dropped entry (by simp [member]) with
        middle | middle <;> simp [advanceAll_append, middle, advance]

/-- The framer is where a mode says, after the entries `consumed`. -/
def At (framer : NewlineFramer) (consumed : List HostByte) : DamageMode → Prop
  | start => framer.discarding = false ∧ framer.line = [] ∧ currentSegment consumed = []
  | inside => framer.discarding = false ∧
      currentSegment consumed = framer.line.map fun byte => (byte, true)
  | skipping => framer.discarding = false ∧ framer.line = []
  | discarding => framer.discarding = true ∧ framer.line = []

variable {framer : NewlineFramer} {consumed : List HostByte} {mode next : DamageMode}

/-- A byte that was dropped changes what the framer's line means, not the
framer. -/
theorem At.dropped (h : mode.At framer consumed) {byte : UInt8}
    (step : mode.advance (byte, false) = some next) :
    next.At framer (consumed ++ [(byte, false)]) := by
  have segment := currentSegment_concat consumed (byte, false)
  by_cases ended : byte = lineFeed
  · cases mode <;> simp_all [advance]
    all_goals
      subst step
      simp_all [At]
  · cases mode <;> simp_all [advance]
    all_goals
      subst step
      simp_all [At]

/-- Dropped bytes complete no line of the host's stream. -/
theorem At.droppedAll {lost : List HostByte} (dropped : ∀ entry ∈ lost, entry.2 = false)
    (h : mode.At framer consumed) (step : mode.advanceAll lost = some next) :
    next.At framer (consumed ++ lost) ∧
      undamagedLines (consumed ++ lost) = undamagedLines consumed := by
  induction lost generalizing mode consumed with
  | nil =>
      obtain rfl : mode = next := by simpa using step
      simpa using h
  | cons entry lost ih =>
      obtain ⟨byte, accepted⟩ := entry
      obtain rfl : accepted = false := dropped (byte, accepted) (by simp)
      rw [advanceAll_cons, Option.bind_eq_some_iff] at step
      obtain ⟨middle, first, later⟩ := step
      obtain ⟨after, lines⟩ := ih (fun entry member => dropped entry (by simp [member]))
        (h.dropped first) later
      rw [← List.append_cons] at after lines
      refine ⟨after, lines.trans ?_⟩
      rw [undamagedLines_concat]
      simp

/-- **An accepted byte completes undamaged lines only.** The framer is then
where the mode says, or discarding because the line outgrew it. -/
theorem At.accepted (h : mode.At framer consumed) {byte : UInt8}
    (step : mode.advance (byte, true) = some next) :
    (next.At (framerAfter framer byte) (consumed ++ [(byte, true)]) ∨
        discarding.At (framerAfter framer byte) (consumed ++ [(byte, true)])) ∧
      ∃ more, undamagedLines (consumed ++ [(byte, true)]) = undamagedLines consumed ++ more ∧
        (completedBy framer byte).Sublist more := by
  have segment := currentSegment_concat consumed (byte, true)
  have lines := undamagedLines_concat consumed (byte, true)
  by_cases isDiscarding : mode = discarding
  · subst isDiscarding
    obtain ⟨active, empty⟩ := h
    obtain ⟨line, _, mode'⟩ := framerAfter_discarding framer active byte
    refine ⟨?_, _, lines, by simp [completedBy, active]⟩
    by_cases ended : byte = lineFeed
    · left
      simp_all [advance]
      subst step
      simp_all [At]
    · right
      simp_all [At]
  · have intact : framer.discarding = false ∧
        currentSegment consumed = framer.line.map fun byte => (byte, true) := by
      cases mode with
      | start => exact ⟨h.1, by rw [h.2.1, h.2.2]; rfl⟩
      | inside => exact h
      | skipping => simp [advance] at step
      | discarding => exact absurd rfl isDiscarding
    have reached : next = if byte = lineFeed then start else inside := by
      cases mode with
      | start | inside => by_cases ended : byte = lineFeed <;> simp_all [advance]
      | skipping => simp [advance] at step
      | discarding => exact absurd rfl isDiscarding
    obtain ⟨framing, same⟩ := intact
    by_cases ended : byte = lineFeed
    · subst ended
      obtain ⟨line, _, mode'⟩ := framerAfter_lineFeed framer framing
      refine ⟨.inl ?_, _, lines, ?_⟩
      · rw [reached, if_pos rfl]
        exact ⟨mode', line, by rw [segment, if_pos rfl]⟩
      · simp [completedBy, framing, same, Function.comp_def]
    · refine ⟨?_, _, lines, by simp [completedBy, ended]⟩
      by_cases full : framer.line.length = newlineFramerMaxLineLength
      · rw [framerAfter_full framer framing ended full]
        exact .inr ⟨rfl, rfl⟩
      · obtain ⟨line, _, mode'⟩ := framerAfter_append framer framing ended full
        left
        rw [reached, if_neg ended]
        refine ⟨mode', ?_⟩
        rw [segment, if_neg ended, same, line]
        simp

end DamageMode

/-! ## The invariant -/

/-- What a pop that finds the overflow flag set must find: the discarding that
follows covers the bytes dropped. Either the ring holds no line feed, or both
the bytes in the ring and the bytes dropped end with one. -/
def DropsDiscarded (s : ReceiveSystem) : ReceiveEvent → Prop
  | .pop => s.transport.receiveOverflowPending = true →
      lineFeed ∉ s.transport.buffered ∨
        (s.transport.buffered.getLast? = some lineFeed ∧
          s.history.getLast?.map Prod.fst = some lineFeed)
  | .packet _ | .frame | .readLine _ | .transmit _ => True

namespace ReceiveSystem

/-- The framer that the next byte meets. -/
def currentFramer (s : ReceiveSystem) : NewlineFramer :=
  match s.popped with
  | some (_, overflowed) => (discardIfOverflowed overflowed s.transport).receiveFramer
  | none => s.transport.receiveFramer

theorem currentFramer_congr {s t : ReceiveSystem} (popped : t.popped = s.popped)
    (framer : t.transport.receiveFramer = s.transport.receiveFramer) :
    t.currentFramer = s.currentFramer := by
  simp only [currentFramer, discardIfOverflowed_receiveFramer, popped, framer]

/-- The history is what was consumed, what is still to be framed, and the bytes
dropped since the last pop. -/
structure Tracked (s : ReceiveSystem) (mode : DamageMode)
    (consumed waiting dropped : List HostByte) : Prop where
  history_eq : s.history = consumed ++ waiting ++ dropped
  safe : mode.Safe waiting
  position : mode.At s.currentFramer consumed
  waiting_eq : acceptedBytes waiting = s.popped.toList.map Prod.fst ++ s.transport.buffered
  dropped_lost : ∀ entry ∈ dropped, entry.2 = false
  flagged : s.transport.receiveOverflowPending = true →
    dropped ≠ [] ∧ s.transport.buffered.length = usbCdcRawReceiveCapacity - 1
  unflagged : s.transport.receiveOverflowPending = false → dropped = []
  delivered : (s.completions.map Prod.fst).Sublist (undamagedLines consumed)

/-- Some account of the history exists. -/
def IsTracked (s : ReceiveSystem) : Prop :=
  ∃ mode consumed waiting dropped, s.Tracked mode consumed waiting dropped

theorem initial_isTracked : initial.IsTracked :=
  ⟨.start, [], [], [],
    { history_eq := rfl
      safe := ⟨.start, rfl, by decide⟩
      position := ⟨rfl, rfl, rfl⟩
      waiting_eq := rfl
      dropped_lost := by simp
      flagged := by
        intro flag
        cases flag
      unflagged := fun _ => rfl
      delivered := .slnil }⟩

variable {s : ReceiveSystem}

/-- Systems that agree on the receive side share their accounts. -/
theorem Tracked.congr {t : ReceiveSystem} {mode : DamageMode}
    {consumed waiting dropped : List HostByte} (h : s.Tracked mode consumed waiting dropped)
    (history : t.history = s.history) (framer : t.currentFramer = s.currentFramer)
    (popped : t.popped = s.popped) (buffered : t.transport.buffered = s.transport.buffered)
    (flag : t.transport.receiveOverflowPending = s.transport.receiveOverflowPending)
    (completions : t.completions = s.completions) :
    t.Tracked mode consumed waiting dropped where
  history_eq := history.trans h.history_eq
  safe := h.safe
  position := framer ▸ h.position
  waiting_eq := by
    rw [popped, buffered]
    exact h.waiting_eq
  dropped_lost := h.dropped_lost
  flagged := by
    rw [flag, buffered]
    exact h.flagged
  unflagged := flag ▸ h.unflagged
  delivered := completions ▸ h.delivered

/-- A byte that arrives waits, or is dropped at the end of the history. -/
theorem IsTracked.receiveByte (fifo : s.Fifo) (h : s.IsTracked) (byte : UInt8) :
    (s.receiveByte byte).IsTracked := by
  obtain ⟨mode, consumed, waiting, dropped, h⟩ := h
  cases room : rawReceiveHasRoom s.transport with
  | true =>
      obtain ⟨_, buffered, flag, same⟩ := cdcReceiveByte_room fifo.indices byte room
      have clear : s.transport.receiveOverflowPending = false := by
        by_contra set
        have full := fifo.indices.length_buffered_eq_iff.mp
          (h.flagged (by simpa using set)).2
        rw [rawReceiveHasRoom, decide_eq_true_iff] at room
        exact room full
      obtain rfl := h.unflagged clear
      refine ⟨mode, consumed, waiting ++ [(byte, true)], [], ?_, ?_, ?_, ?_, by simp, ?_, ?_, h.delivered⟩
      · simp [ReceiveSystem.receiveByte, room, h.history_eq]
      · obtain ⟨last, reached, notSkipping⟩ := h.safe
        have more : ∃ next, last.advance (byte, true) = some next ∧ next ≠ .skipping := by
          by_cases ended : byte = lineFeed <;> cases last <;>
            simp_all [DamageMode.advance]
        obtain ⟨next, step, notSkipping'⟩ := more
        refine ⟨next, ?_, notSkipping'⟩
        rw [DamageMode.advanceAll_append, reached]
        simpa using step
      · rw [currentFramer_congr (s := s) (t := s.receiveByte byte) rfl same.receiveFramer]
        exact h.position
      · rw [acceptedBytes_append, h.waiting_eq]
        simp [ReceiveSystem.receiveByte, buffered, acceptedBytes]
      · intro set
        rw [ReceiveSystem.receiveByte, flag, clear] at set
        cases set
      · exact fun _ => rfl
  | false =>
      obtain ⟨_, buffered, flag, same⟩ := cdcReceiveByte_full fifo.indices byte room
      have full : s.transport.buffered.length = usbCdcRawReceiveCapacity - 1 := by
        rw [rawReceiveHasRoom, decide_eq_false_iff_not, not_not] at room
        exact fifo.indices.length_buffered_eq_iff.mpr room
      refine ⟨mode, consumed, waiting, dropped ++ [(byte, false)], ?_, h.safe, ?_, ?_, ?_, ?_, ?_,
        h.delivered⟩
      · simp [ReceiveSystem.receiveByte, room, h.history_eq]
      · rw [currentFramer_congr (s := s) (t := s.receiveByte byte) rfl same.receiveFramer]
        exact h.position
      · rw [h.waiting_eq]
        simp [ReceiveSystem.receiveByte, buffered]
      · intro entry member
        rcases List.mem_append.mp member with old | new
        · exact h.dropped_lost entry old
        · rw [List.mem_singleton.mp new]
      · intro _
        exact ⟨by simp, by rw [ReceiveSystem.receiveByte, buffered, full]⟩
      · intro clear
        rw [ReceiveSystem.receiveByte, flag] at clear
        cases clear

theorem IsTracked.receive (fifo : s.Fifo) (h : s.IsTracked) (packet : Bytes) :
    (s.receive packet).IsTracked := by
  induction packet generalizing s with
  | nil => exact h
  | cons byte packet ih => exact ih (fifo.receiveByte byte) (h.receiveByte fifo byte)

/-- A pop that finds the flag set moves the dropped bytes behind the waiting
ones, with the framer discarding. -/
theorem Tracked.discard {mode : DamageMode} {consumed waiting dropped : List HostByte}
    (h : s.Tracked mode consumed waiting dropped) (idle : s.popped = none)
    (flag : s.transport.receiveOverflowPending = true) (covered : DropsDiscarded s .pop) :
    DamageMode.discarding.Safe (waiting ++ dropped) := by
  obtain ⟨nonempty, _⟩ := h.flagged flag
  have bytes : acceptedBytes waiting = s.transport.buffered := by
    simpa [idle] using h.waiting_eq
  have none_accepted : acceptedBytes dropped = [] := by
    rw [acceptedBytes, List.filter_eq_nil_iff.mpr]
    · rfl
    · intro entry member
      simp [h.dropped_lost entry member]
  rcases covered flag with noFeed | ⟨lastWaiting, lastDropped⟩
  · refine ⟨.discarding, DamageMode.discarding_advanceAll ?_, by decide⟩
    rw [acceptedBytes_append, bytes, none_accepted, List.append_nil]
    exact noFeed
  · obtain ⟨last, reached, notSkipping⟩ := h.safe.discarding
    rw [← bytes] at lastWaiting
    obtain rfl : last = .start :=
      (DamageMode.advanceAll_accepted_lineFeed reached lastWaiting).resolve_right notSkipping
    refine ⟨.start, ?_, by decide⟩
    rw [DamageMode.advanceAll_append, reached]
    refine DamageMode.start_advanceAll_dropped h.dropped_lost ?_
    rw [h.history_eq, List.getLast?_append_of_ne_nil _ nonempty] at lastDropped
    exact lastDropped

/-- The first accepted byte of a list of entries, and what was dropped before
it. -/
theorem exists_first_accepted {entries : List HostByte} {byte : UInt8} {bytes : Bytes}
    (h : acceptedBytes entries = byte :: bytes) :
    ∃ lost later, entries = lost ++ (byte, true) :: later ∧
      (∀ entry ∈ lost, entry.2 = false) ∧ acceptedBytes later = bytes := by
  induction entries with
  | nil => simp [acceptedBytes] at h
  | cons entry entries ih =>
      obtain ⟨first, accepted⟩ := entry
      cases accepted with
      | true =>
          obtain ⟨rfl, rest⟩ : first = byte ∧ acceptedBytes entries = bytes := by
            simpa [acceptedBytes] using h
          exact ⟨[], entries, rfl, by simp, rest⟩
      | false =>
          obtain ⟨lost, later, rfl, dropped, rest⟩ := ih (by simpa [acceptedBytes] using h)
          refine ⟨(first, false) :: lost, later, rfl, ?_, rest⟩
          simpa using dropped

/-- Framing a byte delivers undamaged lines only. -/
theorem IsTracked.frame (h : s.IsTracked) {byte : UInt8} {overflowed : Bool}
    (taken : s.popped = some (byte, overflowed)) : (s.frame byte overflowed).IsTracked := by
  obtain ⟨mode, consumed, waiting, dropped, h⟩ := h
  have bytes : acceptedBytes waiting = byte :: s.transport.buffered := by
    rw [h.waiting_eq, taken]
    rfl
  obtain ⟨lost, later, rfl, lostDropped, laterBytes⟩ := exists_first_accepted bytes
  obtain ⟨last, reached, notSkipping⟩ := h.safe
  rw [DamageMode.advanceAll_append, Option.bind_eq_some_iff] at reached
  obtain ⟨middle, overLost, fromMiddle⟩ := reached
  rw [DamageMode.advanceAll_cons, Option.bind_eq_some_iff] at fromMiddle
  obtain ⟨next, overByte, overLater⟩ := fromMiddle
  obtain ⟨position, lines⟩ := h.position.droppedAll lostDropped overLost
  obtain ⟨position', more, lines', completed⟩ := position.accepted overByte
  have framer : (s.frame byte overflowed).currentFramer = framerAfter s.currentFramer byte := by
    simp only [currentFramer, ReceiveSystem.frame, taken, frameReceivedByte_receiveFramer]
  have kept : (s.frame byte overflowed).transport.receiveOverflowPending =
      s.transport.receiveOverflowPending :=
    (frameReceivedByte_same byte overflowed s.transport).receiveOverflowPending
  have ring : (s.frame byte overflowed).transport.buffered = s.transport.buffered :=
    (frameReceivedByte_same byte overflowed s.transport).buffered
  have account : ∀ mode : DamageMode, mode.Safe later →
      mode.At (framerAfter s.currentFramer byte) (consumed ++ lost ++ [(byte, true)]) →
        (s.frame byte overflowed).Tracked mode (consumed ++ lost ++ [(byte, true)]) later
          dropped := by
    intro mode safe position
    refine ⟨?_, safe, framer ▸ position, ?_, h.dropped_lost, ?_, ?_, ?_⟩
    · rw [ReceiveSystem.frame, h.history_eq]
      simp
    · rw [laterBytes, ← ring]
      rfl
    · rw [kept, ring]
      exact h.flagged
    · rw [kept]
      exact h.unflagged
    · have added : (completionsOf byte overflowed s.transport).map Prod.fst =
          completedBy s.currentFramer byte := by
        simp [completionsOf, currentFramer, taken, Function.comp_def]
      rw [ReceiveSystem.frame, List.map_append, added, lines', lines]
      exact h.delivered.append completed
  rcases position' with as | discarding
  · exact ⟨next, _, later, dropped, account next ⟨last, overLater, notSkipping⟩ as⟩
  · have safe : next.Safe later := ⟨last, overLater, notSkipping⟩
    exact ⟨.discarding, _, later, dropped, account .discarding safe.discarding discarding⟩

/-- **A step that meets `DropsDiscarded` keeps the account.** -/
theorem IsTracked.step {t : ReceiveSystem} {event : ReceiveEvent} (fifo : s.Fifo)
    (h : s.IsTracked) (step : ReceiveStep s event t) (covered : DropsDiscarded s event) :
    t.IsTracked := by
  cases step with
  | packet bytes => exact h.receive fifo bytes
  | @pop popped byte overflowed idle taken =>
      obtain ⟨mode, consumed, waiting, dropped, h⟩ := h
      cases held : s.transport.buffered with
      | nil =>
          rw [popReceivedByte_empty fifo.indices held] at taken
          simp at taken
      | cons first others =>
          obtain ⟨popped', result, _, buffered, cleared, same⟩ :=
            popReceivedByte_cons fifo.indices held
          rw [result] at taken
          simp only [Prod.mk.injEq, Option.some.injEq] at taken
          obtain ⟨rfl, rfl, flag⟩ := taken
          have bytes : acceptedBytes waiting = first :: others := by
            rw [h.waiting_eq, idle, held]
            rfl
          cases overflowed with
          | false =>
              obtain rfl := h.unflagged flag
              refine ⟨mode, consumed, waiting, [], h.history_eq, h.safe, ?_, ?_, by simp, ?_,
                fun _ => rfl, h.delivered⟩
              · simpa [currentFramer, idle, discardIfOverflowed_receiveFramer,
                  same.receiveFramer] using h.position
              · rw [bytes, buffered]
                rfl
              · rw [cleared]
                intro set
                cases set
          | true =>
              have none_accepted : acceptedBytes dropped = [] := by
                rw [acceptedBytes, List.filter_eq_nil_iff.mpr]
                · rfl
                · intro entry member
                  simp [h.dropped_lost entry member]
              refine ⟨.discarding, consumed, waiting ++ dropped, [], ?_,
                h.discard idle flag covered, ⟨rfl, rfl⟩, ?_, by simp, ?_, fun _ => rfl,
                h.delivered⟩
              · rw [h.history_eq]
                simp
              · rw [acceptedBytes_append, bytes, none_accepted, buffered]
                simp
              · rw [cleared]
                intro set
                cases set
  | @popEmpty popped overflowed idle taken =>
      obtain ⟨mode, consumed, waiting, dropped, h⟩ := h
      have empty : s.transport.buffered = [] := by
        cases held : s.transport.buffered with
        | nil => rfl
        | cons first others =>
            obtain ⟨_, result, _⟩ := popReceivedByte_cons fifo.indices held
            rw [result] at taken
            simp at taken
      -- the ring is full while the flag is set, so an empty ring has no flag
      have clear : s.transport.receiveOverflowPending = false := by
        by_contra set
        have full := (h.flagged (by simpa using set)).2
        rw [empty] at full
        cases full
      rw [popReceivedByte_empty fifo.indices empty, clear] at taken
      simp only [Prod.mk.injEq, true_and] at taken
      obtain ⟨rfl, rfl⟩ := taken
      exact ⟨mode, consumed, waiting, dropped,
        h.congr rfl (currentFramer_congr rfl rfl) rfl rfl clear.symm rfl⟩
  | frame taken => exact h.frame taken
  | readLine idle capacity =>
      obtain ⟨mode, consumed, waiting, dropped, h⟩ := h
      refine ⟨mode, consumed, waiting, dropped,
        h.congr rfl (currentFramer_congr rfl ?_) rfl ?_ ?_ rfl⟩
      all_goals
        simp only [ReceiveSystem.readLine, usbCdcTransportReadLine]
        split_ifs <;> rfl
  | transmit idle usb =>
      obtain ⟨mode, consumed, waiting, dropped, h⟩ := h
      obtain ⟨buffer, head, tail, flag, framer, _, _⟩ := transmit_same usb s.transport
      refine ⟨mode, consumed, waiting, dropped,
        h.congr rfl (currentFramer_congr rfl framer) rfl ?_ flag rfl⟩
      simp only [ReceiveSystem.transmit, UsbCdcTransport.buffered, UsbCdcTransport.rawReceive,
        rawReceiveCount, buffer, head, tail]

end ReceiveSystem

/-- The lines of a history stay the lines of a longer one. -/
theorem undamagedLines_append (history more : List HostByte) :
    undamagedLines history <+: undamagedLines (history ++ more) := by
  induction more using List.reverseRecOn with
  | nil => simp
  | append_singleton more entry ih =>
      rw [← List.append_assoc, undamagedLines_concat]
      exact ih.trans (List.prefix_append _ _)

/-- **No damaged line is delivered while the discarding covers the drops.** In
every run whose pops all meet `DropsDiscarded`, the lines handed to
`completed_line` are undamaged lines of the host's stream, in order. -/
theorem delivered_lines_undamaged {s : ReceiveSystem} {events : List ReceiveEvent}
    (run : Run (Restricted ReceiveStep DropsDiscarded) .initial events s) :
    (s.completions.map Prod.fst).Sublist (undamagedLines s.history) := by
  have both : s.Fifo ∧ s.IsTracked := by
    refine run.invariant (I := fun s => s.Fifo ∧ s.IsTracked) ?_
      ⟨ReceiveSystem.initial_fifo, ReceiveSystem.initial_isTracked⟩
    rintro s event t ⟨fifo, tracked⟩ ⟨step, covered⟩
    exact ⟨fifo.step step, tracked.step fifo step covered⟩
  obtain ⟨_, mode, consumed, waiting, dropped, tracked⟩ := both
  rw [tracked.history_eq, List.append_assoc]
  exact tracked.delivered.trans (undamagedLines_append _ _).sublist

/-- Text without a line feed is discarded. -/
theorem discarding_text {framer : NewlineFramer} (discarding : framer.discarding = true)
    {text : Bytes} (noFeed : lineFeed ∉ text) (lines : List Bytes) :
    newlineFramerConsume captureLine framer text lines = (framer, lines) := by
  induction text with
  | nil => rfl
  | cons byte text ih =>
      obtain ⟨other, noFeed⟩ := not_or.mp (List.mem_cons.not.mp noFeed)
      have kept : newlineFramerConsumeByte captureLine (framer, lines) byte = (framer, lines) := by
        simp [newlineFramerConsumeByte, discarding, Ne.symm other]
      rw [newlineFramerConsume, List.foldl_cons, kept]
      exact ih noFeed

/-- A pop that finds no overflow. -/
theorem dropsDiscarded_of_unflagged (s : ReceiveSystem)
    (unflagged : s.transport.receiveOverflowPending = false) : DropsDiscarded s .pop := by
  intro flag
  rw [unflagged] at flag
  cases flag

/-- An overflow whose discarding covers the byte dropped, and the line after it: the first pop finds
the flag set, and no line feed in the ring. -/
theorem delivered_lines_undamaged_one_line :
    ∃ events flagged later s,
      Run (Restricted ReceiveStep DropsDiscarded) .initial events flagged ∧
      flagged.transport.receiveOverflowPending = true ∧ flagged.popped = none ∧
      Run (Restricted ReceiveStep DropsDiscarded) flagged later s ∧
      s.completions.map Prod.fst = [[97]] ∧
      (s.completions.map Prod.fst).Sublist (undamagedLines s.history) := by
  obtain ⟨text, fills, noFeed⟩ : ∃ text : Bytes, text.length = 511 ∧ lineFeed ∉ text := by
    refine ⟨List.replicate 511 98, List.length_replicate, fun listed => ?_⟩
    exact absurd (List.eq_of_mem_replicate listed) (by decide)
  -- a packet fills the ring, and the next byte is dropped
  obtain ⟨ring₁, history₁, flag₁, framer₁, completions₁, idle₁⟩ :=
    ReceiveSystem.initial_fifo.receive_fits text (by rw [fills]; decide)
  have first : ReceiveStep .initial (.packet text) _ := .packet _ _
  have fifo₁ := ReceiveSystem.initial_fifo.step first
  generalize ReceiveSystem.initial.receive text = s₁ at *
  replace ring₁ : s₁.transport.buffered = text := ring₁
  have full : rawReceiveHasRoom s₁.transport = false := by
    rw [rawReceiveHasRoom, decide_eq_false_iff_not, not_not,
      ← fifo₁.indices.length_buffered_eq_iff, ring₁, fills]
    rfl
  obtain ⟨_, ring₂, flag₂, same₂⟩ := cdcReceiveByte_full fifo₁.indices 99 full
  have second : ReceiveStep s₁ (.packet [99]) (s₁.receiveByte 99) := .packet s₁ [99]
  -- the ring is processed: nothing of it is delivered
  have start : DropsDiscarded (s₁.receiveByte 99) .pop := fun _ => .inl (by
    show lineFeed ∉ (cdcReceiveByte s₁.transport 99).buffered
    rw [ring₂, ring₁]
    exact noFeed)
  obtain ⟨events₃, s₃, run₃, processed₃⟩ := ReceiveSystem.processReceivedBytes_restrictedRun
    (fun _ => trivial) dropsDiscarded_of_unflagged (fifo₁.step second) idle₁ start
  have fifo₃ : s₃.Fifo :=
    run₃.of_restricted.invariant (fun _ _ _ h step => h.step step) (fifo₁.step second)
  have framing₃ : (s₃.transport.receiveFramer, s₃.completions.map Prod.fst) =
      (newlineFramerDiscardCurrentLine newlineFramerInitialize, []) := by
    rw [processed₃.framing_eq, discardIfOverflowed_receiveFramer]
    simp only [ReceiveSystem.receiveByte, flag₂, ring₂, same₂.receiveFramer, framer₁, ring₁,
      completions₁]
    exact discarding_text rfl noFeed []
  -- the rest of the damaged line and a line arrive
  obtain ⟨ring₄, history₄, flag₄, framer₄, completions₄, idle₄⟩ :=
    fifo₃.receive_fits [lineFeed, 97, lineFeed] (by rw [processed₃.emptied]; decide)
  have third : ReceiveStep s₃ (.packet [lineFeed, 97, lineFeed]) _ := .packet s₃ _
  obtain ⟨events₅, s₅, run₅, processed₅⟩ := ReceiveSystem.processReceivedBytes_restrictedRun
    (fun _ => trivial) dropsDiscarded_of_unflagged (fifo₃.step third) (idle₄.trans processed₃.idle)
    (dropsDiscarded_of_unflagged _ (flag₄.trans processed₃.unflagged))
  have delivered : s₅.completions.map Prod.fst = [[97]] := by
    have framing₅ := processed₅.framing_eq
    obtain ⟨framer, captured⟩ := Prod.mk.inj framing₃
    rw [discardIfOverflowed_receiveFramer, flag₄, processed₃.unflagged, framer₄, ring₄,
      processed₃.emptied, completions₄, if_neg Bool.false_ne_true, framer, captured] at framing₅
    exact (congrArg Prod.snd framing₅).trans (by decide)
  have run : Run (Restricted ReceiveStep DropsDiscarded) .initial _ (s₁.receiveByte 99) :=
    .head ⟨first, trivial⟩ (.single ⟨second, trivial⟩)
  have rest : Run (Restricted ReceiveStep DropsDiscarded) (s₁.receiveByte 99) _ s₅ :=
    run₃.trans (.head ⟨third, trivial⟩ run₅)
  exact ⟨_, _, _, s₅, run, flag₂, idle₁, rest, delivered,
    delivered_lines_undamaged (run.trans rest)⟩

/-- After a discard, a line feed resumes the framing and the text after it fills
the line buffer. -/
theorem discarded_text (framer : NewlineFramer) {text : Bytes} (noFeed : lineFeed ∉ text)
    (fits : text.length ≤ newlineFramerMaxLineLength) :
    (newlineFramerConsume captureLine (newlineFramerDiscardCurrentLine framer)
        (lineFeed :: text) []).2 = [] ∧
      (newlineFramerConsume captureLine (newlineFramerDiscardCurrentLine framer)
        (lineFeed :: text) []).1.line = text ∧
      (newlineFramerConsume captureLine (newlineFramerDiscardCurrentLine framer)
        (lineFeed :: text) []).1.discarding = false := by
  obtain ⟨line, _, mode⟩ :=
    framerAfter_discarding (newlineFramerDiscardCurrentLine framer) rfl lineFeed
  have resumed : newlineFramerConsumeByte captureLine
      (newlineFramerDiscardCurrentLine framer, []) lineFeed =
        (framerAfter (newlineFramerDiscardCurrentLine framer) lineFeed, []) := by
    rw [newlineFramerConsumeByte_eq]
    rfl
  rw [newlineFramerConsume, List.foldl_cons, resumed, ← newlineFramerConsume]
  obtain ⟨captured, joined, framing⟩ := newlineFramerConsume_joins captureLine
    (framerAfter (newlineFramerDiscardCurrentLine framer) lineFeed)
    (by simpa using mode) ([] : List Bytes) text noFeed
    (by rw [line]; simpa [newlineFramerDiscardCurrentLine] using fits)
  refine ⟨captured, ?_, framing⟩
  rw [joined, line]
  rfl

/-- A complete line and the beginning of a second fill the ring, a byte of the
second is dropped, and its end arrives after the ring was processed: the line
feed of the first line ends the discarding, and the beginning and the end of the
second are delivered as one line. -/
theorem overflow_joins_run {text : Bytes} (fills : text.length = 510) (noFeed : lineFeed ∉ text)
    (lost final : UInt8) (final_ne : final ≠ lineFeed) :
    ∃ events s, Run ReceiveStep .initial events s ∧
      s.history = [(lineFeed, true)] ++
        (text.map (fun byte => (byte, true)) ++ [(lost, false), (final, true)]) ++
          [(lineFeed, true)] ∧
      s.completions.map Prod.fst = [withoutTrailingReturn (text ++ [final])] := by
  -- the first packet fills the ring
  obtain ⟨ring₁, history₁, flag₁, framer₁, completions₁, idle₁⟩ :=
    ReceiveSystem.initial_fifo.receive_fits (lineFeed :: text)
      (by rw [List.length_cons, fills]; decide)
  have first : ReceiveStep .initial (.packet (lineFeed :: text)) _ := .packet _ _
  have fifo₁ := ReceiveSystem.initial_fifo.step first
  generalize ReceiveSystem.initial.receive (lineFeed :: text) = s₁ at *
  replace ring₁ : s₁.transport.buffered = lineFeed :: text := ring₁
  -- the second finds no room
  have full : rawReceiveHasRoom s₁.transport = false := by
    rw [rawReceiveHasRoom, decide_eq_false_iff_not, not_not,
      ← fifo₁.indices.length_buffered_eq_iff, ring₁, List.length_cons, fills]
    rfl
  obtain ⟨_, ring₂, flag₂, same₂⟩ := cdcReceiveByte_full fifo₁.indices lost full
  have second : ReceiveStep s₁ (.packet [lost]) (s₁.receiveByte lost) := .packet s₁ [lost]
  obtain ⟨events₃, s₃, run₃, processed₃⟩ :=
    ReceiveSystem.processReceivedBytes_run (fifo₁.step second) idle₁
  have fifo₃ : s₃.Fifo := run₃.invariant (fun _ _ _ h step => h.step step) (fifo₁.step second)
  -- the ring is processed: its first line feed ends the discarding
  have framing₃ : (s₃.transport.receiveFramer, s₃.completions.map Prod.fst) =
      newlineFramerConsume captureLine (newlineFramerDiscardCurrentLine newlineFramerInitialize)
        (lineFeed :: text) [] := by
    rw [processed₃.framing_eq, discardIfOverflowed_receiveFramer]
    simp only [ReceiveSystem.receiveByte, flag₂, ring₂, same₂.receiveFramer, framer₁, ring₁,
      completions₁]
    rfl
  obtain ⟨captured, line, framing⟩ :=
    discarded_text newlineFramerInitialize noFeed (by rw [fills]; decide)
  rw [← framing₃] at captured line framing
  dsimp only at captured line framing
  -- the rest of the damaged line arrives and completes the text
  obtain ⟨ring₄, history₄, flag₄, framer₄, completions₄, idle₄⟩ :=
    fifo₃.receive_fits [final, lineFeed]
      (by rw [processed₃.emptied, List.length_cons, List.length_singleton]; decide)
  have third : ReceiveStep s₃ (.packet [final, lineFeed]) _ := .packet s₃ [final, lineFeed]
  obtain ⟨events₅, s₅, run₅, processed₅⟩ :=
    ReceiveSystem.processReceivedBytes_run (fifo₃.step third) (idle₄.trans processed₃.idle)
  refine ⟨_, s₅, .head first (.head second (run₃.trans (.head third run₅))), ?_, ?_⟩
  · rw [processed₅.history_eq, history₄, processed₃.history_eq, ReceiveSystem.receiveByte,
      history₁, full]
    simp [ReceiveSystem.initial]
  · have framing₅ := processed₅.framing_eq
    rw [discardIfOverflowed_receiveFramer, flag₄, processed₃.unflagged, framer₄, ring₄,
      processed₃.emptied, completions₄, if_neg Bool.false_ne_true] at framing₅
    have completed := congrArg Prod.snd framing₅
    have room : s₃.transport.receiveFramer.line.length ≠ newlineFramerMaxLineLength := by
      rw [line, fills]
      decide
    obtain ⟨joined, _, mode⟩ := framerAfter_append _ framing final_ne room
    simp only [newlineFramerConsume, List.nil_append, List.foldl_cons, List.foldl_nil,
      newlineFramerConsumeByte_eq, foldl_captureLine] at completed
    rw [completed, captured, completedBy, if_neg (by simp [framing]), if_neg final_ne,
      completedBy, if_neg (by simpa using mode), if_pos rfl]
    simp [joined, line]

/-- A byte lost between two line feeds leaves only the empty line before them. -/
theorem undamagedLines_overflow {text : List HostByte}
    (noFeed : ∀ entry ∈ text, endsHostLine entry = false) (damaged : (99, false) ∈ text) :
    undamagedLines ([(lineFeed, true)] ++ text ++ [(lineFeed, true)]) = [[]] := by
  obtain ⟨segs, tail⟩ := split_append_of_not_ends [(lineFeed, true)] noFeed
  have first : undamagedLines ([(lineFeed, true)] ++ text) = [[]] := by
    rw [undamagedLines, segs]
    decide
  have segment : currentSegment ([(lineFeed, true)] ++ text) = text := by
    rw [currentSegment, tail]
    rfl
  rw [undamagedLines_concat, first, segment, if_neg, List.append_nil]
  rintro ⟨_, clean⟩
  simpa using List.all_eq_true.mp clean _ damaged

/-- A delivered line that is no undamaged line of the host's stream. -/
theorem overflow_joins_lines :
    ∃ events s line, Run ReceiveStep .initial events s ∧
      line ∈ s.completions.map Prod.fst ∧ line ∉ undamagedLines s.history := by
  obtain ⟨text, fills, same⟩ : ∃ text : Bytes, text.length = 510 ∧ ∀ byte ∈ text, byte = 98 :=
    ⟨List.replicate 510 98, List.length_replicate, fun _ => List.eq_of_mem_replicate⟩
  obtain ⟨events, s, run, history, completed⟩ := overflow_joins_run fills
    (fun member => absurd (same lineFeed member) (by decide)) 99 100 (by decide)
  refine ⟨events, s, withoutTrailingReturn (text ++ [100]), run, ?_, ?_⟩
  · rw [completed]
    exact List.mem_singleton_self _
  · rw [history, undamagedLines_overflow]
    · have other : (100 : UInt8) ≠ carriageReturn := by decide
      simp [withoutTrailingReturn, other]
    · intro entry member
      rcases List.mem_append.mp member with old | new
      · obtain ⟨byte, inside, rfl⟩ := List.mem_map.mp old
        rw [same byte inside]
        decide
      · rcases List.mem_cons.mp new with rfl | last
        · decide
        · rw [List.mem_singleton.mp last]
          decide
    · exact List.mem_append_right _ List.mem_cons_self

end FlightComputer.Firmware
