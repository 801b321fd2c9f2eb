import FlightComputer.Firmware.ReceivePath

/-!
# The receive path refines line framing

As long as the raw ring drops no byte, the framer is in step with the line
protocol on the bytes framed (`ReceiveSystem.InStep.of_run`), so the three
chained buffers act as one queue of the lines of the host's stream
(`receive_path_refines_framing`). Lines are lost only where the line queue held
two of them, and those losses are counted in a 32-bit counter, which wraps
around (`completed_lines_dropped_wraps`).
-/

set_option autoImplicit false

namespace FlightComputer.Firmware

open Library

/-- No byte of a history was dropped. -/
def NothingDropped (history : List HostByte) : Prop := ∀ entry ∈ history, entry.2 = true

instance (history : List HostByte) : Decidable (NothingDropped history) :=
  List.decidableBAll (fun entry : HostByte => entry.2 = true) history

theorem acceptedBytes_of_nothingDropped {history : List HostByte}
    (nothing : NothingDropped history) : acceptedBytes history = history.map Prod.fst := by
  rw [acceptedBytes, List.filter_eq_self.mpr nothing]

/-- How many completed lines found the line queue full. -/
def removedCount (completions : List Completion) : Nat :=
  completions.countP fun completion => completion.2

namespace ReceiveSystem

/-- The bytes a packet appends to the history are the packet. -/
theorem receive_history (s : ReceiveSystem) (packet : Bytes) :
    ∃ more, (s.receive packet).history = s.history ++ more ∧ more.map Prod.fst = packet := by
  induction packet generalizing s with
  | nil => exact ⟨[], by simp [receive], rfl⟩
  | cons byte packet ih =>
      obtain ⟨more, history, bytes⟩ := ih (s.receiveByte byte)
      refine ⟨(byte, rawReceiveHasRoom s.transport) :: more, ?_, by simp [bytes]⟩
      rw [receive, List.foldl_cons, ← receive, history]
      simp [receiveByte]

/-- No step forgets a byte the host sent. -/
theorem history_extends {s t : ReceiveSystem} {event : ReceiveEvent}
    (step : ReceiveStep s event t) : s.history <+: t.history := by
  cases step with
  | packet bytes =>
      obtain ⟨more, history, _⟩ := receive_history s bytes
      exact ⟨more, history.symm⟩
  | pop | popEmpty | frame | readLine | transmit => exact List.prefix_rfl

/-- The framer is in step with the line protocol on the bytes framed, and no
overflow is recorded. -/
structure InStep (s : ReceiveSystem) : Prop where
  follows : s.transport.receiveFramer.Follows s.framed
  unflagged : s.transport.receiveOverflowPending = false
  popped_unflagged : ∀ byte overflowed, s.popped = some (byte, overflowed) → overflowed = false
  completions_eq :
    s.completions.map Prod.fst = framedLines newlineFramerMaxLineLength s.framed

theorem initial_inStep : initial.InStep where
  follows := newlineFramerInitialize_follows
  unflagged := rfl
  popped_unflagged := by
    intro byte overflowed popped
    cases popped
  completions_eq := rfl

/-- The receive side of two systems that differ elsewhere. -/
theorem InStep.congr {s t : ReceiveSystem} (h : s.InStep)
    (framer : t.transport.receiveFramer = s.transport.receiveFramer)
    (flag : t.transport.receiveOverflowPending = s.transport.receiveOverflowPending)
    (popped : t.popped = s.popped) (framed : t.framed = s.framed)
    (completions : t.completions = s.completions) : t.InStep where
  follows := by
    rw [framer, framed]
    exact h.follows
  unflagged := flag.trans h.unflagged
  popped_unflagged := popped ▸ h.popped_unflagged
  completions_eq := by
    rw [completions, framed]
    exact h.completions_eq

/-- A packet of which no byte is dropped leaves the framer in step. -/
theorem InStep.receive {s : ReceiveSystem} (fifo : s.Fifo) (h : s.InStep) (packet : Bytes)
    (nothing : NothingDropped (s.receive packet).history) : (s.receive packet).InStep := by
  induction packet generalizing s with
  | nil => exact h
  | cons byte packet ih =>
      have room : rawReceiveHasRoom s.transport = true := by
        obtain ⟨more, history, _⟩ := receive_history (s.receiveByte byte) packet
        apply nothing (byte, rawReceiveHasRoom s.transport)
        change _ ∈ ((s.receiveByte byte).receive packet).history
        rw [history]
        simp [receiveByte]
      obtain ⟨_, _, flag, same⟩ := cdcReceiveByte_room fifo.indices byte room
      exact ih (fifo.receiveByte byte) (h.congr same.receiveFramer flag rfl rfl rfl) nothing

/-- **A step that drops no byte keeps the framer in step.** -/
theorem InStep.step {s t : ReceiveSystem} {event : ReceiveEvent} (fifo : s.Fifo) (h : s.InStep)
    (step : ReceiveStep s event t) (nothing : NothingDropped t.history) : t.InStep := by
  cases step with
  | packet bytes => exact h.receive fifo bytes nothing
  | @pop popped byte overflowed idle taken =>
      cases held : s.transport.buffered with
      | nil =>
          rw [popReceivedByte_empty fifo.indices held] at taken
          simp at taken
      | cons first others =>
          obtain ⟨popped', result, _, _, cleared, same⟩ :=
            popReceivedByte_cons fifo.indices held
          rw [result, h.unflagged] at taken
          simp only [Prod.mk.injEq, Option.some.injEq] at taken
          obtain ⟨rfl, rfl, rfl⟩ := taken
          refine ⟨by rw [same.receiveFramer]; exact h.follows, cleared, ?_, h.completions_eq⟩
          rintro _ _ ⟨⟩
          rfl
  | @popEmpty popped overflowed idle taken =>
      have empty : s.transport.buffered = [] := by
        cases held : s.transport.buffered with
        | nil => rfl
        | cons first others =>
            obtain ⟨_, result, _⟩ := popReceivedByte_cons fifo.indices held
            rw [result] at taken
            simp at taken
      rw [popReceivedByte_empty fifo.indices empty, h.unflagged] at taken
      simp only [Prod.mk.injEq, true_and] at taken
      obtain ⟨rfl, rfl⟩ := taken
      exact h.congr rfl h.unflagged.symm rfl rfl rfl
  | @frame byte overflowed taken =>
      obtain rfl := h.popped_unflagged byte overflowed taken
      refine ⟨?_, ?_, ?_, ?_⟩
      · change (frameReceivedByte byte false s.transport).receiveFramer.Follows _
        rw [frameReceivedByte_receiveFramer]
        exact h.follows.framerAfter byte
      · exact (frameReceivedByte_same byte false s.transport).receiveOverflowPending.trans
          h.unflagged
      · rintro _ _ ⟨⟩
      · change (s.completions ++ completionsOf byte false s.transport).map Prod.fst = _
        have added : (completionsOf byte false s.transport).map Prod.fst =
            completedBy s.transport.receiveFramer byte := by
          simp [completionsOf, discardIfOverflowed, Function.comp_def]
        rw [List.map_append, added, h.completions_eq]
        exact (h.follows.framedLines_concat byte).symm
  | readLine idle capacity =>
      refine h.congr ?_ ?_ rfl rfl rfl
      all_goals
        simp only [ReceiveSystem.readLine, usbCdcTransportReadLine]
        split_ifs <;> rfl
  | transmit idle usb =>
      obtain ⟨_, _, _, flag, framer, _, _⟩ := transmit_same usb s.transport
      exact h.congr framer flag rfl rfl rfl

/-- **In every run in which no byte is dropped, the framer is in step.** -/
theorem InStep.of_run {s : ReceiveSystem} {events : List ReceiveEvent}
    (run : Run ReceiveStep initial events s) (nothing : NothingDropped s.history) :
    s.InStep := by
  have both : s.Fifo ∧ (NothingDropped s.history → s.InStep) := by
    refine run.invariant (I := fun s => s.Fifo ∧ (NothingDropped s.history → s.InStep)) ?_
      ⟨initial_fifo, fun _ => initial_inStep⟩
    rintro s event t ⟨fifo, earlier⟩ step
    refine ⟨fifo.step step, fun nothing => (earlier ?_).step fifo step nothing⟩
    exact fun entry member => nothing entry ((history_extends step).subset member)
  exact both.2 nothing

end ReceiveSystem

/-- **The receive path refines line framing.** In every run in which no byte is
dropped, the ring indices stay in the array, every byte is framed once and in
arrival order, the completed lines are those of framing the bytes consumed, and
the lines returned and queued are the completed ones but for those that found
two lines queued. The drop counter is the number of these modulo 2^32. Where
none was removed, the lines depend on the bytes consumed alone, not on the
packets that brought them. -/
theorem receive_path_refines_framing {s : ReceiveSystem} {events : List ReceiveEvent}
    (run : Run ReceiveStep .initial events s) (nothing : NothingDropped s.history) :
    (s.transport.rawReceiveHead < 512 ∧ s.transport.rawReceiveTail < 512 ∧
        s.transport.buffered.length ≤ 511) ∧
      s.history.map Prod.fst =
        s.framed ++ s.popped.toList.map Prod.fst ++ s.transport.buffered ∧
      s.completions.map Prod.fst = framedLines newlineFramerMaxLineLength s.framed ∧
      s.returned ++ s.transport.receivedLines.contents =
        (s.completions.filter fun completion => !completion.2).map Prod.fst ∧
      s.transport.completedLinesDropped = UInt32.ofNat (removedCount s.completions) ∧
      (removedCount s.completions = 0 →
        ∀ events' s', Run ReceiveStep .initial events' s' → NothingDropped s'.history →
          s'.framed = s.framed → removedCount s'.completions = 0 →
            s'.returned ++ s'.transport.receivedLines.contents =
              s.returned ++ s.transport.receivedLines.contents) := by
  have fifo := ReceiveSystem.Fifo.of_run run
  have inStep := ReceiveSystem.InStep.of_run run nothing
  -- without removals, what was returned and queued is what was completed
  have complete : ∀ events s, Run ReceiveStep .initial events s → NothingDropped s.history →
      removedCount s.completions = 0 →
        s.returned ++ s.transport.receivedLines.contents =
          framedLines newlineFramerMaxLineLength s.framed := by
    intro events s run nothing noneRemoved
    rw [(ReceiveSystem.Fifo.of_run run).lines.lines_eq,
      ← (ReceiveSystem.InStep.of_run run nothing).completions_eq]
    congr 1
    refine List.filter_eq_self.mpr fun completion member => ?_
    simpa using List.countP_eq_zero.mp noneRemoved completion member
  refine ⟨⟨fifo.indices.head_lt, fifo.indices.tail_lt,
    UsbCdcTransport.RawIndices.length_buffered_le s.transport⟩, ?_, inStep.completions_eq,
    fifo.lines.lines_eq, fifo.lines.dropped_eq, ?_⟩
  · rw [← acceptedBytes_of_nothingDropped nothing]
    exact fifo.bytes_eq
  · intro noneRemoved events' s' run' nothing' sameBytes noneRemoved'
    rw [complete events' s' run' nothing' noneRemoved', complete events s run nothing noneRemoved,
      sameBytes]

/-- A line that arrives in one packet is framed and read. -/
theorem receive_path_refines_framing_one_line :
    ∃ events s, Run ReceiveStep .initial events s ∧ s.returned = [[97]] ∧
      s.completions.map Prod.fst = framedLines newlineFramerMaxLineLength s.framed := by
  have run : Run ReceiveStep .initial
      [.packet [97, lineFeed], .pop, .frame, .pop, .frame, .pop, .readLine 4097] _ :=
    .head (.packet _ _) (.head (.pop rfl rfl) (.head (.frame rfl) (.head (.pop rfl rfl)
      (.head (.frame rfl) (.head (.popEmpty rfl rfl) (.single (.readLine rfl 4097)))))))
  exact ⟨_, _, run, by decide, (receive_path_refines_framing run (by decide)).2.2.1⟩

/-! ## The drop counter wraps around -/

/-- `count` bare line feeds, received and framed one by one and never read. -/
theorem unread_lineFeeds_run (count : Nat) :
    ∃ events s, Run ReceiveStep .initial events s ∧ NothingDropped s.history ∧
      s.popped = none ∧ s.transport.buffered = [] ∧ s.framed = List.replicate count lineFeed ∧
      s.returned = [] := by
  induction count with
  | zero =>
      refine ⟨[], .initial, .refl _, ?_, rfl, rfl, rfl, rfl⟩
      intro entry member
      cases member
  | succ count ih =>
      obtain ⟨events, s, run, nothing, idle, empty, framed, returned⟩ := ih
      have fifo := ReceiveSystem.Fifo.of_run run
      have room : rawReceiveHasRoom s.transport = true := by
        rw [rawReceiveHasRoom, decide_eq_true_iff, Ne, ← fifo.indices.length_buffered_eq_iff,
          empty]
        decide
      obtain ⟨_, buffered, _, _⟩ := cdcReceiveByte_room fifo.indices lineFeed room
      have first : ReceiveStep s (.packet [lineFeed]) (s.receiveByte lineFeed) :=
        .packet s [lineFeed]
      obtain ⟨others, t, later, processed⟩ :=
        ReceiveSystem.processReceivedBytes_run (fifo.step first) idle
      have held : (s.receiveByte lineFeed).transport.buffered = [lineFeed] := by
        rw [empty] at buffered
        exact buffered
      refine ⟨_, t, run.trans (.head first later), ?_, processed.idle, processed.emptied, ?_,
        processed.returned_eq.trans returned⟩
      · rw [processed.history_eq]
        intro entry member
        rcases List.mem_append.mp member with old | new
        · exact nothing entry old
        · rw [List.mem_singleton.mp new]
          exact room
      · rw [processed.framed_eq, held, List.replicate_succ']
        exact congrArg (· ++ [lineFeed]) framed

/-- Every line feed of a stream of line feeds delivers an empty line. -/
theorem length_framedLines_lineFeeds (limit count : Nat) :
    (framedLines limit (List.replicate count lineFeed)).length = count ∧
      unfinished (List.replicate count lineFeed) = [] := by
  induction count with
  | zero => exact ⟨rfl, rfl⟩
  | succ count ih =>
      rw [List.replicate_succ', framedLines_concat_lineFeed, unfinished_concat_lineFeed, ih.2,
        List.length_append, ih.1]
      exact ⟨rfl, rfl⟩

/-- After 2^32 + 2 unread line feeds, more lines were removed than the counter
says. -/
theorem completed_lines_dropped_wraps :
    ∃ events s, Run ReceiveStep .initial events s ∧ NothingDropped s.history ∧
      removedCount s.completions ≠ s.transport.completedLinesDropped.toNat := by
  obtain ⟨events, s, run, nothing, _, _, framed, returned⟩ := unread_lineFeeds_run (2 ^ 32 + 2)
  have fifo := ReceiveSystem.Fifo.of_run run
  have inStep := ReceiveSystem.InStep.of_run run nothing
  refine ⟨events, s, run, nothing, ?_⟩
  have total : s.completions.length = 2 ^ 32 + 2 := by
    rw [← List.length_map (f := Prod.fst), inStep.completions_eq, framed]
    exact (length_framedLines_lineFeeds _ _).1
  have queued : (s.completions.filter fun completion => !completion.2).length ≤ 2 := by
    have lines := congrArg List.length fifo.lines.lines_eq
    rw [returned, List.nil_append, CircularBuffer.length_contents, List.length_map] at lines
    rw [← lines]
    exact fifo.lines.consistent.count_le
  have parts := List.length_eq_countP_add_countP (fun completion : Completion => completion.2)
    (l := s.completions)
  rw [List.countP_eq_length_filter (p := fun a : Completion => decide ¬a.2 = true)] at parts
  have large : 2 ^ 32 ≤ removedCount s.completions := by
    simp only [Bool.not_eq_true, Bool.decide_eq_false] at parts
    simp only [removedCount]
    omega
  have bounded := s.transport.completedLinesDropped.toNat_lt
  omega

end FlightComputer.Firmware
