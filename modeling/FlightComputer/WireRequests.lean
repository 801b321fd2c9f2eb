import FlightComputer.Wire
import FlightComputer.LineCodec

/-!
# Requests on the wire

What the tester has asked for and the firmware has not taken is on the wire: completed lines in the
line queue of the transport, a line under assembly in its framer, and bytes that are popped, in the
raw ring or on their way (`Wire.Carries`). As long as one request is under way at a time and is
shorter than the ring, nothing of it is lost: the ring has room for every byte, and the line queue
for the line.

A write that has failed may leave the first part of a line at the end. It is never completed, since
nothing is written after it.
-/

set_option autoImplicit false

namespace FlightComputer

open Library Firmware BoardTester

variable {δ : Type}

/-! ## The receive side -/

/-- The part of the transport that receiving is about is unchanged. -/
structure SameReceive (before after : UsbCdcTransport) : Prop where
  rawReceiveBuffer : after.rawReceiveBuffer = before.rawReceiveBuffer
  rawReceiveHead : after.rawReceiveHead = before.rawReceiveHead
  rawReceiveTail : after.rawReceiveTail = before.rawReceiveTail
  receiveOverflowPending : after.receiveOverflowPending = before.receiveOverflowPending
  receiveFramer : after.receiveFramer = before.receiveFramer
  receivedLines : after.receivedLines = before.receivedLines
  receivedBytesDropped : after.receivedBytesDropped = before.receivedBytesDropped
  completedLinesDropped : after.completedLinesDropped = before.completedLinesDropped

theorem SameReceive.buffered {before after : UsbCdcTransport} (same : SameReceive before after) :
    after.buffered = before.buffered := by
  simp only [UsbCdcTransport.buffered, UsbCdcTransport.rawReceive, rawReceiveCount,
    same.rawReceiveBuffer, same.rawReceiveHead, same.rawReceiveTail]

theorem sameReceive_transmit (usb : UsbdAnswers) (transport : UsbCdcTransport) :
    SameReceive transport
      (startPendingTransmission usb (finishCompletedTransmission transport)).1 := by
  unfold startPendingTransmission finishCompletedTransmission
  dsimp only
  split_ifs <;> exact ⟨rfl, rfl, rfl, rfl, rfl, rfl, rfl, rfl⟩

theorem sameReceive_queueResponse (response : Option Bytes) (s : SessionSystem δ) :
    SameReceive s.transport (queueResponse response s).transport := by
  cases response with
  | none => exact ⟨rfl, rfl, rfl, rfl, rfl, rfl, rfl, rfl⟩
  | some line =>
      show SameReceive s.transport (usbCdcTransportQueueLine line s.transport).1
      rw [usbCdcTransportQueueLine]
      split_ifs <;> exact ⟨rfl, rfl, rfl, rfl, rfl, rfl, rfl, rfl⟩

/-- Where the first line ends does not depend on how it is written. -/
theorem splitAtLineFeed {first first' rest rest' : Bytes} (clean : lineFeed ∉ first)
    (clean' : lineFeed ∉ first') (same : first ++ lineFeed :: rest = first' ++ lineFeed :: rest') :
    first = first' ∧ rest = rest' := by
  induction first generalizing first' with
  | nil =>
      cases first' with
      | nil => exact ⟨rfl, (List.cons.inj same).2⟩
      | cons byte first' =>
          obtain ⟨rfl, _⟩ := List.cons.inj same
          exact absurd List.mem_cons_self clean'
  | cons byte first ih =>
      cases first' with
      | nil =>
          obtain ⟨rfl, _⟩ := List.cons.inj same
          exact absurd List.mem_cons_self clean
      | cons byte' first' =>
          obtain ⟨rfl, later⟩ := List.cons.inj same
          obtain ⟨rfl, rfl⟩ := ih (fun listed => clean (List.mem_cons_of_mem _ listed))
            (fun listed => clean' (List.mem_cons_of_mem _ listed)) later
          exact ⟨rfl, rfl⟩

/-! ## What is under way -/

/-- The bytes that have been written and not framed. -/
def Wire.unframed (s : Wire δ) : Bytes :=
  s.popped.toList.map Prod.fst ++ s.transport.buffered ++ s.outgoing

/-- What comes after the completed lines: further lines, and the first part of a line if a write has
failed. -/
structure Coming (intact : Bool) (requests : List Bytes) (bytes : Bytes) : Prop where
  frameable : ∀ line ∈ requests, Frameable newlineFramerMaxLineLength line
  stream : ∃ left, bytes = (requests.map transmitted).flatten ++ left ∧ lineFeed ∉ left ∧
    (intact = true → left = [])

/-- **The wire carries the requests** that the firmware has not taken, one at most, and nothing of
them has been lost. -/
structure Wire.Carries (s : Wire δ) (intact : Bool) (requests : List Bytes) : Prop where
  indices : s.transport.RawIndices
  unflagged : s.transport.receiveOverflowPending = false
  poppedUnflagged : ∀ byte overflowed, s.popped = some (byte, overflowed) → overflowed = false
  framing : s.transport.receiveFramer.discarding = false
  clean : lineFeed ∉ s.transport.receiveFramer.line
  queued : s.transport.receivedLines.Consistent
  few : requests.length ≤ 1
  short : s.transport.receiveFramer.line.length + s.unframed.length ≤ usbCdcRawReceiveCapacity - 1
  bytesKept : s.transport.receivedBytesDropped = 0
  linesKept : s.transport.completedLinesDropped = 0
  coming : ∃ coming, requests = s.transport.receivedLines.contents ++ coming ∧
    Coming intact coming (s.transport.receiveFramer.line ++ s.unframed)

namespace Wire.Carries

variable {s t : Wire δ} {intact : Bool} {requests : List Bytes}

theorem rawIndices_reset : resetTransportState.RawIndices := ⟨by decide, by decide⟩

theorem unframed_initial (port : PyStr) (device : δ) : (Wire.initial port device).unframed = [] := by
  show [] ++ resetTransportState.buffered ++ [] = []
  rw [List.append_nil, List.nil_append]
  exact rawIndices_reset.buffered_eq_nil_iff.mpr rfl

theorem initial (port : PyStr) (device : δ) : (Wire.initial port device).Carries true [] where
  indices := rawIndices_reset
  unflagged := rfl
  poppedUnflagged := by
    intro byte overflowed popped
    cases popped
  framing := rfl
  clean := List.not_mem_nil
  queued := CircularBuffer.consistent_empty (by decide) _
  few := Nat.zero_le 1
  short := by
    rw [unframed_initial]
    exact Nat.zero_le _
  bytesKept := rfl
  linesKept := rfl
  coming := by
    refine ⟨[], rfl, fun _ listed => absurd listed List.not_mem_nil, [], ?_, List.not_mem_nil,
      fun _ => rfl⟩
    rw [unframed_initial]
    rfl

/-- It depends on the receive side and the bytes that have not arrived. -/
theorem congr (carries : s.Carries intact requests) (same : SameReceive s.transport t.transport)
    (popped : t.popped = s.popped) (outgoing : t.outgoing = s.outgoing) :
    t.Carries intact requests := by
  have unframed : t.unframed = s.unframed := by
    rw [Wire.unframed, Wire.unframed, popped, outgoing, same.buffered]
  refine ⟨?_, same.receiveOverflowPending.trans carries.unflagged, ?_, ?_, ?_, ?_, carries.few, ?_,
    same.receivedBytesDropped.trans carries.bytesKept,
    same.completedLinesDropped.trans carries.linesKept, ?_⟩
  · exact ⟨same.rawReceiveHead ▸ carries.indices.head_lt,
      same.rawReceiveTail ▸ carries.indices.tail_lt⟩
  · rw [popped]
    exact carries.poppedUnflagged
  · rw [same.receiveFramer]
    exact carries.framing
  · rw [same.receiveFramer]
    exact carries.clean
  · rw [same.receivedLines]
    exact carries.queued
  · rw [same.receiveFramer, unframed]
    exact carries.short
  · rw [same.receiveFramer, unframed, same.receivedLines]
    exact carries.coming

/-! ## Arriving -/

/-- **A byte that arrives** finds room in the ring. -/
theorem arriveByte {byte : UInt8} {later : Bytes} (carries : s.Carries intact requests)
    (outgoing : s.outgoing = byte :: later) :
    Carries { s with outgoing := later, transport := cdcReceiveByte s.transport byte } intact
      requests := by
  have length : s.unframed.length =
      s.popped.toList.length + s.transport.buffered.length + (later.length + 1) := by
    rw [Wire.unframed, outgoing, List.length_append, List.length_append, List.length_map,
      List.length_cons]
  have short := carries.short
  have room : rawReceiveHasRoom s.transport = true := by
    rw [rawReceiveHasRoom, decide_eq_true_iff, Ne, ← carries.indices.length_buffered_eq_iff]
    omega
  obtain ⟨indices, buffered, flag, same⟩ := cdcReceiveByte_room carries.indices byte room
  have unframed : Wire.unframed
      { s with outgoing := later, transport := cdcReceiveByte s.transport byte } = s.unframed := by
    rw [Wire.unframed, Wire.unframed, outgoing]
    show s.popped.toList.map Prod.fst ++ (cdcReceiveByte s.transport byte).buffered ++ later = _
    rw [buffered]
    simp only [List.append_assoc, List.cons_append, List.nil_append]
  have kept : (cdcReceiveByte s.transport byte).receivedBytesDropped =
      s.transport.receivedBytesDropped := by
    have free : (s.transport.rawReceiveHead + 1) % usbCdcRawReceiveCapacity ≠
        s.transport.rawReceiveTail := of_decide_eq_true room
    rw [cdcReceiveByte, if_neg free]
  refine ⟨indices, flag.trans carries.unflagged, carries.poppedUnflagged, ?_, ?_, ?_, carries.few,
    ?_, kept.trans carries.bytesKept, same.completedLinesDropped.trans carries.linesKept, ?_⟩
  · rw [same.receiveFramer]
    exact carries.framing
  · rw [same.receiveFramer]
    exact carries.clean
  · rw [same.receivedLines]
    exact carries.queued
  · rw [unframed, same.receiveFramer]
    exact short
  · rw [unframed, same.receiveFramer, same.receivedLines]
    exact carries.coming

/-- **A packet** is received whole. -/
theorem arrive (carries : s.Carries intact requests) (count : Nat) :
    Carries { s with
      outgoing := s.outgoing.drop count
      transport := cdcReceive s.transport (s.outgoing.take count) } intact requests := by
  induction count generalizing s with
  | zero => exact carries
  | succ count ih =>
      cases outgoing : s.outgoing with
      | nil => exact carries.congr ⟨rfl, rfl, rfl, rfl, rfl, rfl, rfl, rfl⟩ rfl outgoing.symm
      | cons byte later => exact ih (carries.arriveByte outgoing)

/-! ## Popping and framing -/

theorem pop {transport : UsbCdcTransport} {byte : UInt8} {overflowed : Bool}
    (carries : s.Carries intact requests) (idle : s.popped = none)
    (taken : popReceivedByte s.transport = (transport, some byte, overflowed)) :
    Carries { s with transport := transport, popped := some (byte, overflowed) } intact requests := by
  cases held : s.transport.buffered with
  | nil =>
      rw [popReceivedByte_empty carries.indices held] at taken
      cases taken
  | cons first others =>
      obtain ⟨popped, result, indices, buffered, flag, same⟩ :=
        popReceivedByte_cons carries.indices held
      rw [result] at taken
      obtain ⟨rfl, rfl, rfl⟩ : popped = transport ∧ first = byte ∧
          s.transport.receiveOverflowPending = overflowed := by
        simp only [Prod.mk.injEq, Option.some.injEq] at taken
        exact taken
      have unframed : Wire.unframed
          { s with
            transport := popped
            popped := some (first, s.transport.receiveOverflowPending) } = s.unframed := by
        rw [Wire.unframed, Wire.unframed, held, idle]
        show [first] ++ popped.buffered ++ s.outgoing = _
        rw [buffered]
        rfl
      have kept : popped.receivedBytesDropped = s.transport.receivedBytesDropped := by
        have whole := congrArg (fun taken => taken.1.receivedBytesDropped) result
        rw [popReceivedByte] at whole
        split_ifs at whole <;> exact whole.symm
      refine ⟨indices, flag, ?_, ?_, ?_, ?_, carries.few, ?_, kept.trans carries.bytesKept,
        same.completedLinesDropped.trans carries.linesKept, ?_⟩
      · rintro _ _ ⟨⟩
        exact carries.unflagged
      · rw [same.receiveFramer]
        exact carries.framing
      · rw [same.receiveFramer]
        exact carries.clean
      · rw [same.receivedLines]
        exact carries.queued
      · rw [unframed, same.receiveFramer]
        exact carries.short
      · rw [unframed, same.receiveFramer, same.receivedLines]
        exact carries.coming

theorem popEmpty {transport : UsbCdcTransport} {overflowed : Bool}
    (carries : s.Carries intact requests)
    (taken : popReceivedByte s.transport = (transport, none, overflowed)) :
    Carries { s with transport := discardIfOverflowed overflowed transport } intact requests := by
  have empty : s.transport.buffered = [] := by
    cases held : s.transport.buffered with
    | nil => rfl
    | cons first others =>
        obtain ⟨_, result, _⟩ := popReceivedByte_cons carries.indices held
        rw [result] at taken
        cases taken
  rw [popReceivedByte_empty carries.indices empty, carries.unflagged] at taken
  cases taken
  exact carries.congr ⟨rfl, rfl, rfl, carries.unflagged.symm, rfl, rfl, rfl, rfl⟩ rfl rfl

/-- **A byte that is framed** completes the line under assembly, or belongs to it. -/
theorem frame {byte : UInt8} {overflowed : Bool} (carries : s.Carries intact requests)
    (taken : s.popped = some (byte, overflowed)) :
    Carries { s with transport := frameReceivedByte byte overflowed s.transport, popped := none }
      intact requests := by
  obtain rfl := carries.poppedUnflagged byte overflowed taken
  obtain ⟨coming, rfl, frameable, left, stream, clean, whole⟩ := carries.coming
  have same := frameReceivedByte_same byte false s.transport
  have unmarked : discardIfOverflowed false s.transport = s.transport := rfl
  have framer : (frameReceivedByte byte false s.transport).receiveFramer =
      framerAfter s.transport.receiveFramer byte := frameReceivedByte_receiveFramer byte false _
  have kept : (frameReceivedByte byte false s.transport).receivedBytesDropped =
      s.transport.receivedBytesDropped := by
    rw [frameReceivedByte_eq, unmarked]
    rcases completedBy_cases s.transport.receiveFramer byte with none | one
    · rw [none]
      rfl
    · rw [one, List.foldl_cons, List.foldl_nil, completedLine_eq]
  have unframed : s.unframed = byte :: Wire.unframed
      { s with transport := frameReceivedByte byte false s.transport, popped := none } := by
    rw [Wire.unframed, taken, Wire.unframed]
    show byte :: (s.transport.buffered ++ s.outgoing) = byte :: ((frameReceivedByte byte false
      s.transport).buffered ++ s.outgoing)
    rw [same.buffered]
  have short := carries.short
  have few := carries.few
  rw [unframed, List.length_cons] at short
  rw [unframed] at stream
  have nothing : ∀ byte overflowed,
      (none : Option (UInt8 × Bool)) = some (byte, overflowed) → overflowed = false := by
    intro byte overflowed popped
    cases popped
  by_cases ends : byte = lineFeed
  · -- the line under assembly is the first of those that are coming
    subst ends
    cases coming with
    | nil =>
        have listed : lineFeed ∈ (List.map transmitted []).flatten ++ left :=
          stream ▸ List.mem_append_right _ List.mem_cons_self
        exact absurd listed clean
    | cons line coming =>
        obtain ⟨now, later⟩ := List.forall_mem_cons.mp frameable
        have split := stream
        rw [List.map_cons, List.flatten_cons, transmitted, List.append_assoc, List.append_assoc,
          List.singleton_append] at split
        obtain ⟨same', rest⟩ := splitAtLineFeed carries.clean now.noLineFeed split
        obtain ⟨line', _, mode⟩ := framerAfter_lineFeed _ carries.framing
        have empty : s.transport.receivedLines.count = 0 := by
          rw [List.length_append, List.length_cons, CircularBuffer.length_contents] at few
          omega
        have completed : completedBy s.transport.receiveFramer lineFeed = [line] := by
          rw [completedBy, carries.framing, if_neg Bool.false_ne_true, if_pos rfl, same',
            now.withoutTrailingReturn_eq]
        have room : ¬s.transport.receivedLines.count = usbCdcLineQueueDepth := by
          rw [empty]
          decide
        have queue : (frameReceivedByte lineFeed false s.transport).receivedLines =
            s.transport.receivedLines.push line ∧
            (frameReceivedByte lineFeed false s.transport).completedLinesDropped =
              s.transport.completedLinesDropped := by
          rw [frameReceivedByte_eq, unmarked, completed, List.foldl_cons, List.foldl_nil,
            completedLine_eq, if_neg room, if_neg room]
          exact ⟨rfl, rfl⟩
        have below : s.transport.receivedLines.count < usbCdcLineQueueDepth := by
          rw [empty]
          decide
        refine ⟨same.rawIndices carries.indices,
          same.receiveOverflowPending.trans carries.unflagged, nothing, ?_, ?_, ?_, few, ?_,
          kept.trans carries.bytesKept, queue.2.trans carries.linesKept, coming, ?_, later, left, ?_,
          clean, whole⟩
        · rw [framer]
          exact mode
        · rw [framer, line']
          exact List.not_mem_nil
        · rw [queue.1]
          exact carries.queued.push below line
        · rw [framer, line', List.length_nil]
          omega
        · rw [queue.1, carries.queued.contents_push below line, List.append_assoc]
          rfl
        · rw [framer, line', List.nil_append]
          exact rest
  · have room : s.transport.receiveFramer.line.length ≠ newlineFramerMaxLineLength := by
      intro full
      rw [full] at short
      exact absurd short (by
        simp only [newlineFramerMaxLineLength, usbCdcRawReceiveCapacity]
        omega)
    obtain ⟨line', _, mode⟩ := framerAfter_append _ carries.framing ends room
    have nothingCompleted : completedBy s.transport.receiveFramer byte = [] := by
      rw [completedBy, carries.framing, if_neg Bool.false_ne_true, if_neg ends]
    have queue : (frameReceivedByte byte false s.transport).receivedLines =
        s.transport.receivedLines ∧
        (frameReceivedByte byte false s.transport).completedLinesDropped =
          s.transport.completedLinesDropped := by
      rw [frameReceivedByte_eq, unmarked, nothingCompleted]
      exact ⟨rfl, rfl⟩
    refine ⟨same.rawIndices carries.indices, same.receiveOverflowPending.trans carries.unflagged,
      nothing, ?_, ?_, ?_, few, ?_, kept.trans carries.bytesKept, queue.2.trans carries.linesKept,
      coming, ?_, frameable, left, ?_, clean, whole⟩
    · rw [framer]
      exact mode
    · rw [framer, line']
      intro listed
      rcases List.mem_append.mp listed with earlier | last
      · exact carries.clean earlier
      · exact ends (List.mem_singleton.mp last).symm
    · rw [queue.1]
      exact carries.queued
    · rw [framer, line', List.length_append, List.length_singleton]
      omega
    · rw [queue.1]
    · rw [framer, line', List.append_assoc]
      exact stream

/-! ## Writing and taking -/

/-- When the firmware has taken every request, nothing is under way. -/
theorem nothing_underWay (carries : s.Carries true []) :
    s.transport.receivedLines.contents = [] ∧ s.transport.receiveFramer.line = [] ∧
      s.unframed = [] := by
  obtain ⟨coming, empty, _, left, stream, _, whole⟩ := carries.coming
  obtain ⟨contents, rfl⟩ := List.append_eq_nil_iff.mp empty.symm
  rw [whole rfl, List.map_nil, List.flatten_nil, List.append_nil] at stream
  exact ⟨contents, List.append_eq_nil_iff.mp stream⟩

/-- **Something short is written** when nothing is under way. -/
theorem write {bytes : Bytes} (carries : s.Carries true [])
    (short : bytes.length ≤ usbCdcRawReceiveCapacity - 1) (few : requests.length ≤ 1)
    (coming : Coming intact requests bytes) :
    Carries { s with outgoing := s.outgoing ++ bytes } intact requests := by
  obtain ⟨contents, line, unframed⟩ := carries.nothing_underWay
  have written : Wire.unframed { s with outgoing := s.outgoing ++ bytes } = bytes := by
    show s.popped.toList.map Prod.fst ++ s.transport.buffered ++ (s.outgoing ++ bytes) = bytes
    rw [← List.append_assoc, ← Wire.unframed, unframed, List.nil_append]
  refine ⟨carries.indices, carries.unflagged, carries.poppedUnflagged, carries.framing, carries.clean,
    carries.queued, few, ?_, carries.bytesKept, carries.linesKept, requests, ?_, ?_⟩
  · rw [written, line, List.length_nil, Nat.zero_add]
    exact short
  · show requests = s.transport.receivedLines.contents ++ requests
    rw [contents, List.nil_append]
  · rw [written, line, List.nil_append]
    exact coming

/-- **The session takes a request**: the first one. -/
theorem read {capacity : Nat} {transport : UsbCdcTransport} {line : Bytes}
    (carries : s.Carries intact requests)
    (read : usbCdcTransportReadLine capacity s.transport = (transport, .available line)) :
    ∃ later, requests = line :: later ∧
      Carries { s with transport := transport } intact later := by
  obtain ⟨coming, rfl, under⟩ := carries.coming
  rw [usbCdcTransportReadLine] at read
  dsimp only at read
  split_ifs at read with empty small
  · cases (Prod.mk.inj read).2
  · cases (Prod.mk.inj read).2
  · obtain ⟨rfl, same⟩ := Prod.mk.inj read
    obtain rfl := UsbCdcLineResult.available.inj same
    have occupied := Nat.pos_of_ne_zero empty
    have parts := carries.queued.contents_eq_cons occupied
    refine ⟨s.transport.receivedLines.pop.contents ++ coming, ?_,
      ⟨carries.indices.head_lt, carries.indices.tail_lt⟩, carries.unflagged,
      carries.poppedUnflagged, carries.framing, carries.clean, carries.queued.pop occupied, ?_, carries.short, carries.bytesKept, carries.linesKept, coming,
      rfl, under⟩
    · rw [parts, List.cons_append]
    · have few := carries.few
      rw [parts, List.cons_append, List.length_cons] at few
      exact Nat.le_of_succ_le few

end Wire.Carries

end FlightComputer
