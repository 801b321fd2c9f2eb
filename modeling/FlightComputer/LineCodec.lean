import FlightComputer.FramingAgreement
import FlightComputer.Firmware.TransmitQueue

/-!
# What one side encodes, the other side frames

A payload without line feed and carriage return that fits the limit is one segment of the line
protocol and stays what it is (`framingEvents_append_frames`). Both encoders accept such
payloads and no others, `encode_line` of the tester and `usb_cdc_transport_queue_line` of the
firmware, so the framer of the other side returns exactly what was sent (`line_codec_round_trip`).
-/

set_option autoImplicit false

namespace FlightComputer

open Library Firmware BoardTester

/-! ## Payloads -/

/-- A payload that an encoder accepts. -/
structure Frameable (limit : Nat) (payload : Bytes) : Prop where
  length_le : payload.length ≤ limit
  noLineFeed : lineFeed ∉ payload
  noReturn : carriageReturn ∉ payload

variable {limit : Nat} {payload : Bytes}

theorem Frameable.withoutTrailingReturn_eq (frameable : Frameable limit payload) :
    withoutTrailingReturn payload = payload := by
  refine if_neg fun last => frameable.noReturn ?_
  exact List.mem_of_getLast? last

/-- `encode_line` accepts frameable payloads only, and ends them with a line feed. -/
theorem frameable_of_encodeLine {frame : Bytes} (encoded : encodeLine payload limit = .ok frame) :
    Frameable limit payload ∧ frame = payload ++ [lineFeed] := by
  rw [encodeLine] at encoded
  split_ifs at encoded with long special
  rw [not_or] at special
  exact ⟨⟨Nat.not_lt.mp long, special.1, special.2⟩, (Except.ok.inj encoded).symm⟩

/-- `usb_cdc_transport_queue_line` accepts frameable lines only, and stores them with a line
feed. -/
theorem frameable_of_queueLine {transport : UsbCdcTransport}
    (accepted : (usbCdcTransportQueueLine payload transport).2 = true) :
    Frameable newlineFramerMaxLineLength payload ∧
      (usbCdcTransportQueueLine payload transport).1.transmitLines =
        transport.transmitLines.push (payload ++ [lineFeed]) := by
  rw [usbCdcTransportQueueLine] at accepted ⊢
  split_ifs at accepted ⊢ with refused
  rw [not_or, not_or, not_or] at refused
  exact ⟨⟨Nat.not_lt.mp refused.1, refused.2.2.1, refused.2.2.2⟩, rfl⟩

/-- `encode_line` accepts every frameable payload. -/
theorem Frameable.encodeLine (frameable : Frameable limit payload) :
    encodeLine payload limit = .ok (payload ++ [lineFeed]) := by
  have special : ¬(lineFeed ∈ payload ∨ carriageReturn ∈ payload) :=
    not_or.mpr ⟨frameable.noLineFeed, frameable.noReturn⟩
  rw [BoardTester.encodeLine, if_neg (Nat.not_lt.mpr frameable.length_le), if_neg special]

/-- `usb_cdc_transport_queue_line` accepts every frameable line, unless the queue is full. -/
theorem Frameable.queueLine (frameable : Frameable newlineFramerMaxLineLength payload)
    {transport : UsbCdcTransport}
    (room : transport.transmitLines.count ≠ usbCdcTransmitQueueDepth) :
    usbCdcTransportQueueLine payload transport =
      ({ transport with transmitLines := transport.transmitLines.push (payload ++ [lineFeed]) },
        true) := by
  have accepted : ¬(newlineFramerMaxLineLength < payload.length ∨
      transport.transmitLines.count = usbCdcTransmitQueueDepth ∨ lineFeed ∈ payload ∨
      carriageReturn ∈ payload) :=
    not_or.mpr ⟨Nat.not_lt.mpr frameable.length_le, not_or.mpr ⟨room,
      not_or.mpr ⟨frameable.noLineFeed, frameable.noReturn⟩⟩⟩
  rw [usbCdcTransportQueueLine, if_neg accepted]

/-! ## The line protocol -/

/-- **One frame** from a line boundary on is one line. -/
theorem framingEvents_append_frame {before : Bytes} (boundary : unfinished before = [])
    (frameable : Frameable limit payload) :
    framingEvents limit (before ++ (payload ++ [lineFeed])) =
        framingEvents limit before ++ [.line payload] ∧
      unfinished (before ++ (payload ++ [lineFeed])) = [] := by
  have clean : ∀ byte ∈ payload, endsLine byte = false := by
    intro byte listed
    rw [endsLine, beq_eq_false_iff_ne]
    rintro rfl
    exact frameable.noLineFeed listed
  obtain ⟨same, longer⟩ := split_append_of_not_ends before clean
  have events : framingEvents limit (before ++ payload) = framingEvents limit before := by
    rw [framingEvents, same, framingEvents]
  have unended : unfinished (before ++ payload) = payload := by
    rw [unfinished, longer, ← unfinished, boundary, List.nil_append]
  rw [← List.append_assoc, framingEvents_concat_lineFeed, unfinished_concat_lineFeed, events,
    unended, frameSegment, if_pos frameable.length_le, frameable.withoutTrailingReturn_eq]
  exact ⟨rfl, rfl⟩

/-- **Frames** from a line boundary on are the lines of their payloads. -/
theorem framingEvents_append_frames {before : Bytes} (boundary : unfinished before = [])
    (payloads : List Bytes) (frameable : ∀ payload ∈ payloads, Frameable limit payload) :
    framingEvents limit (before ++ (payloads.map transmitted).flatten) =
        framingEvents limit before ++ payloads.map .line ∧
      unfinished (before ++ (payloads.map transmitted).flatten) = [] := by
  induction payloads generalizing before with
  | nil =>
      rw [List.map_nil, List.flatten_nil, List.append_nil, List.map_nil, List.append_nil]
      exact ⟨rfl, boundary⟩
  | cons payload payloads ih =>
      obtain ⟨first, boundary'⟩ :=
        framingEvents_append_frame boundary (frameable payload List.mem_cons_self)
      obtain ⟨later, ended⟩ :=
        ih boundary' fun other listed => frameable other (List.mem_cons_of_mem _ listed)
      rw [List.map_cons, List.flatten_cons, ← List.append_assoc]
      refine ⟨later.trans ?_, ended⟩
      rw [first, List.append_assoc, List.map_cons]
      rfl

/-! ## The firmware's framer -/

/-- The framer is at a line boundary. -/
def AtBoundary (framer : Firmware.NewlineFramer) : Prop :=
  framer.line = [] ∧ framer.discarding = false

/-- A framer that differs in its line only. -/
theorem framer_ext {first second : Firmware.NewlineFramer} (line : first.line = second.line)
    (overflowCount : first.overflowCount = second.overflowCount)
    (discarding : first.discarding = second.discarding) : first = second := by
  cases first
  cases second
  cases line
  cases overflowCount
  cases discarding
  rfl

/-- One part of a stream after the other. -/
theorem newlineFramerConsume_append {κ : Type} {lineCallback : Bytes → κ → κ}
    {framer after : Firmware.NewlineFramer} {context next : κ} {first : Bytes}
    (consumed : newlineFramerConsume lineCallback framer first context = (after, next))
    (later : Bytes) :
    newlineFramerConsume lineCallback framer (first ++ later) context =
      newlineFramerConsume lineCallback after later next := by
  have begun : first.foldl (newlineFramerConsumeByte lineCallback) (framer, context) =
      (after, next) := consumed
  rw [newlineFramerConsume, List.foldl_append, begun]
  rfl

section Consume

variable {κ : Type} (lineCallback : Bytes → κ → κ) {framer : Firmware.NewlineFramer}
  (boundary : AtBoundary framer) (context : κ)
include boundary

/-- A payload that fits is collected. -/
theorem newlineFramerConsume_payload (payload : Bytes) (noLineFeed : lineFeed ∉ payload)
    (fits : payload.length ≤ newlineFramerMaxLineLength) :
    ∃ after, newlineFramerConsume lineCallback framer payload context = (after, context) ∧
      after.line = payload ∧ after.overflowCount = framer.overflowCount ∧
      after.discarding = false := by
  induction payload using List.reverseRecOn with
  | nil => exact ⟨framer, rfl, boundary.1, rfl, boundary.2⟩
  | append_singleton payload byte ih =>
      rw [List.length_append, List.length_singleton] at fits
      obtain ⟨after, consumed, line, overflowCount, framing⟩ :=
        ih (fun listed => noLineFeed (List.mem_append_left _ listed)) (by omega)
      have other : byte ≠ lineFeed := by
        rintro rfl
        exact noLineFeed (List.mem_append_right _ List.mem_cons_self)
      obtain ⟨line', overflowCount', framing'⟩ := framerAfter_append after framing other (by
        rw [line]
        omega)
      refine ⟨framerAfter after byte, ?_, by rw [line', line], overflowCount'.trans overflowCount,
        framing'⟩
      rw [newlineFramerConsume_append consumed, newlineFramerConsume, List.foldl_cons,
        List.foldl_nil, newlineFramerConsumeByte_eq, completedBy, framing, if_neg other]
      rfl

/-- **A frame** is handed to the callback, and the framer is where it was. -/
theorem newlineFramerConsume_frame (frameable : Frameable newlineFramerMaxLineLength payload) :
    newlineFramerConsume lineCallback framer (payload ++ [lineFeed]) context =
      (framer, lineCallback payload context) := by
  obtain ⟨after, consumed, line, overflowCount, framing⟩ := newlineFramerConsume_payload
    lineCallback boundary context payload frameable.noLineFeed frameable.length_le
  obtain ⟨line', overflowCount', framing'⟩ := framerAfter_lineFeed after framing
  have same : framerAfter after lineFeed = framer :=
    framer_ext (line'.trans boundary.1.symm) (overflowCount'.trans overflowCount)
      (framing'.trans boundary.2.symm)
  rw [newlineFramerConsume_append consumed, newlineFramerConsume, List.foldl_cons,
    List.foldl_nil, newlineFramerConsumeByte_eq, same, completedBy, framing, line,
    frameable.withoutTrailingReturn_eq]
  rfl

/-- **Frames** are handed to the callback in order. -/
theorem newlineFramerConsume_frames (payloads : List Bytes)
    (frameable : ∀ payload ∈ payloads, Frameable newlineFramerMaxLineLength payload) :
    newlineFramerConsume lineCallback framer (payloads.map transmitted).flatten context =
      (framer, payloads.foldl (fun context line => lineCallback line context) context) := by
  induction payloads generalizing context with
  | nil => rfl
  | cons payload payloads ih =>
      have first := newlineFramerConsume_frame lineCallback boundary context
        (frameable payload List.mem_cons_self)
      rw [List.map_cons, List.flatten_cons, transmitted, newlineFramerConsume_append first]
      exact ih _ fun other listed => frameable other (List.mem_cons_of_mem _ listed)

end Consume

/-! ## The round trip -/

/-- The tester's encoder accepts all payloads. -/
def EncodesTo (payloads frames : List Bytes) : Prop :=
  payloads.map (fun payload => encodeLine payload maxLineLength) = frames.map .ok

/-- The firmware accepts all lines, each on some transport, and stores the frames for
transmission: each is the content of the slot that was free before. -/
def QueuesTo (calls : List (UsbCdcTransport × Bytes)) (frames : List Bytes) : Prop :=
  (∀ call ∈ calls, (usbCdcTransportQueueLine call.2 call.1).2 = true) ∧
    frames = calls.map fun call =>
      (usbCdcTransportQueueLine call.2 call.1).1.transmitLines.slots call.1.transmitLines.head

theorem frames_of_encodesTo {payloads frames : List Bytes} (encodes : EncodesTo payloads frames) :
    (∀ payload ∈ payloads, Frameable maxLineLength payload) ∧
      frames = payloads.map transmitted := by
  induction payloads generalizing frames with
  | nil =>
      rw [EncodesTo, List.map_nil] at encodes
      refine ⟨?_, List.map_eq_nil_iff.mp encodes.symm⟩
      intro payload listed
      cases listed
  | cons payload payloads ih =>
      cases frames with
      | nil => cases encodes
      | cons frame frames =>
          obtain ⟨first, later⟩ := List.cons.inj encodes
          obtain ⟨frameable, rfl⟩ := frameable_of_encodeLine first
          obtain ⟨all, rfl⟩ := ih later
          refine ⟨fun other listed => ?_, rfl⟩
          rcases List.mem_cons.mp listed with rfl | among
          · exact frameable
          · exact all other among

theorem frames_of_queuesTo {calls : List (UsbCdcTransport × Bytes)} {frames : List Bytes}
    (queues : QueuesTo calls frames) :
    (∀ line ∈ calls.map Prod.snd, Frameable newlineFramerMaxLineLength line) ∧
      frames = (calls.map Prod.snd).map transmitted := by
  obtain ⟨accepted, rfl⟩ := queues
  refine ⟨fun line listed => ?_, ?_⟩
  · obtain ⟨call, among, rfl⟩ := List.mem_map.mp listed
    exact (frameable_of_queueLine (accepted call among)).1
  · rw [List.map_map]
    refine List.map_congr_left fun call among => ?_
    rw [(frameable_of_queueLine (accepted call among)).2]
    exact Function.update_self ..

/-- **Every payload of 0 to 4096 bytes** without line feed and carriage return is accepted by both
encoders. -/
theorem encodesTo_queuesTo_of_length_le (short : payload.length ≤ 4096)
    (noLineFeed : lineFeed ∉ payload) (noReturn : carriageReturn ∉ payload) :
    EncodesTo [payload] [payload ++ [lineFeed]] ∧
      ∀ transport : UsbCdcTransport,
        transport.transmitLines.count ≠ usbCdcTransmitQueueDepth →
        QueuesTo [(transport, payload)] [payload ++ [lineFeed]] := by
  have frameable : Frameable maxLineLength payload := ⟨short, noLineFeed, noReturn⟩
  refine ⟨congrArg (· :: []) frameable.encodeLine, fun transport room => ?_⟩
  have queued := Frameable.queueLine ⟨short, noLineFeed, noReturn⟩ room
  refine ⟨fun call listed => ?_, ?_⟩
  · obtain rfl := List.mem_singleton.mp listed
    exact congrArg Prod.snd queued
  · rw [List.map_singleton, queued]
    refine congrArg (· :: []) ?_
    exact (Function.update_self (β := fun _ => Bytes) ..).symm

/-- **The line codec round trip.** Whatever the tester encodes, `newline_framer_consume` delivers
from a line boundary on, and the framer is then where it was; whatever the firmware queues,
the tester's framer returns after any stream that ends at a line boundary, without an error. In
both directions the stream may be cut into any chunks. -/
theorem line_codec_round_trip :
    (∀ (framer : Firmware.NewlineFramer) (payloads frames chunks : List Bytes),
      AtBoundary framer → EncodesTo payloads frames → chunks.flatten = frames.flatten →
      chunks.foldl (fun state chunk => newlineFramerConsume captureLine state.1 chunk state.2)
        (framer, []) = (framer, payloads)) ∧
    ∀ (earlier later : List FramerCall) (calls : List (UsbCdcTransport × Bytes))
      (frames : List Bytes), unfinished (fedBytes earlier) = [] → QueuesTo calls frames →
      fedBytes later = frames.flatten →
      (runFramerCalls maxLineLength (earlier ++ later)).2 ++
          (runFramerCalls maxLineLength (earlier ++ later)).1.events.map eventOf =
        framingEvents maxLineLength (fedBytes earlier) ++
          (calls.map Prod.snd).map .line := by
  refine ⟨?_, ?_⟩
  · intro framer payloads frames chunks boundary encodes cut
    obtain ⟨frameable, rfl⟩ := frames_of_encodesTo encodes
    have captured : ∀ (payloads lines : List Bytes),
        payloads.foldl (fun context line => captureLine line context) lines = lines ++ payloads := by
      intro payloads
      induction payloads with
      | nil => exact fun lines => (List.append_nil lines).symm
      | cons payload payloads ih =>
          intro lines
          rw [List.foldl_cons, ih, captureLine, List.append_assoc]
          rfl
    rw [foldl_newlineFramerConsume, cut,
      newlineFramerConsume_frames captureLine boundary [] payloads frameable, captured]
    rfl
  · intro earlier later calls frames boundary queues fed
    obtain ⟨frameable, rfl⟩ := frames_of_queuesTo queues
    rw [(NewlineFramer.Follows.runFramerCalls maxLineLength (earlier ++ later)).events_eq,
      fedBytes_append, fed]
    exact (framingEvents_append_frames boundary _ frameable).1

/-- An empty payload and another one, in both directions. -/
theorem line_codec_round_trip_empty :
    ([[97], [10, 10]].foldl
        (fun state chunk => newlineFramerConsume captureLine state.1 chunk state.2)
        (newlineFramerInitialize, []) = (newlineFramerInitialize, [[97], []])) ∧
      (runFramerCalls maxLineLength ([] ++ [.feed [97, 10], .popLine, .feed [10]])).2 ++
          (runFramerCalls maxLineLength
            ([] ++ [.feed [97, 10], .popLine, .feed [10]])).1.events.map eventOf =
        framingEvents maxLineLength (fedBytes []) ++
          ([(resetTransportState, [97]), (resetTransportState, [])].map Prod.snd).map .line := by
  obtain ⟨toFirmware, toTester⟩ := line_codec_round_trip
  refine ⟨toFirmware newlineFramerInitialize [[97], []] [[97, 10], [10]] [[97], [10, 10]]
    ⟨rfl, rfl⟩ rfl rfl, ?_⟩
  refine toTester [] [.feed [97, 10], .popLine, .feed [10]]
    [(resetTransportState, [97]), (resetTransportState, [])] [[97, 10], [10]] rfl ⟨?_, rfl⟩ rfl
  decide

end FlightComputer
