import FlightComputer.BoardTester.Connection
import FlightComputer.LineCodec

/-!
# Writes that fail half-way

`write_line` keeps the offset in a frame to itself. A call that raises an exception may have put a
part of its frame on the wire, and the next call starts with the first byte of its own frame: the
firmware receives both as one line. So a call that returns has delivered its payload as a line of
its own exactly if the last call before it that has put bytes on the wire has put a whole frame
there (`writes_delivered_iff`).
-/

set_option autoImplicit false

namespace FlightComputer

open Library BoardTester

/-! ## What reaches the wire -/

/-- An attempt of `write_line` to write: what it comes to, and how many bytes reach the wire
although it raises an exception. -/
structure SerialWrite where
  answer : WriteAnswer
  stray : Nat

/-- How many bytes an attempt puts on the wire. -/
def SerialWrite.sent (write : SerialWrite) : Nat :=
  match write.answer with
  | .expired => 0
  | .accepted none => 0
  | .accepted (some count) => count
  | .timedOut => write.stray
  | .failed _ => write.stray
  | .interrupted => write.stray

/-- What attempts to write the rest of a frame put on the wire: attempts are made until one of
them ends the call. -/
def wireBytes : List SerialWrite → Bytes → Bytes
  | _, [] => []
  | [], _ :: _ => []
  | write :: later, byte :: frame =>
      match write.answer with
      | .accepted (some (count + 1)) =>
          (byte :: frame).take (count + 1) ++ wireBytes later ((byte :: frame).drop (count + 1))
      | _ => (byte :: frame).take write.sent

/-- A call of `write_line`: its payload, and what its attempts come to. -/
structure WriteCall where
  payload : Bytes
  writes : List SerialWrite

/-- What the call ends with. -/
def WriteCall.ended (port seconds : PyStr) (call : WriteCall) : Except TesterError Unit :=
  match encodeLine call.payload maxLineLength with
  | .ok frame => (writeFrame port seconds (call.writes.map SerialWrite.answer) frame).1
  | .error error => .error (.framing error)

/-- What the call puts on the wire. -/
def WriteCall.wire (call : WriteCall) : Bytes :=
  match encodeLine call.payload maxLineLength with
  | .ok frame => wireBytes call.writes frame
  | .error _ => []

/-- Calls put their bytes on the wire one after the other. -/
def wireOf (calls : List WriteCall) : Bytes := (calls.map WriteCall.wire).flatten

/-- The lines that the firmware receives. -/
def receivedLines (wire : Bytes) : List Bytes :=
  (Firmware.newlineFramerConsume Firmware.captureLine Firmware.newlineFramerInitialize wire []).2

/-! ## One call -/

/-- What attempts put on the wire is a first part of the frame. -/
theorem wireBytes_isPrefix (writes : List SerialWrite) :
    ∀ frame, wireBytes writes frame <+: frame := by
  induction writes with
  | nil =>
      intro frame
      cases frame with
      | nil => exact List.prefix_rfl
      | cons byte frame => exact List.nil_prefix
  | cons write later ih =>
      intro frame
      cases frame with
      | nil => exact List.prefix_rfl
      | cons byte frame =>
          rw [wireBytes]
          split
          · next count _ =>
              obtain ⟨rest, same⟩ := ih ((byte :: frame).drop (count + 1))
              refine ⟨rest, ?_⟩
              rw [List.append_assoc, same, List.take_append_drop]
          · exact List.take_prefix _ _

/-- Attempts that end without an exception put the whole frame on the wire. -/
theorem wireBytes_of_written (port seconds : PyStr) (writes : List SerialWrite) :
    ∀ frame, (writeFrame port seconds (writes.map SerialWrite.answer) frame).1 = .ok () →
      wireBytes writes frame = frame := by
  induction writes with
  | nil =>
      intro frame written
      cases frame with
      | nil => rfl
      | cons byte frame => cases written
  | cons write later ih =>
      intro frame written
      cases frame with
      | nil => rfl
      | cons byte frame =>
          rw [List.map_cons] at written
          rw [wireBytes]
          split
          · next count answer =>
              rw [answer, writeFrame] at written
              rw [ih _ written, List.take_append_drop]
          · next other =>
              exfalso
              cases answer : write.answer with
              | accepted count =>
                  rw [answer] at written other
                  cases count with
                  | none => cases written
                  | some count =>
                      cases count with
                      | zero => cases written
                      | succ count => exact other count rfl
              | expired =>
                  rw [answer] at written
                  cases written
              | timedOut =>
                  rw [answer] at written
                  cases written
              | failed error =>
                  rw [answer] at written
                  cases written
              | interrupted =>
                  rw [answer] at written
                  cases written

/-- What a call puts on the wire: nothing, a part of the payload, or the whole frame. -/
theorem WriteCall.wire_cases (call : WriteCall) :
    call.wire = [] ∨ (call.wire <+: call.payload ∧ Frameable maxLineLength call.payload) ∨
      (call.wire = call.payload ++ [lineFeed] ∧ Frameable maxLineLength call.payload) := by
  rw [WriteCall.wire]
  cases encoded : encodeLine call.payload maxLineLength with
  | error error => exact .inl rfl
  | ok frame =>
      obtain ⟨frameable, rfl⟩ := frameable_of_encodeLine encoded
      rcases List.prefix_concat_iff.mp (wireBytes_isPrefix call.writes (call.payload ++ [lineFeed]))
        with whole | part
      · exact .inr (.inr ⟨whole, frameable⟩)
      · exact .inr (.inl ⟨part, frameable⟩)

/-- A call that returns puts its whole frame on the wire. -/
theorem WriteCall.wire_of_returned {call : WriteCall} {port seconds : PyStr}
    (returned : call.ended port seconds = .ok ()) :
    call.wire = call.payload ++ [lineFeed] ∧ Frameable maxLineLength call.payload := by
  rw [WriteCall.ended] at returned
  rw [WriteCall.wire]
  cases encoded : encodeLine call.payload maxLineLength with
  | error error =>
      rw [encoded] at returned
      cases returned
  | ok frame =>
      rw [encoded] at returned
      obtain ⟨frameable, rfl⟩ := frameable_of_encodeLine encoded
      exact ⟨wireBytes_of_written port seconds call.writes _ returned, frameable⟩

/-! ## Sequences of calls -/

/-- The last call that has put bytes on the wire, if there is one, has put a whole frame there. -/
def AtFrameBoundary (calls : List WriteCall) : Prop :=
  ∀ before call after, calls = before ++ call :: after → call.wire ≠ [] →
    (∀ later ∈ after, later.wire = []) → call.wire = call.payload ++ [lineFeed]

/-- What calls leave unfinished on the wire has no carriage return. -/
theorem carriageReturn_notMem_wireOf (calls : List WriteCall) : carriageReturn ∉ wireOf calls := by
  intro listed
  obtain ⟨wire, among, inside⟩ := List.mem_flatten.mp listed
  obtain ⟨call, _, rfl⟩ := List.mem_map.mp among
  rcases call.wire_cases with nothing | ⟨part, frameable⟩ | ⟨whole, frameable⟩
  · rw [nothing] at inside
    cases inside
  · exact frameable.noReturn (part.subset inside)
  · rw [whole] at inside
    rcases List.mem_append.mp inside with early | late
    · exact frameable.noReturn early
    · exact absurd (List.mem_singleton.mp late) (by decide)

theorem wireOf_concat (calls : List WriteCall) (call : WriteCall) :
    wireOf (calls ++ [call]) = wireOf calls ++ call.wire := by
  rw [wireOf, List.map_append, List.flatten_append, List.map_singleton, List.flatten_singleton,
    wireOf]

/-- The unfinished segment is a part of the stream. -/
theorem mem_of_mem_unfinished {stream : Bytes} {byte : UInt8} (listed : byte ∈ unfinished stream) :
    byte ∈ stream := by
  rw [← flatten_segments_append_rest stream]
  exact List.mem_append_right _ listed

section Boundary

variable {calls before after : List WriteCall} {call other : WriteCall}

/-- Where a call stands in a sequence: it is the last one, or stands before the last one. -/
theorem concat_eq_append_cons (split : calls ++ [call] = before ++ other :: after) :
    (before = calls ∧ other = call ∧ after = []) ∨
      ∃ middle, after = middle ++ [call] ∧ calls = before ++ other :: middle := by
  rcases List.eq_nil_or_concat after with rfl | ⟨middle, final, rfl⟩
  · obtain ⟨same, last⟩ := List.append_inj' split rfl
    exact .inl ⟨same.symm, (List.singleton_inj.mp last).symm, rfl⟩
  · rw [List.concat_eq_append, ← List.cons_append, ← List.append_assoc] at split
    obtain ⟨same, last⟩ := List.append_inj' split rfl
    refine .inr ⟨middle, ?_, same⟩
    rw [List.concat_eq_append, List.singleton_inj.mp last]

/-- A call that puts nothing on the wire does not count. -/
theorem atFrameBoundary_concat_of_silent (silent : call.wire = []) :
    AtFrameBoundary (calls ++ [call]) ↔ AtFrameBoundary calls := by
  constructor
  · intro boundary before other after split put quiet
    refine boundary before other (after ++ [call]) (by rw [split, List.append_assoc]; rfl) put ?_
    intro later listed
    rcases List.mem_append.mp listed with early | late
    · exact quiet later early
    · rw [List.mem_singleton.mp late]
      exact silent
  · intro boundary before other after split put quiet
    rcases concat_eq_append_cons split with ⟨_, rfl, _⟩ | ⟨middle, rfl, same⟩
    · exact absurd silent put
    · exact boundary before other middle same put fun later listed =>
        quiet later (List.mem_append_left _ listed)

/-- A call that puts something on the wire decides. -/
theorem atFrameBoundary_concat (put : call.wire ≠ []) :
    AtFrameBoundary (calls ++ [call]) ↔ call.wire = call.payload ++ [lineFeed] := by
  constructor
  · intro boundary
    refine boundary calls call [] rfl put ?_
    intro later listed
    cases listed
  · intro whole before other after split _ quiet
    rcases concat_eq_append_cons split with ⟨_, rfl, _⟩ | ⟨middle, rfl, _⟩
    · exact whole
    · exact absurd (quiet call (List.mem_append_right _ List.mem_cons_self)) put

end Boundary

/-- **The wire is at the end of a line** exactly if the last call that has put bytes there has
put a whole frame. -/
theorem unfinished_wireOf_iff (calls : List WriteCall) :
    unfinished (wireOf calls) = [] ↔ AtFrameBoundary calls := by
  induction calls using List.reverseRecOn with
  | nil =>
      refine iff_of_true rfl fun before call after split _ _ => ?_
      cases (List.append_eq_nil_iff.mp split.symm).2
  | append_singleton calls call ih =>
      rw [wireOf_concat]
      by_cases silent : call.wire = []
      · rw [atFrameBoundary_concat_of_silent silent, silent, List.append_nil]
        exact ih
      rw [atFrameBoundary_concat silent]
      rcases call.wire_cases with nothing | ⟨part, frameable⟩ | ⟨whole, frameable⟩
      · exact absurd nothing silent
      · have clean : ∀ byte ∈ call.wire, endsLine byte = false := by
          intro byte listed
          rw [endsLine, beq_eq_false_iff_ne]
          rintro rfl
          exact frameable.noLineFeed (part.subset listed)
        refine iff_of_false ?_ ?_
        · rw [unfinished, (split_append_of_not_ends (wireOf calls) clean).2]
          exact fun empty => silent (List.append_eq_nil_iff.mp empty).2
        · intro whole
          rw [whole] at part
          exact frameable.noLineFeed (part.subset (List.mem_append_right _ List.mem_cons_self))
      · refine iff_of_true ?_ whole
        rw [whole, ← List.append_assoc, unfinished_concat_lineFeed]

/-! ## Delivery -/

/-- The call at this place has returned. -/
def Returns (port seconds : PyStr) (calls : List WriteCall) (index : Nat) (call : WriteCall) : Prop :=
  calls[index]? = some call ∧ call.ended port seconds = .ok ()

/-- The firmware receives the payload of a call as one more line. -/
def Delivered (calls : List WriteCall) (index : Nat) (call : WriteCall) : Prop :=
  receivedLines (wireOf (calls.take (index + 1))) =
    receivedLines (wireOf (calls.take index)) ++ [call.payload]

/-- What precedes a payload is empty if the line is the payload. -/
theorem eq_nil_of_line {start payload : Bytes} (noReturn : carriageReturn ∉ start ++ payload)
    (line : withoutTrailingReturn (start ++ payload) = payload) : start = [] := by
  have whole : withoutTrailingReturn (start ++ payload) = start ++ payload := by
    refine if_neg fun last => noReturn ?_
    exact List.mem_of_getLast? last
  rw [whole] at line
  exact List.append_left_eq_self.mp line

/-- **One call that returns** has delivered its payload exactly if it has started at the end of a
line. -/
theorem delivered_iff {port seconds : PyStr} {calls : List WriteCall} {index : Nat}
    {call : WriteCall} (returns : Returns port seconds calls index call) :
    Delivered calls index call ↔ AtFrameBoundary (calls.take index) := by
  obtain ⟨here, returned⟩ := returns
  obtain ⟨whole, frameable⟩ := WriteCall.wire_of_returned returned
  have step : wireOf (calls.take (index + 1)) =
      wireOf (calls.take index) ++ (call.payload ++ [lineFeed]) := by
    rw [List.take_add_one, here, Option.toList_some, wireOf_concat, whole]
  have received : ∀ wire, receivedLines wire = framedLines maxLineLength wire := fun wire =>
    (Firmware.newlineFramerConsume_initialize wire).2
  have clean : ∀ byte ∈ call.payload, endsLine byte = false := by
    intro byte listed
    rw [endsLine, beq_eq_false_iff_ne]
    rintro rfl
    exact frameable.noLineFeed listed
  obtain ⟨same, longer⟩ := split_append_of_not_ends (wireOf (calls.take index)) clean
  have lines : framedLines maxLineLength (wireOf (calls.take index) ++ call.payload) =
      framedLines maxLineLength (wireOf (calls.take index)) := by
    rw [framedLines, framingEvents, same, framedLines, framingEvents]
  rw [Delivered, ← unfinished_wireOf_iff, received, received, step, ← List.append_assoc,
    framedLines_concat_lineFeed, lines, List.append_cancel_left_eq]
  have unended : unfinished (wireOf (calls.take index) ++ call.payload) =
      unfinished (wireOf (calls.take index)) ++ call.payload := longer
  rw [unended]
  constructor
  · intro delivered
    have noReturn : carriageReturn ∉ unfinished (wireOf (calls.take index)) ++ call.payload := by
      intro listed
      rcases List.mem_append.mp listed with early | late
      · exact carriageReturn_notMem_wireOf _ (mem_of_mem_unfinished early)
      · exact frameable.noReturn late
    rw [frameSegment] at delivered
    split_ifs at delivered
    · exact eq_nil_of_line noReturn (List.singleton_inj.mp delivered)
    · cases delivered
  · intro boundary
    rw [boundary, List.nil_append, frameSegment, if_pos frameable.length_le,
      frameable.withoutTrailingReturn_eq]
    rfl

/-- **Every call that returns has delivered its payload** as one line, exactly if before each
of them the last call that has put bytes on the wire has put a whole frame there. -/
theorem writes_delivered_iff (port seconds : PyStr) (calls : List WriteCall) :
    (∀ index call, Returns port seconds calls index call → Delivered calls index call) ↔
      ∀ index call, Returns port seconds calls index call → AtFrameBoundary (calls.take index) :=
  ⟨fun delivered index call returns => (delivered_iff returns).mp (delivered index call returns),
    fun boundary index call returns => (delivered_iff returns).mpr (boundary index call returns)⟩

/-- RUN_COMPONENT_TEST, interrupted after ten bytes. -/
def interruptedRun : WriteCall where
  payload := (encodeRunComponentTest 2 (pyStr "imu") none).toOption.getD []
  writes := [⟨.interrupted, 10⟩]

/-- STOP_COMPONENT_TEST, written at once. -/
def stopAfterwards : WriteCall where
  payload := (encodeStopComponentTest 1002).toOption.getD []
  writes := [⟨.accepted (some 70), 0⟩]

/-- A STOP after an interrupted RUN returns, and is received as a part of another line. -/
theorem interrupted_run_spoils_stop :
    Returns (pyStr "/dev/ttyACM0") (pyStr "1") [interruptedRun, stopAfterwards] 1 stopAfterwards ∧
      receivedLines (wireOf [interruptedRun, stopAfterwards]) =
        [interruptedRun.payload.take 10 ++ stopAfterwards.payload] ∧
      ¬Delivered [interruptedRun, stopAfterwards] 1 stopAfterwards := by
  refine ⟨⟨rfl, by decide +kernel⟩, by decide +kernel, ?_⟩
  rw [Delivered]
  decide +kernel

end FlightComputer
