import FlightComputer.Firmware.ComponentEvents
import FlightComputer.Firmware.ResponseMemory
import FlightComputer.Firmware.TransmitQueue
import FlightComputer.StartTestRoundTrip

/-!
# Backpressure

The session layer takes a request, or updates the active test, only when the transmit queue has
room for the line that this produces. In every run of the firmware nothing it produces is lost
(`nothing_is_lost`): every request is answered with one line, every event and every end of a test
is told with one line (`Answered`), each of these lines enters the transmit queue, and the lines
stay in the order of what they answer.

The argument is a fit of sizes. A received line is no longer than the framer's buffer, which is
one byte shorter than the line buffer of the session; every builder succeeds and ends no line
(`IsOneLine`); and a turn of the session takes one slot of the queue, which it has checked.
-/

set_option autoImplicit false

namespace FlightComputer.Firmware

open Library

variable {δ : Type}

/-! ## One line -/

/-- A text that the transport takes as one line. -/
structure IsOneLine (text : Bytes) : Prop where
  length_le : text.length ≤ newlineFramerMaxLineLength
  noLineFeed : lineFeed ∉ text
  noReturn : carriageReturn ∉ text

theorem isOneLine_of_isShort {bound : Nat} {text : Bytes} (short : IsShort bound text)
    (fits : bound ≤ newlineFramerMaxLineLength) : IsOneLine text where
  length_le := Nat.le_trans short.length_le fits
  noLineFeed := short.lineFeed_notMem
  noReturn := short.carriageReturn_notMem

/-- The response to START_TEST is one line, whatever command id it answers. -/
def FitsOneLine (metadata : SessionMetadata) : Prop :=
  ∀ commandId : UInt32, IsOneLine (startTestText commandId metadata)

/-- The texts of a build that leave room in the response. -/
structure HasShortTexts (build : BuildMetadata) : Prop where
  mcuModel : IsShort 500 build.mcuModel
  boardId : IsShort 500 build.boardId
  boardName : IsShort 500 build.boardName
  boardRevision : IsShort 500 build.boardRevision
  firmwareVersion : IsShort 500 build.firmwareVersion
  firmwareGitRevision : IsShort 500 build.firmwareGitRevision

theorem isShort_uidText (words : UidWords) : IsShort 24 (uidText words) where
  length_le := (length_uidText words).le
  printable byte listed := by
    rcases isUpperHex_uidText words byte listed with ⟨digit, _⟩ | ⟨letter, _⟩
    · omega
    · omega

theorem isShort_capabilitiesText {capabilities : List (Bytes × Nat)}
    (short : ∀ capability ∈ capabilities, IsShort 31 capability.1) :
    IsShort (capabilities.length * 34) (capabilitiesText capabilities) := by
  induction capabilities with
  | nil => exact isShort_nil
  | cons first later ih =>
      obtain ⟨capability, index⟩ := first
      obtain ⟨shortFirst, shortLater⟩ := List.forall_mem_cons.mp short
      have comma : IsShort 1 (if index = 0 then [] else ascii ",") := by
        split_ifs
        · exact isShort_nil.mono (by decide)
        · exact (isShort_ascii (by decide)).mono (by decide)
      have quoted : List.Forall₂ IsShort _ (capabilityPieces capability index) :=
        .cons comma (.cons (isShort_ascii (by decide)) (.cons shortFirst
          (.cons (isShort_ascii (by decide)) .nil)))
      rw [capabilitiesText_cons, List.length_cons, Nat.succ_mul, Nat.add_comm]
      exact ((isShort_flatten quoted).mono (by decide)).append (ih shortLater)

/-- **A build with short texts**: its response fits, with the firmware's capabilities. -/
theorem HasShortTexts.fitsOneLine {build : BuildMetadata} (short : HasShortTexts build)
    (words : UidWords) (codes : BoschCodes) :
    FitsOneLine (sessionMetadataRead words build (componentRegistryCapabilities codes)) := by
  intro commandId
  have opening : List.Forall₂ IsShort _ (openingPieces commandId
      (sessionMetadataRead words build (componentRegistryCapabilities codes))) :=
    .cons (isShort_ascii (by decide)) (.cons (isShort_uint32 commandId)
      (.cons (isShort_ascii (by decide)) (.cons (isShort_uidText words)
        (.cons (isShort_ascii (by decide)) (.cons short.mcuModel
          (.cons (isShort_ascii (by decide)) (.cons short.boardId
            (.cons (isShort_ascii (by decide)) (.cons short.boardName
              (.cons (isShort_ascii (by decide)) (.cons short.boardRevision
                (.cons (isShort_ascii (by decide)) (.cons short.firmwareVersion
                  (.cons (isShort_ascii (by decide)) (.cons short.firmwareGitRevision
                    (.cons (isShort_ascii (by decide)) .nil))))))))))))))))
  have listed : ∀ capability ∈ (componentRegistryCapabilities codes).zipIdx,
      IsShort 31 capability.1 := by
    simp only [componentRegistryCapabilities, productionRegistry, List.map_cons, List.map_nil,
      List.zipIdx_cons, List.zipIdx_nil, List.forall_mem_cons]
    refine ⟨?_, ?_, ?_, ?_, ?_, ?_, fun _ absurdity => absurd absurdity List.not_mem_nil⟩
    all_goals exact (isShort_ascii (by decide)).mono (by decide)
  have count : (componentRegistryCapabilities codes).zipIdx.length = 6 := rfl
  have names := isShort_capabilitiesText listed
  rw [count] at names
  have close : IsShort 2 (ascii "]\x7d") := (isShort_ascii (by decide)).mono (by decide)
  exact isOneLine_of_isShort (((isShort_flatten opening).append names).append close) (by decide)

/-- **A response that is one line is built.** -/
theorem startTestLine_of_fits {metadata : SessionMetadata} (fits : FitsOneLine metadata)
    (commandId : UInt32) :
    startTestLine commandId metadata = some (startTestText commandId metadata) := by
  have small : (startTestText commandId metadata).length < sessionProtocolLineCapacity :=
    Nat.lt_succ_of_le (fits commandId).length_le
  rw [startTestLine, jsonProtocolBuildStartTestResponse_eq, if_pos small, builtLine,
    Option.map_some, List.take_length]

/-- **A queue with room accepts every line.** -/
theorem queueLine_of_isOneLine {transport : UsbCdcTransport} {line : Bytes}
    (room : usbCdcTransportCanQueueLine transport = true) (one : IsOneLine line) :
    usbCdcTransportQueueLine line transport =
      ({ transport with transmitLines := transport.transmitLines.push (transmitted line) },
        true) := by
  have below : transport.transmitLines.count < usbCdcTransmitQueueDepth := of_decide_eq_true room
  refine if_neg ?_
  rintro (long | full | ended | returned)
  · exact absurd one.length_le (Nat.not_le.mpr long)
  · exact absurd full below.ne
  · exact one.noLineFeed ended
  · exact one.noReturn returned

/-! ## What is answered -/

/-- The calls of a component that a request leads to. -/
inductive RequestCalls : List SessionAction → Prop where
  | nothing : RequestCalls []
  | start (type : Bytes) (parameters : ComponentTestParameters) :
      RequestCalls [.start type parameters]
  | stop (type : Bytes) : RequestCalls [.stop type]

/-- **Every request and every update is answered**: the actions of a session in which each
request is followed by one accepted response, each event of a component by one accepted
TEST_EVENT, and each end of a test by one accepted TEST_COMPLETED. -/
inductive Answered : List SessionAction → Prop where
  | reset : Answered []
  | request {actions calls : List SessionAction} {line response : Bytes}
      (earlier : Answered actions) (called : RequestCalls calls) :
      Answered (actions ++ (.request line :: calls ++ [.response response true]))
  | running {actions : List SessionAction} {type : Bytes} (earlier : Answered actions) :
      Answered (actions ++ [.process type .running])
  | event {actions : List SessionAction} {type response : Bytes} (earlier : Answered actions)
      (typed : IsOfType "TEST_EVENT" response) :
      Answered (actions ++ [.process type .event, .response response true])
  | completed {actions : List SessionAction} {type response : Bytes}
      {result : ComponentTestProcessResult} (earlier : Answered actions)
      (ended : result = .passed ∨ result = .failed)
      (typed : IsOfType "TEST_COMPLETED" response) :
      Answered (actions ++ [.process type result, .stop type, .response response true])

/-- The lines that the transmit queue has taken from the session. -/
def queuedLines (actions : List SessionAction) : List Bytes :=
  actions.filterMap fun
    | .response line true => some line
    | _ => none

theorem queuedLines_append (first second : List SessionAction) :
    queuedLines (first ++ second) = queuedLines first ++ queuedLines second :=
  List.filterMap_append

theorem queuedLines_calls {calls : List SessionAction} (called : RequestCalls calls) :
    queuedLines calls = [] := by
  cases called with
  | nothing => rfl
  | start _ _ => rfl
  | stop _ => rfl

/-! ## What a turn produces -/

/-- **The answer to a line** is one line. -/
theorem LineAnswer.produces {registry : ComponentTestRegistry δ} {metadata : SessionMetadata}
    {s t : SessionState δ} {line : Bytes} {response : Option Bytes}
    (fits : FitsOneLine metadata) (telling : Telling s)
    (answer : LineAnswer registry metadata line s response t) :
    ∃ calls produced, RequestCalls calls ∧ t.actions = s.actions ++ calls ∧
      response = some produced ∧ IsOneLine produced := by
  have error : ∀ (commandId : UInt32) {errorCode : String}, errorCode ∈ errorCodes →
      ∃ calls produced, RequestCalls calls ∧ s.actions = s.actions ++ calls ∧
        errorLine commandId errorCode = some produced ∧ IsOneLine produced := by
    intro commandId errorCode listed
    have word := isWord_errorCode listed
    exact ⟨[], _, .nothing, (List.append_nil _).symm, errorLine_eq commandId word,
      isOneLine_of_isShort (isShort_errorMessage commandId word) (by decide)⟩
  have lifecycle : ∀ (responseType status : String) (commandId : UInt32) {type : Bytes},
      IsWord responseType → IsWord status → IsTestTypeName type →
      ∃ produced, lifecycleLine responseType commandId type status = some produced ∧
        IsOneLine produced := by
    intro responseType status commandId type typed ended named
    have short := isShort_of_isTestTypeName named
    exact ⟨_, lifecycleLine_eq typed ended short commandId,
      isOneLine_of_isShort (isShort_testMessage typed ended short commandId) (by decide)⟩
  cases answer with
  | invalid _ => exact error 0 (by decide)
  | @metadata commandId _ _ =>
      exact ⟨[], _, .nothing, (List.append_nil _).symm, startTestLine_of_fits fits commandId,
        fits commandId⟩
  | alreadyActive _ _ => exact error _ (by decide)
  | unsupported _ _ _ => exact error _ (by decide)
  | @started commandId _ _ definition _ requested _ found _ =>
      obtain ⟨same, named⟩ := isTestTypeName_of_found requested found
      rw [← same] at named
      obtain ⟨produced, built, one⟩ := lifecycle "TEST_STARTED" "running" commandId
        (isWord_of_decide (by decide) (by decide)) (isWord_of_decide (by decide) (by decide)) named
      exact ⟨_, produced, .start definition.type _, rfl, built, one⟩
  | noActiveTest _ _ => exact error _ (by decide)
  | @stopped commandId definition _ _ active _ =>
      obtain ⟨produced, built, one⟩ := lifecycle "TEST_STOPPED" "stopped" commandId
        (isWord_of_decide (by decide) (by decide)) (isWord_of_decide (by decide) (by decide))
        (telling.named definition active)
      exact ⟨_, produced, .stop definition.type, rfl, built, one⟩

/-- **An update** produces nothing, or one line. -/
inductive UpdateProduces (s t : SessionState δ) (response : Option Bytes) : Prop where
  | running {type : Bytes} (actions : t.actions = s.actions ++ [.process type .running])
      (nothing : response = none)
  | event {type produced : Bytes} (actions : t.actions = s.actions ++ [.process type .event])
      (told : response = some produced) (one : IsOneLine produced)
      (typed : IsOfType "TEST_EVENT" produced)
  | completed {type produced : Bytes} {result : ComponentTestProcessResult}
      (ended : result = .passed ∨ result = .failed)
      (actions : t.actions = s.actions ++ [.process type result, .stop type])
      (told : response = some produced) (one : IsOneLine produced)
      (typed : IsOfType "TEST_COMPLETED" produced)

theorem ComponentUpdate.produces {definition : ComponentTestDefinition δ} {s t : SessionState δ}
    {response : Option Bytes} (telling : Telling s)
    (active : s.runner.activeDefinition = some definition)
    (update : ComponentUpdate definition s response t) : UpdateProduces s t response := by
  cases update with
  | running _ => exact .running rfl rfl
  | event called =>
      obtain ⟨event, produced, occurred, _, built, short⟩ :=
        telling.exists_eventLine active called
      rw [occurred, built]
      exact .event rfl rfl (isOneLine_of_isShort short (by decide)) (isOfType_eventLine built)
  | @completed _ _ result status _ verdict _ =>
      have ended : IsWord status := by
        rcases verdict with ⟨_, rfl⟩ | ⟨_, rfl⟩ <;>
          exact isWord_of_decide (by decide) (by decide)
      have short := isShort_of_isTestTypeName (telling.named definition active)
      have typed : IsWord "TEST_COMPLETED" := isWord_of_decide (by decide) (by decide)
      rw [lifecycleLine_eq typed ended short]
      exact .completed (verdict.imp And.left And.left) rfl rfl
        (isOneLine_of_isShort (isShort_testMessage typed ended short _) (by decide))
        (isOfType_testMessage ..)

/-! ## The transport -/

/-- **The transport between two steps**: the received lines are no longer than the framer's
buffer, an active transmission has a line, and no line was refused. -/
structure Unclogged (transport : UsbCdcTransport) : Prop where
  received : transport.receivedLines.Consistent
  fits : ∀ line ∈ transport.receivedLines.contents, line.length ≤ newlineFramerMaxLineLength
  queued : transport.transmitLines.Consistent
  active : transport.transmitActive = true → 0 < transport.transmitLines.count
  notDropped : transport.transmittedLinesDropped = 0

/-- Everything but the receive side of the interrupts, the framer and the received lines is
unchanged. -/
structure SameTransmit (before after : UsbCdcTransport) : Prop where
  transmitLines : after.transmitLines = before.transmitLines
  transmitActive : after.transmitActive = before.transmitActive
  transmittedLinesDropped : after.transmittedLinesDropped = before.transmittedLinesDropped

theorem SameTransmit.trans {first second third : UsbCdcTransport}
    (before : SameTransmit first second) (after : SameTransmit second third) :
    SameTransmit first third where
  transmitLines := after.transmitLines.trans before.transmitLines
  transmitActive := after.transmitActive.trans before.transmitActive
  transmittedLinesDropped := after.transmittedLinesDropped.trans before.transmittedLinesDropped

namespace Unclogged

variable {before after : UsbCdcTransport}

theorem reset : Unclogged resetTransportState where
  received := CircularBuffer.consistent_empty (by decide) _
  fits _ listed := absurd listed List.not_mem_nil
  queued := CircularBuffer.consistent_empty (by decide) _
  active active := absurd active Bool.false_ne_true
  notDropped := rfl

/-- It depends on the transmit side and the received lines only. -/
theorem congr (unclogged : Unclogged before) (same : SameTransmit before after)
    (lines : after.receivedLines = before.receivedLines) : Unclogged after where
  received := lines ▸ unclogged.received
  fits := lines ▸ unclogged.fits
  queued := same.transmitLines ▸ unclogged.queued
  active active := by
    rw [same.transmitLines]
    exact unclogged.active (same.transmitActive.symm.trans active)
  notDropped := same.transmittedLinesDropped.trans unclogged.notDropped

/-- A line that fits is queued, or dropped when two lines wait. -/
theorem completedLine (unclogged : Unclogged before) {line : Bytes}
    (short : line.length ≤ newlineFramerMaxLineLength) :
    Unclogged (completedLine line before) := by
  rw [completedLine_eq]
  by_cases full : before.receivedLines.count = usbCdcLineQueueDepth
  · exact unclogged.congr ⟨rfl, rfl, rfl⟩ (if_pos full)
  · have room : before.receivedLines.count < usbCdcLineQueueDepth :=
      Nat.lt_of_le_of_ne unclogged.received.count_le full
    refine ⟨?_, ?_, unclogged.queued, unclogged.active, unclogged.notDropped⟩
    · rw [if_neg full]
      exact unclogged.received.push room line
    · rw [if_neg full, unclogged.received.contents_push room]
      intro held listed
      rcases List.mem_append.mp listed with earlier | last
      · exact unclogged.fits held earlier
      · exact List.mem_singleton.mp last ▸ short

end Unclogged

theorem length_withoutTrailingReturn_le (text : Bytes) :
    (withoutTrailingReturn text).length ≤ text.length := by
  unfold withoutTrailingReturn
  split_ifs
  · rw [List.length_dropLast]
    exact Nat.sub_le _ _
  · exact Nat.le_refl _

/-- **Framing a byte** leaves the transmit side alone, and completes a line that fits. -/
theorem frameReceivedByte_unclogged (byte : UInt8) (overflowed : Bool) {transport : UsbCdcTransport}
    (unclogged : Unclogged transport) :
    Unclogged (frameReceivedByte byte overflowed transport) ∧
      SameTransmit transport (frameReceivedByte byte overflowed transport) := by
  have same := frameReceivedByte_same byte overflowed transport
  refine ⟨?_, ⟨same.transmitLines, same.transmitActive, same.transmittedLinesDropped⟩⟩
  have marks := discardIfOverflowed_same overflowed transport
  have marked : Unclogged (discardIfOverflowed overflowed transport) :=
    unclogged.congr ⟨marks.transmitLines, marks.transmitActive, marks.transmittedLinesDropped⟩
      (discardIfOverflowed_receivedLines overflowed transport)
  rw [frameReceivedByte_eq]
  rcases completedBy_cases (discardIfOverflowed overflowed transport).receiveFramer byte
    with none | one
  · rw [none]
    exact marked.congr ⟨rfl, rfl, rfl⟩ rfl
  · rw [one]
    have short := Nat.le_trans
      (length_withoutTrailingReturn_le (discardIfOverflowed overflowed transport).receiveFramer.line)
      (discardIfOverflowed overflowed transport).receiveFramer.length_le
    exact (marked.completedLine short).congr ⟨rfl, rfl, rfl⟩ rfl

/-- Receiving bytes in the main loop keeps the transport unclogged. -/
theorem processReceivedBytesLoop_unclogged (bound : Nat) {transport : UsbCdcTransport}
    (unclogged : Unclogged transport) :
    Unclogged (processReceivedBytesLoop bound transport) ∧
      SameTransmit transport (processReceivedBytesLoop bound transport) := by
  induction bound generalizing transport with
  | zero => exact ⟨unclogged, ⟨rfl, rfl, rfl⟩⟩
  | succ bound ih =>
      have popped : SameTransmit transport (popReceivedByte transport).1 ∧
          (popReceivedByte transport).1.receivedLines = transport.receivedLines := by
        unfold popReceivedByte
        dsimp only
        split_ifs <;> exact ⟨⟨rfl, rfl, rfl⟩, rfl⟩
      rw [processReceivedBytesLoop]
      rcases taken : popReceivedByte transport with ⟨after, none | byte, overflowed⟩
      · rw [taken] at popped
        have marks := discardIfOverflowed_same overflowed after
        have same := popped.1.trans
          ⟨marks.transmitLines, marks.transmitActive, marks.transmittedLinesDropped⟩
        exact ⟨unclogged.congr same
          ((discardIfOverflowed_receivedLines overflowed after).trans popped.2), same⟩
      · rw [taken] at popped
        obtain ⟨framed, sameFrame⟩ :=
          frameReceivedByte_unclogged byte overflowed (unclogged.congr popped.1 popped.2)
        obtain ⟨received, sameRest⟩ := ih framed
        exact ⟨received, (popped.1.trans sameFrame).trans sameRest⟩

/-- A packet changes the raw ring only. -/
theorem cdcReceive_same (transport : UsbCdcTransport) (packet : Bytes) :
    SameTransmit transport (cdcReceive transport packet) ∧
      (cdcReceive transport packet).receivedLines = transport.receivedLines := by
  induction packet using List.reverseRecOn with
  | nil => exact ⟨⟨rfl, rfl, rfl⟩, rfl⟩
  | append_singleton packet byte ih =>
      have one : ∀ before : UsbCdcTransport, SameTransmit before (cdcReceiveByte before byte) ∧
          (cdcReceiveByte before byte).receivedLines = before.receivedLines := by
        intro before
        unfold cdcReceiveByte
        dsimp only
        split_ifs <;> exact ⟨⟨rfl, rfl, rfl⟩, rfl⟩
      obtain ⟨same, lines⟩ := one (cdcReceive transport packet)
      rw [cdcReceive, List.foldl_append, List.foldl_cons, List.foldl_nil, ← cdcReceive]
      exact ⟨ih.1.trans same, lines.trans ih.2⟩

/-- **`usb_cdc_transport_process`** keeps the transport unclogged, and takes at most the first
line out of the transmit queue. -/
theorem usbCdcTransportProcess_unclogged (usb : UsbdAnswers) {transport : UsbCdcTransport}
    (unclogged : Unclogged transport) :
    Unclogged (usbCdcTransportProcess usb transport).1 ∧
      ∃ left, transport.transmitLines.contents =
        left ++ (usbCdcTransportProcess usb transport).1.transmitLines.contents := by
  have received := processReceivedBytesLoop_unclogged (rawReceiveCount transport + 1) unclogged
  rw [← processReceivedBytes] at received
  obtain ⟨framed, same⟩ := received
  have finished : Unclogged (finishCompletedTransmission (processReceivedBytes transport)) ∧
      ∃ left, transport.transmitLines.contents = left ++
        (finishCompletedTransmission (processReceivedBytes transport)).transmitLines.contents := by
    rw [← same.transmitLines]
    generalize processReceivedBytes transport = before at framed
    unfold finishCompletedTransmission
    dsimp only
    split_ifs with waiting
    · exact ⟨framed.congr ⟨rfl, rfl, rfl⟩ rfl, [], rfl⟩
    · simp only [Bool.or_eq_true, Bool.not_eq_true', not_or, Bool.not_eq_false] at waiting
      have occupied := framed.active waiting.2
      refine ⟨⟨framed.received, framed.fits, framed.queued.pop occupied, ?_, framed.notDropped⟩,
        [before.transmitLines.front], framed.queued.contents_eq_cons occupied⟩
      exact fun active => absurd active Bool.false_ne_true
  obtain ⟨finished, left, contents⟩ := finished
  rw [usbCdcTransportProcess]
  rcases startPendingTransmission_cases usb
      (finishCompletedTransmission (processReceivedBytes transport)) with
    nothing | ⟨started, _, occupied⟩
  · rw [nothing]
    exact ⟨finished, left, contents⟩
  · rw [started]
    refine ⟨⟨finished.received, finished.fits, finished.queued, ?_, finished.notDropped⟩, left,
      contents⟩
    exact fun _ => Nat.pos_of_ne_zero occupied

/-- **A received line always fits the line buffer of the session.** -/
theorem Unclogged.readLine_ne_bufferTooSmall {transport : UsbCdcTransport}
    (unclogged : Unclogged transport) :
    (usbCdcTransportReadLine sessionProtocolLineCapacity transport).2 ≠ .bufferTooSmall := by
  rw [usbCdcTransportReadLine]
  dsimp only
  split_ifs with empty large
  · exact UsbCdcLineResult.noConfusion
  · have first := unclogged.received.contents_eq_cons (Nat.pos_of_ne_zero empty)
    have short := unclogged.fits transport.receivedLines.front
      (first ▸ List.mem_cons_self)
    exact absurd large (Nat.not_le.mpr (Nat.lt_succ_of_le short))
  · exact UsbCdcLineResult.noConfusion

/-- Reading a line keeps the transport unclogged, and its transmit side as it is. -/
theorem Unclogged.readLine {capacity : Nat} {before after : UsbCdcTransport}
    {result : UsbCdcLineResult} (unclogged : Unclogged before)
    (read : usbCdcTransportReadLine capacity before = (after, result)) :
    Unclogged after ∧ SameTransmit before after := by
  rw [usbCdcTransportReadLine] at read
  dsimp only at read
  split_ifs at read with empty large
  · obtain ⟨rfl, _⟩ := Prod.mk.inj read
    exact ⟨unclogged, rfl, rfl, rfl⟩
  · obtain ⟨rfl, _⟩ := Prod.mk.inj read
    exact ⟨unclogged, rfl, rfl, rfl⟩
  · obtain ⟨rfl, _⟩ := Prod.mk.inj read
    have occupied := Nat.pos_of_ne_zero empty
    refine ⟨⟨unclogged.received.pop occupied, ?_, unclogged.queued, unclogged.active,
      unclogged.notDropped⟩, rfl, rfl, rfl⟩
    intro line listed
    refine unclogged.fits line ?_
    rw [unclogged.received.contents_eq_cons occupied]
    exact List.mem_cons_of_mem _ listed

/-- **Queueing a line** that is one, with room for it, appends it. -/
theorem Unclogged.queueLine {transport : UsbCdcTransport} {line : Bytes}
    (unclogged : Unclogged transport) (room : usbCdcTransportCanQueueLine transport = true)
    (one : IsOneLine line) :
    Unclogged (usbCdcTransportQueueLine line transport).1 ∧
      (usbCdcTransportQueueLine line transport).1.transmitLines.contents =
        transport.transmitLines.contents ++ [transmitted line] ∧
      (usbCdcTransportQueueLine line transport).2 = true := by
  have below : transport.transmitLines.count < usbCdcTransmitQueueDepth := of_decide_eq_true room
  rw [queueLine_of_isOneLine room one]
  refine ⟨⟨unclogged.received, unclogged.fits, unclogged.queued.push below _, ?_,
    unclogged.notDropped⟩, unclogged.queued.contents_push below _, rfl⟩
  exact fun _ => Nat.succ_pos _

/-! ## Runs of the firmware -/

/-- **Nothing has been lost so far**, and nothing can be by what comes next. -/
structure NothingLost (s : SessionSystem δ) : Prop where
  answered : Answered s.session.actions
  order : ∃ left, (queuedLines s.session.actions).map transmitted =
    left ++ s.transport.transmitLines.contents
  unclogged : Unclogged s.transport
  telling : Telling s.session

namespace NothingLost

variable {registry : ComponentTestRegistry δ} {metadata : SessionMetadata} {s t : SessionSystem δ}

theorem initial (device : δ) : NothingLost (.initial device) where
  answered := .reset
  order := ⟨[], rfl⟩
  unclogged := .reset
  telling := .of_idle rfl

/-- It depends on the session, the transmit side and the received lines. -/
theorem transport (before : NothingLost s) {after : UsbCdcTransport} (unclogged : Unclogged after)
    (left : List Bytes)
    (contents : s.transport.transmitLines.contents = left ++ after.transmitLines.contents) :
    NothingLost ⟨after, s.session⟩ where
  answered := before.answered
  order := by
    obtain ⟨earlier, order⟩ := before.order
    refine ⟨earlier ++ left, ?_⟩
    rw [order, contents, List.append_assoc]
  unclogged := unclogged
  telling := before.telling

/-- **A line that a turn has produced** is queued after all others. -/
theorem queueResponse (unclogged : Unclogged s.transport) {earlier later : List SessionAction}
    (order : ∃ left, (queuedLines earlier).map transmitted =
      left ++ s.transport.transmitLines.contents)
    (room : usbCdcTransportCanQueueLine s.transport = true)
    (actions : s.session.actions = earlier ++ later) (silent : queuedLines later = [])
    {produced : Bytes} (one : IsOneLine produced)
    (answered : Answered (earlier ++ (later ++ [.response produced true])))
    (telling : Telling s.session) :
    NothingLost (queueResponse (some produced) s) := by
  obtain ⟨queued, contents, accepted⟩ := unclogged.queueLine room one
  have after : (Firmware.queueResponse (some produced) s).session.actions =
      earlier ++ (later ++ [.response produced true]) := by
    show s.session.actions ++ [.response produced _] = _
    rw [actions, accepted, List.append_assoc]
  refine ⟨?_, ?_, queued, ⟨telling.named, telling.ready⟩⟩
  · rw [after]
    exact answered
  · obtain ⟨left, order⟩ := order
    refine ⟨left, ?_⟩
    rw [after, queuedLines_append, queuedLines_append, silent, List.nil_append, List.map_append,
      order]
    show _ = left ++ (usbCdcTransportQueueLine produced s.transport).1.transmitLines.contents
    rw [contents, List.append_assoc]
    rfl

/-- **Every turn of the session** loses nothing. -/
theorem turn (components : ∀ definition ∈ registry, ∃ ready, Tells definition ready)
    (fits : FitsOneLine metadata) (before : NothingLost s)
    (turn : SessionTurn registry metadata s t) : NothingLost t := by
  cases turn with
  | @line transport line response session room read answer =>
      have room' : usbCdcTransportCanQueueLine transport = true :=
        (canQueueLine_readLine read).trans room
      obtain ⟨unclogged, same⟩ := before.unclogged.readLine read
      have telling : Telling (s.session.record (.request line)) :=
        ⟨before.telling.named, before.telling.ready⟩
      obtain ⟨calls, produced, called, actions, rfl, one⟩ := answer.produces fits telling
      have whole : session.actions = s.session.actions ++ (.request line :: calls) := by
        rw [actions, SessionState.record_actions, List.append_assoc]
        rfl
      refine queueResponse (s := ⟨transport, session⟩) unclogged ?_ room' whole ?_ one
        (.request before.answered called) (telling.answer components answer)
      · show ∃ left, _ = left ++ transport.transmitLines.contents
        rw [same.transmitLines]
        exact before.order
      · show queuedLines calls = []
        exact queuedLines_calls called
  | @component definition response session room active update =>
      have telling := before.telling.update active update
      cases update.produces before.telling active with
      | @running type actions nothing =>
          have silent : queuedLines [.process type .running] = [] := rfl
          rw [nothing]
          refine ⟨?_, ?_, before.unclogged, telling⟩
          · exact actions ▸ .running before.answered
          · show ∃ left, (queuedLines session.actions).map transmitted =
              left ++ s.transport.transmitLines.contents
            rw [actions, queuedLines_append, silent, List.append_nil]
            exact before.order
      | event actions told one typed =>
          rw [told]
          exact queueResponse (s := ⟨s.transport, session⟩) before.unclogged before.order room
            actions rfl one (.event before.answered typed) telling
      | completed ended actions told one typed =>
          rw [told]
          exact queueResponse (s := ⟨s.transport, session⟩) before.unclogged before.order room
            actions rfl one (.completed before.answered ended typed) telling

/-- **Every step of the firmware** loses nothing. -/
theorem step (components : ∀ definition ∈ registry, ∃ ready, Tells definition ready)
    (fits : FitsOneLine metadata) (before : NothingLost s) {event : SessionEvent}
    (step : SessionStep registry metadata (fun _ _ => False) s event t) : NothingLost t := by
  cases step with
  | packet bytes =>
      obtain ⟨same, lines⟩ := cdcReceive_same s.transport bytes
      refine before.transport (before.unclogged.congr same lines) [] ?_
      exact (congrArg CircularBuffer.contents same.transmitLines).symm
  | transmitComplete =>
      exact before.transport (before.unclogged.congr ⟨rfl, rfl, rfl⟩ rfl) [] rfl
  | deinit =>
      refine before.transport ⟨before.unclogged.received, before.unclogged.fits,
        before.unclogged.queued, ?_, before.unclogged.notDropped⟩ [] rfl
      exact fun active => absurd active Bool.false_ne_true
  | init =>
      refine before.transport ⟨before.unclogged.received, before.unclogged.fits,
        before.unclogged.queued, ?_, before.unclogged.notDropped⟩ [] rfl
      exact fun active => absurd active Bool.false_ne_true
  | transport usb =>
      obtain ⟨unclogged, left, contents⟩ := usbCdcTransportProcess_unclogged usb before.unclogged
      exact before.transport unclogged left contents
  | session returned =>
      exact sessionProtocolProcess_preserves (I := NothingLost)
        (fun _ _ before turn => before.turn components fits turn) before returned
  | environment changed => exact absurd changed id

end NothingLost

/-- **Backpressure.** In every run of the firmware with its registry, from a reset, whatever
arrives, the stack and the hardware answer: every request is followed by one response that the
transmit queue took, every event of a component by one TEST_EVENT and every end of a test by one
TEST_COMPLETED; whenever the session reads a line, the line fits its buffer; no line has been
refused; and what waits in the transmit queue is the end of the lines that the session has
queued, in their order. -/
theorem nothing_is_lost {codes : BoschCodes} {words : UidWords} {build : BuildMetadata}
    (fits : FitsOneLine (sessionMetadataRead words build (componentRegistryCapabilities codes)))
    {components : FlightComputerComponents} {events : List SessionEvent}
    {s : SessionSystem FlightComputerComponents}
    (run : Run (SessionStep (productionRegistry codes)
      (sessionMetadataRead words build (componentRegistryCapabilities codes)) fun _ _ => False)
      (.initial components) events s) :
    Answered s.session.actions ∧
      (∀ bound middle, processLinesLoop (productionRegistry codes)
          (sessionMetadataRead words build (componentRegistryCapabilities codes)) bound s =
            some middle →
        (usbCdcTransportReadLine sessionProtocolLineCapacity middle.transport).2 ≠
          .bufferTooSmall) ∧
      s.transport.transmittedLinesDropped = 0 ∧
      ∃ left, (queuedLines s.session.actions).map transmitted =
        left ++ s.transport.transmitLines.contents := by
  have reached : NothingLost s :=
    run.invariant (I := NothingLost)
      (fun _ _ _ before step => before.step (tells_productionRegistry codes) fits step)
      (.initial components)
  refine ⟨reached.answered, ?_, reached.unclogged.notDropped, reached.order⟩
  intro bound middle returned
  have during : NothingLost middle :=
    processLinesLoop_preserves (I := NothingLost)
      (fun _ _ before turn => before.turn (tells_productionRegistry codes) fits turn) reached
      returned
  exact during.unclogged.readLine_ne_bufferTooSmall

/-- The metadata of a build. -/
def releaseMetadata : SessionMetadata :=
  sessionMetadataRead ⟨1, 2, 0xDEADBEEF⟩ releaseBuild (componentRegistryCapabilities someCodes)

theorem fitsOneLine_releaseMetadata : FitsOneLine releaseMetadata := by
  refine HasShortTexts.fitsOneLine ⟨?_, ?_, ?_, ?_, ?_, ?_⟩ _ _
  all_goals exact (isShort_ascii (by decide)).mono (by decide)

set_option maxRecDepth 4000 in
/-- A run in which a barometer test starts, reports its failure and ends. -/
theorem nothing_is_lost_barometer : ∃ s,
    Run (SessionStep (productionRegistry someCodes) releaseMetadata fun _ _ => False)
      (.initial silentBarometer) barometerTested s ∧
    (queuedLines s.session.actions).length = 3 ∧
    Answered s.session.actions ∧ s.transport.transmittedLinesDropped = 0 := by
  have ends : (barometerTested.foldlM
      (performEvent (productionRegistry someCodes) releaseMetadata)
      (.initial silentBarometer)).map (fun s => (queuedLines s.session.actions).length) =
        some 3 := by decide +kernel
  obtain ⟨s, performed, three⟩ := Option.map_eq_some_iff.mp ends
  have run : Run (SessionStep (productionRegistry someCodes) releaseMetadata fun _ _ => False)
      (.initial silentBarometer) barometerTested s :=
    .of_performed (fun _ _ _ => step_of_performEvent) performed
  obtain ⟨answered, _, dropped, _⟩ := nothing_is_lost fitsOneLine_releaseMetadata run
  exact ⟨s, run, three, answered, dropped⟩

end FlightComputer.Firmware
