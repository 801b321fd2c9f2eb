import FlightComputer.SynchronisedDispatch

/-!
# Stopping a test that tells its events

The acknowledgement of a stop is the line that the tester reads next, whatever line this is. An
event that is still on its way then is taken for the answer, and the stop fails although the
firmware has executed it (`stop_fails_on_event`). It succeeds in every run in which nothing is on
its way when the request is written, and the component tells nothing until the request is taken
(`stop_succeeds_when_alone`).
-/

set_option autoImplicit false

namespace FlightComputer

open Library Raising Firmware BoardTester

variable {δ : Type}

/-! ## Reachable states -/

/-- A state of the bench that a tester reaches, whatever its dialogue is. -/
def Bench.Reachable (registry : ComponentTestRegistry δ) (metadata : SessionMetadata)
    (s : Bench δ) : Prop :=
  ∃ (α : Type) (device : δ) (dialogue rest : Dialogue TesterOperation TesterOperation.Reply α)
    (turns : List (Turn FirmwareMove TesterOperation)),
    Run (bench registry metadata).Step (.initial device, dialogue) turns (s, rest)

/-- **An active test is one that the parser can ask for**, and its component tells its events. -/
structure Sound (session : SessionState δ) : Prop where
  telling : Telling session
  isTest : ∀ test, activeTest session.runner = some test → IsTest test

theorem Sound.of_idle {session : SessionState δ} (idle : session.runner.activeDefinition = none) :
    Sound session where
  telling := Telling.of_idle idle
  isTest test active := by
    rw [activeTest, idle] at active
    cases active

section Moves

variable {registry : ComponentTestRegistry δ} {metadata : SessionMetadata} {s t : Bench δ}
  {session : SessionState δ} {response : Option Bytes}

theorem Sound.answer (components : ∀ definition ∈ registry, ∃ ready, Tells definition ready)
    {first : SessionState δ} {line : Bytes} (sound : Sound first)
    (answer : LineAnswer registry metadata line first response session) : Sound session := by
  refine ⟨sound.telling.answer components answer, ?_⟩
  cases answer with
  | invalid _ => exact sound.isTest
  | metadata _ => exact sound.isTest
  | alreadyActive _ _ => exact sound.isTest
  | unsupported _ _ _ => exact sound.isTest
  | @started _ _ _ definition _ requested _ found _ =>
      obtain ⟨same, named⟩ := isTestTypeName_of_found requested found
      have ofDefinition : IsTestTypeName definition.type := same ▸ named
      rintro _ ⟨⟩
      exact ⟨requested.commandId_ne_zero, ofDefinition⟩
  | noActiveTest _ _ => exact sound.isTest
  | stopped _ _ _ =>
      rintro _ ⟨⟩

theorem Sound.update {first : SessionState δ} {definition : ComponentTestDefinition δ}
    (active : first.runner.activeDefinition = some definition) (sound : Sound first)
    (update : ComponentUpdate definition first response session) : Sound session := by
  refine ⟨sound.telling.update active update, ?_⟩
  cases update with
  | running _ => exact sound.isTest
  | event _ => exact sound.isTest
  | completed _ _ _ => rintro _ ⟨⟩

theorem stable_sound (components : ∀ definition ∈ registry, ∃ ready, Tells definition ready) :
    (bench registry metadata).Stable fun s => Sound s.session := by
  intro s move t sound moved
  cases moved with
  | @line line later response session _ answer =>
      have recorded : Sound (s.session.record (.request line)) :=
        ⟨⟨sound.telling.named, sound.telling.ready⟩, sound.isTest⟩
      have answered := recorded.answer components answer
      exact ⟨⟨answered.telling.named, answered.telling.ready⟩, answered.isTest⟩
  | component active update =>
      have updated := sound.update active update
      exact ⟨⟨updated.telling.named, updated.telling.ready⟩, updated.isTest⟩

/-- **In every state that is reached** an active test is sound. -/
theorem Bench.Reachable.sound
    (components : ∀ definition ∈ registry, ∃ ready, Tells definition ready)
    (reachable : Bench.Reachable registry metadata s) : Sound s.session := by
  obtain ⟨α, device, dialogue, rest, turns, run⟩ := reachable
  refine run.invariant (I := fun s => Sound s.1.session) ?_ (Sound.of_idle rfl)
  intro first turn last sound step
  cases step with
  | other moved => exact stable_sound components _ _ _ sound moved
  | own replied =>
      cases replied
      all_goals exact sound

end Moves

/-! ## When a stop is alone -/

/-- The component of the active test has no event to tell. -/
def HasNoEvent (s : Bench δ) : Prop :=
  ∀ definition device, s.session.runner.activeDefinition = some definition →
    definition.process s.session.device ≠ some (.event, device)

/-- While a request waits, the component has no event to tell. -/
def TellsNothing (s : Bench δ) : FirmwareMove → Prop
  | .line => True
  | .component => s.requests = [] ∨ HasNoEvent s

/-- A line is written when nothing is on its way. -/
def WritesAlone (s : Bench δ) : TesterOperation → Prop
  | .writeLine _ _ => s.requests = [] ∧ s.responses = []
  | _ => True

/-- **The firmware has executed a stop** since a state: it has taken the request, and stopped the
test. -/
def ExecutedStop (line type : Bytes) (s t : Bench δ) : Prop :=
  ∃ before after,
    t.session.actions = s.session.actions ++ before ++ .request line :: .stop type :: after

/-- **How a stop may end** that has been executed: it returns, or the connection fails, or the
interpreter does not read the acknowledgement. -/
inductive StopEnds : Except TesterError Unit → Prop where
  | returned : StopEnds (.ok ())
  | failed {error : TesterError} (failed : IsConnectionError error) : StopEnds (.error error)
  | tooDeep : StopEnds (.error .recursion)

/-! ## The request on its way -/

section Phases

variable (s : Bench δ) (line : Bytes)

/-- What has been done since a state, without the request. -/
def NotTaken (t : Bench δ) : Prop :=
  ∃ added, t.session.actions = s.session.actions ++ added ∧ .request line ∉ added

/-- What has been done since a state, and since the request has been taken. -/
def Taken (t : Bench δ) (rest : List SessionAction) : Prop :=
  ∃ added, t.session.actions = s.session.actions ++ added ++ .request line :: rest ∧
    .request line ∉ added ∧ .request line ∉ rest

/-- The request has not been written. -/
structure Unsent (t : Bench δ) : Prop where
  requests : t.requests = []
  sound : Sound t.session
  notTaken : NotTaken s line t

/-- **The request comes too late**: it finds no test, or it has not stopped one. -/
inductive Missed (t : Bench δ) : Prop where
  | late (requests : t.requests = [line]) (idle : t.session.runner.activeDefinition = none)
      (notTaken : NotTaken s line t)
  | refused {rest : List SessionAction} (requests : t.requests = []) (sound : Sound t.session)
      (taken : Taken s line t rest) (other : ∀ type, rest.head? ≠ some (.stop type))

/-- **The request has been written**: it waits alone, or it has stopped a test, or it comes too
late. -/
inductive Sent (t : Bench δ) : Prop where
  | waiting (requests : t.requests = [line]) (sound : Sound t.session)
      (responses : t.responses = []) (notTaken : NotTaken s line t)
  | stopped {commandId : UInt32} {type : Bytes} {later : List SessionAction}
      (requested : Requests line commandId .stopComponentTest) (named : IsTestTypeName type)
      (requests : t.requests = []) (idle : t.session.runner.activeDefinition = none)
      (responses : t.responses = [testMessage "TEST_STOPPED" commandId type "stopped"])
      (taken : Taken s line t (.stop type :: later))
  | missed (missed : Missed s line t)

variable {s line}

/-- What is executed comes right after the request. -/
theorem Taken.rest_eq {t : Bench δ} {rest : List SessionAction} (taken : Taken s line t rest)
    {type : Bytes} (executed : ExecutedStop line type s t) :
    ∃ after, rest = .stop type :: after := by
  obtain ⟨added, actions, notMem, notMem'⟩ := taken
  obtain ⟨before, after, actions'⟩ := executed
  have same := actions.symm.trans actions'
  rw [List.append_assoc, List.append_assoc, List.append_cancel_left_eq] at same
  obtain ⟨_, _, rest⟩ := (List.append_cons_inj_of_notMem notMem notMem').mp same
  exact ⟨after, rest⟩

theorem NotTaken.not_executed {t : Bench δ} (notTaken : NotTaken s line t) {type : Bytes} :
    ¬ExecutedStop line type s t := by
  rintro ⟨before, after, actions⟩
  obtain ⟨added, actions', notMem⟩ := notTaken
  have same := actions'.symm.trans actions
  rw [List.append_assoc, List.append_cancel_left_eq] at same
  exact notMem (same ▸ List.mem_append_right before (.head _))

/-- **A request that comes too late is not executed.** -/
theorem Missed.not_executed {t : Bench δ} (missed : Missed s line t) {type : Bytes} :
    ¬ExecutedStop line type s t := by
  cases missed with
  | late _ _ notTaken => exact notTaken.not_executed
  | refused _ _ taken other =>
      intro executed
      obtain ⟨after, rfl⟩ := taken.rest_eq executed
      exact other type rfl

end Phases

/-! ## The moves of the firmware -/

section Stability

variable {registry : ComponentTestRegistry δ} {metadata : SessionMetadata} {s t : Bench δ}
  {line : Bytes} {session : SessionState δ} {response : Option Bytes}

theorem request_notMem_responseActions (queued : Option (Bytes × Bool)) :
    SessionAction.request line ∉ responseActions queued := by
  cases queued with
  | none => exact List.not_mem_nil
  | some queued => exact mt List.mem_singleton.mp (fun same => by cases same)

/-- What an update adds starts with the call of the component. -/
theorem componentUpdate_adds {definition : ComponentTestDefinition δ}
    (update : ComponentUpdate definition t.session response session) :
    ∃ result calls, session.actions = t.session.actions ++ .process definition.type result :: calls ∧
      SessionAction.request line ∉ calls := by
  cases update with
  | running _ => exact ⟨_, [], rfl, List.not_mem_nil⟩
  | event _ => exact ⟨_, [], rfl, List.not_mem_nil⟩
  | completed _ _ _ =>
      exact ⟨_, _, rfl, mt List.mem_singleton.mp (fun same => by cases same)⟩

/-- **What a move of a component adds.** -/
theorem adds_of_component {definition : ComponentTestDefinition δ}
    (update : ComponentUpdate definition t.session response session) :
    ∃ added, (Bench.respond response { t with session := session }).session.actions =
        t.session.actions ++ added ∧ SessionAction.request line ∉ added ∧
      ∀ type, added.head? ≠ some (.stop type) := by
  obtain ⟨result, calls, actions, notMem⟩ := @componentUpdate_adds δ t line session response definition update
  refine ⟨.process definition.type result :: calls ++
    responseActions (response.map fun line => (line, decide (IsOneLine line))), ?_, ?_, ?_⟩
  · show session.actions ++ _ = _
    rw [actions, List.append_assoc, List.cons_append]
  · rw [List.cons_append, List.mem_cons, List.mem_append, not_or, not_or]
    exact ⟨(fun same => by cases same), notMem, request_notMem_responseActions _⟩
  · intro type same
    cases same

theorem NotTaken.component {definition : ComponentTestDefinition δ} (notTaken : NotTaken s line t)
    (update : ComponentUpdate definition t.session response session) :
    NotTaken s line (Bench.respond response { t with session := session }) := by
  obtain ⟨added, actions, notMem⟩ := notTaken
  obtain ⟨later, grown, notMem', _⟩ := @adds_of_component δ t line session response definition update
  refine ⟨added ++ later, ?_, ?_⟩
  · rw [grown, actions, List.append_assoc]
  · rw [List.mem_append, not_or]
    exact ⟨notMem, notMem'⟩

theorem Taken.component {definition : ComponentTestDefinition δ} {rest : List SessionAction}
    (taken : Taken s line t rest) (other : ∀ type, rest.head? ≠ some (.stop type))
    (update : ComponentUpdate definition t.session response session) :
    ∃ rest, Taken s line (Bench.respond response { t with session := session }) rest ∧
      ∀ type, rest.head? ≠ some (.stop type) := by
  obtain ⟨added, actions, notMem, notMem'⟩ := taken
  obtain ⟨later, grown, notMemLater, otherLater⟩ := @adds_of_component δ t line session response definition update
  refine ⟨rest ++ later, ⟨added, ?_, notMem, ?_⟩, ?_⟩
  · rw [grown, actions]
    simp only [List.append_assoc, List.cons_append]
  · rw [List.mem_append, not_or]
    exact ⟨notMem', notMemLater⟩
  · intro type
    cases rest with
    | nil => exact otherLater type
    | cons action rest => exact other type

/-- The request is taken. -/
theorem NotTaken.taken (notTaken : NotTaken s line t) {calls : List SessionAction}
    (actions : session.actions = (t.session.record (.request line)).actions ++ calls)
    (notMem : SessionAction.request line ∉ calls) (later : List Bytes)
    (response : Option Bytes) :
    Taken s line (Bench.respond response { t with requests := later, session := session })
      (calls ++ responseActions (response.map fun line => (line, decide (IsOneLine line)))) := by
  obtain ⟨added, earlier, notMem'⟩ := notTaken
  refine ⟨added, ?_, notMem', ?_⟩
  · show session.actions ++ _ = _
    rw [actions, SessionState.record_actions, earlier]
    simp only [List.append_assoc, List.cons_append, List.nil_append]
  · rw [List.mem_append, not_or]
    exact ⟨notMem, request_notMem_responseActions _⟩

theorem responseActions_ne_stop (queued : Option (Bytes × Bool)) (type : Bytes) :
    (responseActions queued).head? ≠ some (.stop type) := by
  cases queued with
  | none => exact fun same => by cases same
  | some queued => exact fun same => by cases same

/-- A request that is answered without a call. -/
theorem NotTaken.refused (notTaken : NotTaken s line t) (sound : Sound t.session)
    (response : Option Bytes) : Missed s line (Bench.respond response
      { t with requests := [], session := t.session.record (.request line) }) :=
  .refused rfl ⟨⟨sound.telling.named, sound.telling.ready⟩, sound.isTest⟩
    (notTaken.taken (List.append_nil _).symm List.not_mem_nil [] response)
    (responseActions_ne_stop _)

section Answers

variable (stop : ∀ {commandId : UInt32} {body : RequestBody}, Requests line commandId body →
    body = .stopComponentTest)
  (notTaken : NotTaken s line t)
  (answer : LineAnswer registry metadata line (t.session.record (.request line)) response session)

include stop notTaken answer

/-- **A stop request that finds no test** is refused. -/
theorem missed_of_answer (idle : t.session.runner.activeDefinition = none) :
    Missed s line (Bench.respond response { t with requests := [], session := session }) := by
  have sound : Sound t.session := Sound.of_idle idle
  cases answer with
  | invalid _ => exact notTaken.refused sound _
  | metadata requested => exact absurd (stop requested) (fun same => by cases same)
  | alreadyActive requested _ => exact absurd (stop requested) (fun same => by cases same)
  | unsupported requested _ _ => exact absurd (stop requested) (fun same => by cases same)
  | started requested _ _ _ => exact absurd (stop requested) (fun same => by cases same)
  | noActiveTest _ _ => exact notTaken.refused sound _
  | stopped _ active _ => exact absurd (idle.symm.trans active).symm (Option.some_ne_none _)

/-- **A stop request that is alone** stops the test, or it is refused. -/
theorem sent_of_answer (sound : Sound t.session) (alone : t.responses = []) :
    Sent s line (Bench.respond response { t with requests := [], session := session }) := by
  cases answer with
  | invalid _ => exact .missed (notTaken.refused sound _)
  | metadata requested => exact absurd (stop requested) (fun same => by cases same)
  | alreadyActive requested _ => exact absurd (stop requested) (fun same => by cases same)
  | unsupported requested _ _ => exact absurd (stop requested) (fun same => by cases same)
  | started requested _ _ _ => exact absurd (stop requested) (fun same => by cases same)
  | noActiveTest _ _ => exact .missed (notTaken.refused sound _)
  | @stopped commandId definition device requested active _ =>
      have named := sound.telling.named definition active
      rw [lifecycleLine_eq (isWord_of_decide (by decide) (by decide))
        (isWord_of_decide (by decide) (by decide)) (isShort_of_isTestTypeName named)]
      have queued : t.responses ++ delivered (some (testMessage "TEST_STOPPED" commandId
          definition.type "stopped")) =
            [testMessage "TEST_STOPPED" commandId definition.type "stopped"] := by
        have one := @delivered_testMessage "TEST_STOPPED" "stopped"
          (isWord_of_decide (by decide) (by decide)) (isWord_of_decide (by decide) (by decide))
          ⟨commandId, definition.type⟩ ⟨requested.commandId_ne_zero, named⟩ commandId
        rw [alone, List.nil_append]
        exact one
      have taken := @NotTaken.taken δ s t line
        { (t.session.record (.request line)).after device [.stop definition.type] with
          runner := componentTestRunnerInitialize } notTaken [.stop definition.type] rfl
        (mt List.mem_singleton.mp fun same => by cases same) []
        (some (testMessage "TEST_STOPPED" commandId definition.type "stopped"))
      exact .stopped requested named rfl rfl queued taken

end Answers

/-- The world in which a stop is alone. -/
abbrev aloneBench (registry : ComponentTestRegistry δ) (metadata : SessionMetadata) :
    World (Bench δ) FirmwareMove TesterOperation TesterOperation.Reply :=
  (bench registry metadata).restricted TellsNothing WritesAlone

theorem Sound.component {definition : ComponentTestDefinition δ}
    (active : t.session.runner.activeDefinition = some definition) (sound : Sound t.session)
    (update : ComponentUpdate definition t.session response session) :
    Sound (Bench.respond response { t with session := session }).session :=
  have updated := sound.update active update
  ⟨⟨updated.telling.named, updated.telling.ready⟩, updated.isTest⟩

theorem stable_unsent : (aloneBench registry metadata).Stable (Unsent s line) := by
  rintro t move u ⟨requests, sound, notTaken⟩ ⟨moved, _⟩
  obtain ⟨definition, response, session, active, update, rfl⟩ := component_of_moves requests moved
  exact ⟨requests, sound.component active update, notTaken.component update⟩

section Stop

variable (stop : ∀ {commandId : UInt32} {body : RequestBody}, Requests line commandId body →
  body = .stopComponentTest)

include stop

theorem stable_missed : (aloneBench registry metadata).Stable (Missed s line) := by
  rintro t move u missed ⟨moved, _⟩
  cases missed with
  | late requests idle notTaken =>
      obtain ⟨line', later, response, session, waiting, answer, rfl⟩ := line_of_moves idle moved
      obtain ⟨rfl, rfl⟩ := List.cons.inj (waiting.symm.trans requests)
      exact missed_of_answer stop notTaken answer idle
  | refused requests sound taken other =>
      obtain ⟨definition, response, session, active, update, rfl⟩ :=
        component_of_moves requests moved
      obtain ⟨rest, taken, other⟩ := taken.component other update
      exact .refused requests (sound.component active update) taken other

/-- **A request that waits alone** is taken alone, or its test ends. -/
theorem stable_sent : (aloneBench registry metadata).Stable (Sent s line) := by
  rintro t move u sent ⟨moved, alone⟩
  cases sent with
  | missed missed => exact .missed (stable_missed stop t move u missed ⟨moved, alone⟩)
  | stopped _ _ requests idle _ _ => exact absurd moved (not_moves requests idle)
  | waiting requests sound responses notTaken =>
      cases moved with
      | line waiting answer =>
          obtain ⟨rfl, rfl⟩ := List.cons.inj (waiting.symm.trans requests)
          exact sent_of_answer stop notTaken answer sound responses
      | @component definition response session active update =>
          have silent : HasNoEvent t := alone.resolve_left fun none =>
            absurd (none.symm.trans requests) (List.cons_ne_nil _ _).symm
          have sound' := sound.component active update
          have notTaken' := notTaken.component update
          cases update with
          | event called => exact absurd called (silent definition _ active)
          | running _ =>
              refine .waiting requests sound' ?_ notTaken'
              show t.responses ++ _ = _
              rw [responses]
              rfl
          | completed _ _ _ => exact .missed (.late requests rfl notTaken')

end Stop

end Stability

/-! ## The tester -/

/-- The acknowledgement of a stop is understood. -/
theorem decode_stopped {commandId : UInt32} {type : Bytes} (positive : commandId ≠ 0)
    (named : IsTestTypeName type) :
    decodeComponentTestMessage (testMessage "TEST_STOPPED" commandId type "stopped")
      commandId.toNat (codes type) = .ok (.acknowledgement (pyStr "TEST_STOPPED")) := by
  have plain := isPlainName_of_isTestTypeName named
  have typed : IsPlainName (ascii "TEST_STOPPED") := isPlainName_ascii (by decide) (by decide)
  have ended : IsPlainName (ascii "stopped") := isPlainName_ascii (by decide) (by decide)
  rw [testMessage, flatten_testResponsePieces commandId typed plain ended,
    decode_testResponse positive plain ended (.inr (.inr rfl)) (by decide)]
  exact congrArg Except.ok (if_neg (by decide))

section Exchange

variable {registry : ComponentTestRegistry δ} {metadata : SessionMetadata} {s : Bench δ}
  {line type : Bytes} {tooDeep : PyStr → Bool} {stopId : Int}

/-- How a stop has ended, as far as the request has been executed. -/
inductive Ended (s : Bench δ) (line type : Bytes) (result : Except TesterError Unit)
    (t : Bench δ) : Prop where
  | missed (missed : Missed s line t)
  | good (good : StopEnds result)
  | never (requests : t.requests = []) (idle : t.session.runner.activeDefinition = none)
      (never : ¬ExecutedStop line type s t)

/-- Reading changes nothing for a request that comes too late. -/
theorem Missed.read {t : Bench δ} (missed : Missed s line t) (later : List Bytes) :
    Missed s line { t with responses := later } := by
  cases missed with
  | late requests idle notTaken => exact .late requests idle notTaken
  | refused requests sound taken other => exact .refused requests sound taken other

/-- What has been read: an acknowledgement, unless the request comes too late. -/
inductive ReadStop (s : Bench δ) (line answer : Bytes) (t : Bench δ) : Prop where
  | missed (missed : Missed s line t)
  | stopped {commandId : UInt32} {type : Bytes} {later : List SessionAction}
      (requested : Requests line commandId .stopComponentTest) (named : IsTestTypeName type)
      (requests : t.requests = []) (idle : t.session.runner.activeDefinition = none)
      (answered : answer = testMessage "TEST_STOPPED" commandId type "stopped")
      (taken : Taken s line t (.stop type :: later))

/-- An acknowledgement has been read, unless the request comes too late. -/
inductive Acknowledged (s : Bench δ) (line : Bytes) (message : ComponentTestMessage)
    (t : Bench δ) : Prop where
  | missed (missed : Missed s line t)
  | stopped (acknowledged : message.acknowledges (pyStr "TEST_STOPPED") = true)

section Stop

variable (encoded : encodeStopComponentTest stopId = .ok line)

include encoded

theorem stable_ended (result : Except TesterError Unit) :
    (aloneBench registry metadata).Stable (Ended s line type result) := by
  intro t move u ended moved
  cases ended with
  | missed missed =>
      exact .missed (stable_missed (fun requested => (request_of_encodeStop encoded requested).1)
        t move u missed moved)
  | good good => exact .good good
  | never requests idle _ => exact absurd moved.1 (not_moves requests idle)

theorem stable_readStop (answer : Bytes) :
    (aloneBench registry metadata).Stable (ReadStop s line answer) := by
  intro t move u read moved
  cases read with
  | missed missed =>
      exact .missed (stable_missed (fun requested => (request_of_encodeStop encoded requested).1)
        t move u missed moved)
  | stopped _ _ requests idle _ _ => exact absurd moved.1 (not_moves requests idle)

theorem stable_acknowledged (message : ComponentTestMessage) :
    (aloneBench registry metadata).Stable (Acknowledged s line message) := by
  intro t move u acknowledged moved
  cases acknowledged with
  | missed missed =>
      exact .missed (stable_missed (fun requested => (request_of_encodeStop encoded requested).1)
        t move u missed moved)
  | stopped acknowledged => exact .stopped acknowledged

/-- **The acknowledgement is understood**, if it is that of the test. -/
theorem ended_of_readStop {answer : Bytes} {t : Bench δ} (read : ReadStop s line answer t) :
    Outcome (Acknowledged s line) (fun error => Ended s line type (.error error))
      (decodeLine tooDeep (fun line => decodeComponentTestMessage line stopId (codes type)) answer)
      t := by
  cases read with
  | missed missed =>
      cases decodeLine tooDeep (fun line => decodeComponentTestMessage line stopId (codes type))
          answer with
      | ok message => exact .missed missed
      | error error => exact .missed missed
  | @stopped commandId type' later requested named requests idle answered taken =>
      cases made : decodeLine tooDeep
          (fun line => decodeComponentTestMessage line stopId (codes type)) answer with
      | ok message =>
          have decoded := decodeLine_eq_ok made
          rw [answered] at decoded
          obtain ⟨_, rfl⟩ := decode_testMessage requested.commandId_ne_zero named
            (isPlainName_ascii (by decide) (by decide)) (.inr (.inr rfl)) (by decide) decoded
          refine .stopped ?_
          rw [if_neg (by decide)]
          exact decide_eq_true (Eq.refl (pyStr "TEST_STOPPED"))
      | error error =>
          rw [decodeLine] at made
          split_ifs at made
          · cases made
            exact .good .tooDeep
          · refine .never requests idle fun executed => ?_
            obtain ⟨_, same⟩ := taken.rest_eq executed
            obtain ⟨rfl, _⟩ := (List.cons.inj same).imp_left SessionAction.stop.inj
            rw [answered, ← (request_of_encodeStop encoded requested).2,
              decode_stopped requested.commandId_ne_zero named] at made
            cases made

/-- **A stop that is alone** ends well when it has been executed. -/
theorem holds_aloneStop :
    (aloneBench registry metadata).Holds (fun _ _ => True) (Unsent s line)
      (TesterDialogue.stopComponentTest tooDeep stopId (codes type))
      (Outcome (fun value => Ended s line type (.ok value)) fun error =>
        Ended s line type (.error error)) := by
  have failing : ∀ error : TesterError,
      (aloneBench registry metadata).Stable (Ended s line type (.error error)) :=
    fun error => stable_ended encoded (.error error)
  have sent : (aloneBench registry metadata).Stable (Sent s line) :=
    stable_sent fun requested => (request_of_encodeStop encoded requested).1
  have written : (aloneBench registry metadata).Holds (fun _ _ => True) (Unsent s line)
      (TesterDialogue.sendRequest (encodeStopComponentTest stopId) writeTimeoutSeconds)
      (Outcome (fun _ => Sent s line) fun error => Ended s line type (.error error)) := by
    rw [encoded]
    refine World.Holds.operation stable_unsent (World.Stable.outcome (fun _ => sent) failing)
      (fun _ _ => trivial) ?_
    rintro t reply u unsent ⟨replied, requests, responses⟩
    cases replied with
    | written _ =>
        have one : t.requests ++ [line] = [line] := by
          rw [requests, List.nil_append]
        exact .waiting one unsent.sound responses unsent.notTaken
    | writtenLate _ failed => exact .good (.failed failed)
    | notWritten failed => exact .good (.failed failed)
  have read : (aloneBench registry metadata).Holds (fun _ _ => True) (Sent s line)
      (TesterDialogue.readLine readTimeoutSeconds)
      (Outcome (ReadStop s line) fun error => Ended s line type (.error error)) := by
    refine World.Holds.operation sent (World.Stable.outcome (stable_readStop encoded) failing)
      (fun _ _ => trivial) ?_
    rintro t reply u sent ⟨replied, _⟩
    cases replied with
    | notRead failed => exact .good (.failed failed)
    | read waiting =>
        cases sent with
        | waiting _ _ responses _ =>
            exact absurd (responses.symm.trans waiting) (List.cons_ne_nil _ _).symm
        | missed missed => exact .missed (missed.read _)
        | stopped requested named requests idle responses taken =>
            obtain ⟨rfl, _⟩ := List.cons.inj (responses.symm.trans waiting)
            exact .stopped requested named requests idle rfl taken
  refine World.Holds.raisingBind failing written fun _ => ?_
  have understood : (aloneBench registry metadata).Holds (fun _ _ => True) (Sent s line)
      (TesterDialogue.readMessage tooDeep readTimeoutSeconds fun line =>
        decodeComponentTestMessage line stopId (codes type))
      (Outcome (Acknowledged s line) fun error => Ended s line type (.error error)) := by
    refine World.Holds.raisingBind failing read fun answer => World.Holds.settle
      (World.Stable.outcome (stable_acknowledged encoded) failing _) fun t read => ?_
    exact ended_of_readStop encoded read
  refine World.Holds.raisingBind failing understood fun message => ?_
  split_ifs with acknowledges
  · exact World.Holds.returns (stable_ended encoded (.ok ())) fun t _ => .good .returned
  · refine World.Holds.done (failing _) fun t acknowledged => ?_
    cases acknowledged with
    | missed missed => exact .missed missed
    | stopped acknowledged => exact absurd acknowledged acknowledges

end Stop

end Exchange

/-! ## Runs -/

/-- **A stop that is alone succeeds.** From every state that is reached and in which no request
waits, in every run in which nothing is on its way when the stop is written and the component has no
event to tell while it waits: once the firmware has executed the stop, it returns, unless the
connection or the interpreter fails. -/
theorem stop_succeeds_when_alone {codes : BoschCodes} {metadata : SessionMetadata}
    {tooDeep : PyStr → Bool} {stopId : Int} {line type : Bytes}
    {s t : Bench FlightComputerComponents} {turns : List (Turn FirmwareMove TesterOperation)}
    {rest : Dialogue TesterOperation TesterOperation.Reply (Except TesterError Unit)}
    (reachable : Bench.Reachable (productionRegistry codes) metadata s) (requests : s.requests = [])
    (encoded : encodeStopComponentTest stopId = .ok line)
    (run : Run ((bench (productionRegistry codes) metadata).restricted TellsNothing
      WritesAlone).Step (s, (TesterDialogue.stopComponentTest tooDeep stopId
        (Library.codes type)).run) turns (t, rest))
    (executed : ExecutedStop line type s t) : ∀ result, rest = .done result → StopEnds result := by
  have unsent : Unsent s line s :=
    ⟨requests, reachable.sound (tells_productionRegistry codes), [], (List.append_nil _).symm,
      List.not_mem_nil⟩
  have ended := (World.Holds.of_run (@holds_aloneStop _ _ _ s line type tooDeep stopId encoded)
    unsent run).2
  rintro result rfl
  have last : Ended s line type result t := by
    have outcome := ended result rfl
    cases result with
    | ok value => exact outcome
    | error error => exact outcome
  cases last with
  | missed missed => exact absurd executed missed.not_executed
  | good good => exact good
  | never _ _ never => exact absurd executed never

/-! ## Two runs -/

/-- Whether an event on the bench leaves a stop alone. -/
def keepsAlone {α : Type} (s : Bench δ × Dialogue TesterOperation TesterOperation.Reply α) :
    BenchEvent → Bool
  | .firmware .line => true
  | .firmware .component => s.1.requests.isEmpty
  | .tester _ =>
      match s.2 with
      | .call (.writeLine _ _) _ => s.1.requests.isEmpty && s.1.responses.isEmpty
      | _ => true

/-- An event that leaves a stop alone. -/
def performAlone {α : Type} (registry : ComponentTestRegistry δ) (metadata : SessionMetadata)
    (s : Bench δ × Dialogue TesterOperation TesterOperation.Reply α) (event : BenchEvent) :
    Option (Bench δ × Dialogue TesterOperation TesterOperation.Reply α) :=
  if keepsAlone s event then performBenchEvent registry metadata s event else none

section Schedule

variable {registry : ComponentTestRegistry δ} {metadata : SessionMetadata} {α : Type}
  {first last : Bench δ × Dialogue TesterOperation TesterOperation.Reply α}

theorem exists_step_of_performAlone {event : BenchEvent}
    (performed : performAlone registry metadata first event = some last) :
    ∃ turn, (aloneBench registry metadata).Step first turn last := by
  obtain ⟨s, dialogue⟩ := first
  rw [performAlone] at performed
  split_ifs at performed with alone
  cases event with
  | firmware move =>
      obtain ⟨t, moved, rfl⟩ := Option.map_eq_some_iff.mp performed
      refine ⟨_, .other ⟨moves_of_performMove moved, ?_⟩⟩
      cases move with
      | line => trivial
      | component => exact .inl (List.isEmpty_iff.mp alone)
  | tester answer =>
      cases dialogue with
      | done value => cases performed
      | call operation next =>
          obtain ⟨⟨reply, t⟩, replied, rfl⟩ := Option.map_eq_some_iff.mp performed
          refine ⟨_, .own ⟨replies_of_performOperation replied, ?_⟩⟩
          cases operation with
          | writeLine payload seconds =>
              obtain ⟨requests, responses⟩ := (Bool.and_eq_true _ _).mp alone
              exact ⟨List.isEmpty_iff.mp requests, List.isEmpty_iff.mp responses⟩
          | readLine _ => trivial
          | ask _ => trivial
          | handles _ _ _ => trivial
          | completes _ _ _ => trivial
          | rounds => trivial
          | unfinished => trivial

theorem exists_run_of_performAlone {events : List BenchEvent}
    (performed : events.foldlM (performAlone registry metadata) first = some last) :
    ∃ turns, Run (aloneBench registry metadata).Step first turns last := by
  induction events generalizing first with
  | nil =>
      obtain rfl := Option.some.inj performed
      exact ⟨[], .refl first⟩
  | cons event events ih =>
      obtain ⟨middle, one, later⟩ := Option.bind_eq_some_iff.mp performed
      obtain ⟨turn, step⟩ := exists_step_of_performAlone one
      obtain ⟨turns, run⟩ := ih later
      exact ⟨_, .head step run⟩

end Schedule

/-- The stop of the test of a barometer, with the command id that the runner takes after an
interrupt. -/
def stopBarometer : TesterDialogue Unit :=
  TesterDialogue.stopComponentTest (fun _ => false) 1002 (Library.codes (ascii "barometer"))

/-- Its request. -/
def stopBarometerLine : Bytes :=
  ascii "\x7b\"protocol_version\":1,\"type\":\"STOP_COMPONENT_TEST\",\"command_id\":1002\x7d"

/-- The state in which the test of a barometer has been started. -/
def barometerStarted : Option (Bench FlightComputerComponents) :=
  ((exchanged ++ exchanged).foldlM
    (performBenchEvent (productionRegistry someCodes) releaseMetadata)
    (.initial silentBarometer, barometerDispatch.run)).map Prod.fst

theorem reachable_barometerStarted {s : Bench FlightComputerComponents}
    (started : barometerStarted = some s) :
    Bench.Reachable (productionRegistry someCodes) releaseMetadata s := by
  obtain ⟨⟨s, rest⟩, performed, rfl⟩ := Option.map_eq_some_iff.mp started
  obtain ⟨turns, run⟩ := exists_run_of_performed performed
  exact ⟨_, _, _, rest, turns, run⟩

/-- Whether the stop has been executed since a state, after some other actions. -/
def stopsAfter (earlier : Nat) (s t : Bench FlightComputerComponents) : Bool :=
  s.session.actions.isPrefixOf t.session.actions &&
    decide (((t.session.actions.drop s.session.actions.length).drop earlier).take 2 =
      [.request stopBarometerLine, .stop (ascii "barometer")])

theorem executedStop_of_stopsAfter {earlier : Nat} {s t : Bench FlightComputerComponents}
    (stops : stopsAfter earlier s t = true) :
    ExecutedStop stopBarometerLine (ascii "barometer") s t := by
  obtain ⟨grown, window⟩ := (Bool.and_eq_true _ _).mp stops
  obtain ⟨added, actions⟩ := List.isPrefixOf_iff_prefix.mp grown
  replace window := of_decide_eq_true window
  rw [← actions, List.drop_left] at window
  refine ⟨added.take earlier, (added.drop earlier).drop 2, ?_⟩
  have rest := List.take_append_drop 2 (added.drop earlier)
  rw [window] at rest
  rw [← actions, List.append_assoc, List.append_cancel_left_eq]
  exact (List.take_append_drop earlier added).symm.trans (congrArg (added.take earlier ++ ·) rest.symm)

/-- How the stop ends when it has been executed. -/
def stopOutcome (perform : Bench FlightComputerComponents ×
      Dialogue TesterOperation TesterOperation.Reply (Except TesterError Unit) → BenchEvent →
        Option (Bench FlightComputerComponents ×
          Dialogue TesterOperation TesterOperation.Reply (Except TesterError Unit)))
    (events : List BenchEvent) (earlier : Nat) : Option (ActiveTest × Except TesterError Unit) :=
  barometerStarted.bind fun s =>
    (events.foldlM perform (s, stopBarometer.run)).bind fun last =>
      match activeTest s.session.runner, last.2 with
      | some test, .done result =>
          if stopsAfter earlier s last.1 && s.requests.isEmpty then some (test, result) else none
      | _, _ => none

theorem exists_of_stopOutcome {perform : Bench FlightComputerComponents ×
      Dialogue TesterOperation TesterOperation.Reply (Except TesterError Unit) → BenchEvent →
        Option (Bench FlightComputerComponents ×
          Dialogue TesterOperation TesterOperation.Reply (Except TesterError Unit))}
    {events : List BenchEvent} {earlier : Nat} {test : ActiveTest}
    {result : Except TesterError Unit}
    (outcome : stopOutcome perform events earlier = some (test, result)) :
    ∃ s t, Bench.Reachable (productionRegistry someCodes) releaseMetadata s ∧
      activeTest s.session.runner = some test ∧ s.requests = [] ∧
      events.foldlM perform (s, stopBarometer.run) = some (t, .done result) ∧
      ExecutedStop stopBarometerLine (ascii "barometer") s t := by
  obtain ⟨s, started, outcome⟩ := Option.bind_eq_some_iff.mp outcome
  obtain ⟨⟨t, rest⟩, performed, outcome⟩ := Option.bind_eq_some_iff.mp outcome
  cases active : activeTest s.session.runner with
  | none =>
      rw [active] at outcome
      cases outcome
  | some running =>
      rw [active] at outcome
      cases rest with
      | call operation next => cases outcome
      | done value =>
          dsimp only at outcome
          split_ifs at outcome with both
          obtain ⟨stops, requests⟩ := (Bool.and_eq_true _ _).mp both
          obtain ⟨rfl, rfl⟩ := Prod.mk.inj (Option.some.inj outcome)
          exact ⟨s, t, reachable_barometerStarted started, active, List.isEmpty_iff.mp requests,
            performed, executedStop_of_stopsAfter stops⟩

theorem encode_stopBarometer : encodeStopComponentTest 1002 = .ok stopBarometerLine := by
  decide +kernel

/-- **An event on its way makes a stop fail** that the firmware has executed: the barometer tells its
failure before the request is taken. -/
theorem stop_fails_on_event : ∃ s t turns message,
    Bench.Reachable (productionRegistry someCodes) releaseMetadata s ∧
    activeTest s.session.runner = some ⟨2, ascii "barometer"⟩ ∧ s.requests = [] ∧
    Run (bench (productionRegistry someCodes) releaseMetadata).Step (s, stopBarometer.run) turns
      (t, .done (.error (.protocolMessage message))) ∧
    ExecutedStop stopBarometerLine (ascii "barometer") s t := by
  have outcome : stopOutcome (performBenchEvent (productionRegistry someCodes) releaseMetadata)
      [.tester none, .firmware .component, .firmware .line, .tester none] 2 =
        some (⟨2, ascii "barometer"⟩, .error (.protocolMessage
          (.text (pyStr "response command_id does not match active test")))) := by
    decide +kernel
  obtain ⟨s, t, reachable, active, requests, performed, executed⟩ := exists_of_stopOutcome outcome
  obtain ⟨turns, run⟩ := exists_run_of_performed performed
  exact ⟨s, t, turns, _, reachable, active, requests, run, executed⟩

/-- A run in which the stop of the barometer is alone. -/
theorem stop_succeeds_when_alone_barometer : ∃ s t turns result,
    activeTest s.session.runner = some ⟨2, ascii "barometer"⟩ ∧
    Run ((bench (productionRegistry someCodes) releaseMetadata).restricted TellsNothing
      WritesAlone).Step (s, stopBarometer.run) turns (t, .done result) ∧
    ExecutedStop stopBarometerLine (ascii "barometer") s t ∧ StopEnds result := by
  have outcome : stopOutcome (performAlone (productionRegistry someCodes) releaseMetadata)
      [.tester none, .firmware .line, .tester none] 0 =
        some (⟨2, ascii "barometer"⟩, .ok ()) := by
    decide +kernel
  obtain ⟨s, t, reachable, active, requests, performed, executed⟩ := exists_of_stopOutcome outcome
  obtain ⟨turns, run⟩ := exists_run_of_performAlone performed
  exact ⟨s, t, turns, .ok (), active, run, executed,
    stop_succeeds_when_alone reachable requests encode_stopBarometer run executed _ rfl⟩

end FlightComputer
