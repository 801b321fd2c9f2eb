import FlightComputer.BoardTester.Flashing

/-!
# What is flashed, and when

Whatever the host replies, `build_and_flash_firmware` runs its commands in order and only after
the one before has succeeded: the firmware is built, the probes are listed, one probe is
programmed with the image that has been built or supplied, and it is reset. The probe is the one
that has been requested, or the only one that is listed. If the workflow raises an exception, no
reset has succeeded (`flashing_is_orderly`).
-/

set_option autoImplicit false

namespace FlightComputer.BoardTester

open Library World HostDialogue

/-! ## What has happened -/

/-- What the host has been asked so far, with its replies. -/
abbrev HostHistory : Type := History HostOperation HostOperation.Reply

/-- A command with what it came to. -/
abbrev RunCommand : Type := List PyStr × ProcessAnswer

/-- The command of an exchange, if it ran one. -/
def commandOf : Exchange HostOperation HostOperation.Reply → Option RunCommand
  | ⟨.runProcess command _ _, answer⟩ => some (command, answer)
  | _ => none

/-- The commands that have been run. -/
def commandsOf (history : HostHistory) : List RunCommand := history.filterMap commandOf

/-- The process has ended with 0. -/
def ProcessAnswer.Succeeded (answer : ProcessAnswer) : Prop :=
  ∃ stdout stderr, answer = .completed 0 stdout stderr

/-- The exchange took place when these commands had been run. -/
def TookPlace (history : HostHistory) (commands : List RunCommand)
    (exchange : Exchange HostOperation HostOperation.Reply) : Prop :=
  ∃ earlier later, history = earlier ++ exchange :: later ∧ commandsOf earlier = commands

/-- **Where an image comes from**: it has been built with these commands, and was there
afterwards, or it has been supplied. -/
inductive IsImage (settings : FlashSettings) (history : HostHistory) :
    List RunCommand → FirmwareArtifact → Prop where
  | built {cmake elfPath : PyStr} {configured built : ProcessAnswer}
      (unsupplied : settings.firmwarePath = none)
      (configures : configured.Succeeded) (builds : built.Succeeded)
      (present : TookPlace history [(configureCommand cmake settings.profile, configured),
          (buildCommand cmake settings.profile, built)]
        ⟨.isFile (builtImage settings.root settings.profile), true⟩)
      (resolved : ⟨.resolve (builtImage settings.root settings.profile), elfPath⟩ ∈ history) :
      IsImage settings history [(configureCommand cmake settings.profile, configured),
        (buildCommand cmake settings.profile, built)] ⟨settings.profile, elfPath⟩
  | supplied {path elfPath : PyStr} (supplied : settings.firmwarePath = some path)
      (resolved : ⟨.resolve path, elfPath⟩ ∈ history) :
      IsImage settings history [] ⟨settings.profile, elfPath⟩

/-- **Where the programmer is**: an executable file, and no other than the configured one, if one
is configured. -/
structure IsProgrammer (settings : FlashSettings) (history : HostHistory)
    (programmer : Stm32CubeProgrammer) : Prop where
  frequency : programmer.swdFrequencyKhz = 1000
  located : ∃ candidate, ⟨.isFile candidate, true⟩ ∈ history ∧
    ⟨.isExecutable candidate, true⟩ ∈ history ∧
    ⟨.resolve candidate, programmer.executable⟩ ∈ history ∧
    ∀ override, settings.programmerPath = some override →
      ⟨.expandUser override, candidate⟩ ∈ history

/-- Everything is there to program an image. -/
structure IsPrepared (settings : FlashSettings) (history : HostHistory)
    (preparation : List RunCommand) (artifact : FirmwareArtifact)
    (programmer : Stm32CubeProgrammer) : Prop where
  image : IsImage settings history preparation artifact
  present : TookPlace history preparation ⟨.isFile artifact.elfPath, true⟩
  programmer : IsProgrammer settings history programmer

/-- **The probe that is to be programmed**: the one that is requested, or the only one. -/
def IsSelected (probes : List PyStr) (probe : PyStr) : Option PyStr → Prop
  | some requested => probe = requested ∧ probe ∈ probes
  | none => probes = [probe]

/-- **When a command is run.** -/
inductive IsDue (settings : FlashSettings) (history : HostHistory) : List PyStr → Prop where
  | configure {cmake : PyStr} (unsupplied : settings.firmwarePath = none)
      (first : commandsOf history = []) :
      IsDue settings history (configureCommand cmake settings.profile)
  | build {cmake : PyStr} {answer : ProcessAnswer} (unsupplied : settings.firmwarePath = none)
      (done : commandsOf history = [(configureCommand cmake settings.profile, answer)])
      (configured : answer.Succeeded) : IsDue settings history (buildCommand cmake settings.profile)
  | list {artifact : FirmwareArtifact} {programmer : Stm32CubeProgrammer}
      (prepared : IsPrepared settings history (commandsOf history) artifact programmer) :
      IsDue settings history programmer.listCommand
  | program {preparation : List RunCommand} {artifact : FirmwareArtifact}
      {programmer : Stm32CubeProgrammer} {stdout stderr probe : PyStr}
      (prepared : IsPrepared settings history preparation artifact programmer)
      (done : commandsOf history =
        preparation ++ [(programmer.listCommand, .completed 0 stdout stderr)])
      (selected : IsSelected (discoveredProbes stdout) probe settings.probeSerial) :
      IsDue settings history (programmer.programCommand probe artifact.elfPath)
  | reset {preparation : List RunCommand} {artifact : FirmwareArtifact}
      {programmer : Stm32CubeProgrammer} {stdout stderr probe : PyStr} {answer : ProcessAnswer}
      (prepared : IsPrepared settings history preparation artifact programmer)
      (selected : IsSelected (discoveredProbes stdout) probe settings.probeSerial)
      (done : commandsOf history =
        preparation ++ [(programmer.listCommand, .completed 0 stdout stderr),
          (programmer.programCommand probe artifact.elfPath, answer)])
      (programmed : answer.Succeeded) : IsDue settings history (programmer.resetCommand probe)

/-- **What a flashing that has returned has done.** -/
structure IsFlashed (settings : FlashSettings) (history : HostHistory) (outcome : FlashOutcome) :
    Prop where
  done : ∃ preparation programmer stdout stderr programmed reset,
    IsPrepared settings history preparation outcome.artifact programmer ∧
    IsSelected (discoveredProbes stdout) outcome.probe settings.probeSerial ∧
    programmed.Succeeded ∧ reset.Succeeded ∧
    commandsOf history =
      preparation ++ [(programmer.listCommand, .completed 0 stdout stderr),
        (programmer.programCommand outcome.probe outcome.artifact.elfPath, programmed),
        (programmer.resetCommand outcome.probe, reset)]

/-- No reset has succeeded. -/
def NotReset (commands : List RunCommand) : Prop :=
  ∀ item ∈ commands, item.2.Succeeded →
    ∀ (programmer : Stm32CubeProgrammer) probe, item.1 ≠ programmer.resetCommand probe

/-! ## Histories grow -/

/-- What stays true of a history that grows. -/
def Lasts (fact : HostHistory → Prop) : Prop :=
  ∀ history exchange, fact history → fact (history ++ [exchange])

theorem lasts_mem (exchange : Exchange HostOperation HostOperation.Reply) :
    Lasts fun history => exchange ∈ history :=
  fun _ _ listed => List.mem_append_left _ listed

theorem lasts_tookPlace (commands : List RunCommand)
    (exchange : Exchange HostOperation HostOperation.Reply) :
    Lasts fun history => TookPlace history commands exchange := by
  rintro _ last ⟨earlier, later, rfl, same⟩
  exact ⟨earlier, later ++ [last], by simp, same⟩

theorem lasts_isImage (settings : FlashSettings) (commands : List RunCommand)
    (artifact : FirmwareArtifact) :
    Lasts fun history => IsImage settings history commands artifact := by
  intro history exchange isImage
  cases isImage with
  | built unsupplied configures builds present resolved =>
      exact .built unsupplied configures builds (lasts_tookPlace _ _ _ exchange present)
        (lasts_mem _ _ exchange resolved)
  | supplied supplied resolved => exact .supplied supplied (lasts_mem _ _ exchange resolved)

theorem lasts_isProgrammer (settings : FlashSettings) (programmer : Stm32CubeProgrammer) :
    Lasts fun history => IsProgrammer settings history programmer := by
  rintro history exchange ⟨frequency, candidate, file, executable, resolved, override⟩
  exact ⟨frequency, candidate, lasts_mem _ _ exchange file, lasts_mem _ _ exchange executable,
    lasts_mem _ _ exchange resolved,
    fun path configured => lasts_mem _ _ exchange (override path configured)⟩

theorem lasts_isPrepared (settings : FlashSettings) (preparation : List RunCommand)
    (artifact : FirmwareArtifact) (programmer : Stm32CubeProgrammer) :
    Lasts fun history => IsPrepared settings history preparation artifact programmer :=
  fun history exchange prepared =>
    ⟨lasts_isImage _ _ _ history exchange prepared.image,
      lasts_tookPlace _ _ history exchange prepared.present,
      lasts_isProgrammer _ _ history exchange prepared.programmer⟩

theorem commandsOf_append (history : HostHistory)
    (exchange : Exchange HostOperation HostOperation.Reply) :
    commandsOf (history ++ [exchange]) = commandsOf history ++ (commandOf exchange).toList := by
  rw [commandsOf, List.filterMap_append, commandsOf]
  cases same : commandOf exchange with
  | none => simp [same]
  | some command => simp [same]

/-- No reset has succeeded after another command. -/
theorem NotReset.append {commands : List RunCommand} (notReset : NotReset commands)
    {item : RunCommand}
    (other : item.2.Succeeded →
      ∀ (programmer : Stm32CubeProgrammer) probe, item.1 ≠ programmer.resetCommand probe) :
    NotReset (commands ++ [item]) := by
  intro item' listed
  rcases List.mem_append.mp listed with early | late
  · exact notReset item' early
  · obtain rfl := List.mem_singleton.mp late
    exact other

/-- A reset is told from other commands by its length. -/
theorem ne_resetCommand {command : List PyStr} (length : command.length ≠ 7)
    (programmer : Stm32CubeProgrammer) (probe : PyStr) : command ≠ programmer.resetCommand probe := by
  rintro rfl
  exact length rfl

/-! ## The rules -/

section Rules

variable {settings : FlashSettings} {done : List RunCommand} {facts : HostHistory → Prop}

/-- A command is run only when it is due. -/
def DueOnly (settings : FlashSettings) (history : HostHistory) (operation : HostOperation) : Prop :=
  ∀ command directory seconds, operation = .runProcess command directory seconds →
    IsDue settings history command

/-- When an exception is raised. -/
def RaisedBeforeReset (_ : HostError) (history : HostHistory) : Prop :=
  NotReset (commandsOf history)

/-- These commands have been run, without a reset, and something is known. -/
structure Having (done : List RunCommand) (facts : HostHistory → Prop) (history : HostHistory) :
    Prop where
  commands : commandsOf history = done
  notReset : NotReset done
  facts : facts history

/-- What holds of a dialogue with any host. -/
abbrev HoldsOfHost {α : Type} (settings : FlashSettings) (before : HostHistory → Prop)
    (dialogue : HostDialogue α) (after : α → HostHistory → Prop) : Prop :=
  (recording HostOperation HostOperation.Reply).Holds (DueOnly settings) before dialogue.run
    (Raising.Outcome after RaisedBeforeReset)

/-- **A question** leaves the commands as they are, and something is learnt. -/
theorem holds_ask {operation : HostOperation}
    {facts' : operation.Reply → HostHistory → Prop} (lasts : Lasts facts)
    (question : ∀ reply : operation.Reply, commandOf ⟨operation, reply⟩ = none)
    (learns : ∀ reply history, facts history → TookPlace history done ⟨operation, reply⟩ →
      facts' reply history) :
    HoldsOfHost settings (Having done facts) (ask operation) fun reply =>
      Having done (facts' reply) := by
  refine Holds.recorded ?_ ?_
  · rintro history _ command directory seconds rfl
    exact absurd (question .notFound) (Option.some_ne_none _)
  · rintro history reply ⟨commands, notReset, holds⟩
    refine ⟨?_, notReset, learns _ _ (lasts _ _ holds) ⟨history, [], rfl, commands⟩⟩
    rw [commandsOf_append, question reply, commands]
    exact List.append_nil _

/-- What took place is in the history. -/
theorem TookPlace.mem {history : HostHistory} {commands : List RunCommand}
    {exchange : Exchange HostOperation HostOperation.Reply}
    (tookPlace : TookPlace history commands exchange) : exchange ∈ history := by
  obtain ⟨earlier, later, rfl, _⟩ := tookPlace
  exact List.mem_append_right _ List.mem_cons_self

/-- **A condition** that must hold. -/
theorem holds_require {holds : Bool} {error : HostError} {facts' : HostHistory → Prop}
    (learns : holds = true → ∀ history, facts history → facts' history) :
    HoldsOfHost settings (Having done facts) (require holds error) fun _ => Having done facts' := by
  refine Holds.ended ?_
  rintro history ⟨commands, notReset, known⟩
  cases holds with
  | true => exact ⟨commands, notReset, learns rfl history known⟩
  | false =>
      show NotReset (commandsOf history)
      rwa [commands]

/-- An exception before a reset. -/
theorem holds_throw {α : Type} {error : HostError} {after : α → HostHistory → Prop} :
    HoldsOfHost settings (Having done facts) (throw error) after :=
  Holds.ended fun history having => show NotReset (commandsOf history) from
    having.commands ▸ having.notReset

theorem holds_pure {α : Type} {value : α} {before : HostHistory → Prop}
    {after : α → HostHistory → Prop} (holds : ∀ history, before history → after value history) :
    HoldsOfHost settings before (pure value) after :=
  Holds.ended holds

/-- **A command** is run when it is due, and has come to a result, or an exception is raised. -/
theorem holds_command {command : List PyStr} {directory : Option PyStr} {seconds : Nat}
    {convert : PyStr → HostError} (lasts : Lasts facts)
    (due : ∀ history, Having done facts history → IsDue settings history command) :
    HoldsOfHost settings (Having done facts)
      (translated convert (runCommand command directory seconds)) fun result history =>
        commandsOf history =
            done ++ [(command, .completed result.returncode result.stdout result.stderr)] ∧
          NotReset done ∧ facts history := by
  have ran : (recording HostOperation HostOperation.Reply).Holds (DueOnly settings)
      (Having done facts) (runCommand command directory seconds).run
      (Raising.Outcome (fun result history => commandsOf history =
            done ++ [(command, .completed result.returncode result.stdout result.stderr)] ∧
          NotReset done ∧ facts history) RaisedBeforeReset) := by
    have asked : HoldsOfHost settings (Having done facts)
        (ask (.runProcess command directory seconds)) fun (answer : ProcessAnswer) history =>
          commandsOf history = done ++ [(command, answer)] ∧ NotReset done ∧ facts history := by
      refine Holds.recorded ?_ ?_
      · rintro history having command' directory' seconds' same
        obtain ⟨rfl, rfl, rfl⟩ := HostOperation.runProcess.inj same
        exact due history having
      · rintro history answer ⟨commands, notReset, holds⟩
        refine ⟨?_, notReset, lasts _ _ holds⟩
        rw [commandsOf_append, commands]
        rfl
    refine Holds.andThen asked fun answer => Holds.ended fun history holds => ?_
    obtain ⟨commands, notReset, kept⟩ := holds
    have unfinished : ¬answer.Succeeded → NotReset (commandsOf history) := fun failed =>
      commands ▸ notReset.append fun succeeded => absurd succeeded failed
    cases answer with
    | completed returncode stdout stderr => exact ⟨commands, notReset, kept⟩
    | notFound =>
        refine unfinished ?_
        rintro ⟨_, _, ⟨⟩⟩
    | failed error =>
        refine unfinished ?_
        rintro ⟨_, _, ⟨⟩⟩
    | timedOut =>
        refine unfinished ?_
        rintro ⟨_, _, ⟨⟩⟩
  refine Holds.andThen (Holds.attempt (fun _ => stable_recording _) ran) fun result => ?_
  cases result with
  | ok result => exact Holds.ended fun _ holds => holds
  | error error =>
      cases error with
      | externalCommand message => exact Holds.ended fun _ raised => raised
      | firmwareBuild message => exact Holds.ended fun _ raised => raised
      | programming message => exact Holds.ended fun _ raised => raised

/-- **A command that must end with 0.** -/
theorem holds_succeeds {command : List PyStr} {result : CommandResult} {error : HostError}
    (other : ∀ (programmer : Stm32CubeProgrammer) probe, command ≠ programmer.resetCommand probe) :
    HoldsOfHost settings
      (fun history => commandsOf history =
          done ++ [(command, .completed result.returncode result.stdout result.stderr)] ∧
        NotReset done ∧ facts history)
      (require (decide (result.returncode = 0)) error) fun _ =>
        Having (done ++ [(command, .completed 0 result.stdout result.stderr)]) facts := by
  refine Holds.ended ?_
  rintro history ⟨commands, notReset, holds⟩
  have kept : NotReset (done ++ [(command, ProcessAnswer.completed 0 result.stdout result.stderr)]) :=
    notReset.append fun _ => other
  by_cases zero : result.returncode = 0
  · rw [decide_eq_true zero, if_pos rfl]
    rw [zero] at commands
    exact ⟨commands, kept, holds⟩
  · rw [decide_eq_false zero, if_neg Bool.false_ne_true]
    show NotReset (commandsOf history)
    rw [commands]
    refine notReset.append ?_
    rintro ⟨_, _, same⟩
    exact absurd (ProcessAnswer.completed.inj same).1 zero

/-! ## The workflow -/

/-- **The firmware is built.** -/
theorem holds_buildFirmware (unsupplied : settings.firmwarePath = none) :
    HoldsOfHost settings (Having [] fun _ => True)
      (buildFirmware settings.root settings.profile) fun artifact history =>
        ∃ preparation, Having preparation
          (fun history => IsImage settings history preparation artifact) history := by
  have nothing : Lasts fun _ => True := fun _ _ _ => trivial
  refine Holds.andThen (holds_require fun _ _ known => known) fun _ => ?_
  refine Holds.andThen (holds_ask nothing (fun _ => rfl) fun _ _ known _ => known) fun present => ?_
  refine Holds.andThen (holds_require fun _ _ known => known) fun _ => ?_
  refine Holds.andThen (holds_ask nothing (fun _ => rfl) fun _ _ known _ => known) fun cmake => ?_
  cases cmake with
  | none => exact holds_throw
  | some cmake =>
      refine Holds.andThen (holds_ask nothing (fun _ => rfl) fun _ _ known _ => known) fun ninja => ?_
      refine Holds.andThen (holds_require fun _ _ known => known) fun _ => ?_
      refine Holds.andThen (holds_command nothing fun _ having =>
        .configure unsupplied having.commands) fun configured => ?_
      refine Holds.andThen (holds_succeeds (ne_resetCommand (by simp [configureCommand])))
        fun _ => ?_
      refine Holds.andThen (holds_command nothing fun _ having =>
        .build unsupplied having.commands ⟨_, _, rfl⟩) fun built => ?_
      refine Holds.andThen (holds_succeeds (ne_resetCommand (by simp [buildCommand]))) fun _ => ?_
      have present : Lasts fun history => TookPlace history
          [(configureCommand cmake settings.profile, .completed 0 configured.stdout configured.stderr),
            (buildCommand cmake settings.profile, .completed 0 built.stdout built.stderr)]
          ⟨.isFile (builtImage settings.root settings.profile), true⟩ := lasts_tookPlace _ _
      refine Holds.andThen (holds_ask nothing (fun _ => rfl) fun _ _ _ asked => asked) fun there => ?_
      refine Holds.andThen (holds_require fun holds _ asked => holds ▸ asked) fun _ => ?_
      refine Holds.andThen (holds_ask present (fun _ => rfl) fun _ _ asked resolved =>
        And.intro asked resolved.mem) fun elfPath => holds_pure ?_
      rintro history ⟨commands, notReset, asked, resolved⟩
      exact ⟨_, commands, notReset,
        .built unsupplied ⟨_, _, rfl⟩ ⟨_, _, rfl⟩ asked resolved⟩

/-- **The firmware is there**: built, or supplied. -/
theorem holds_prepareFirmware :
    HoldsOfHost settings (Having [] fun _ => True) (prepareFirmware settings)
      fun artifact history => ∃ preparation, Having preparation
        (fun history => IsImage settings history preparation artifact) history := by
  rw [prepareFirmware]
  cases supplied : settings.firmwarePath with
  | none => exact holds_buildFirmware supplied
  | some path =>
      refine Holds.andThen (holds_ask (fun _ _ _ => trivial) (fun _ => rfl)
        fun _ _ _ resolved => resolved.mem) fun elfPath => holds_pure ?_
      rintro history ⟨commands, notReset, resolved⟩
      exact ⟨[], commands, notReset, .supplied supplied resolved⟩

/-- What is known of an executable file. -/
def IsThere (path : PyStr) (history : HostHistory) : Prop :=
  ⟨.isFile path, true⟩ ∈ history ∧ ⟨.isExecutable path, true⟩ ∈ history

theorem lasts_isThere (path : PyStr) : Lasts (IsThere path) := fun _ exchange there =>
  ⟨lasts_mem _ _ exchange there.1, lasts_mem _ _ exchange there.2⟩

theorem Lasts.and {first second : HostHistory → Prop} (one : Lasts first) (two : Lasts second) :
    Lasts fun history => first history ∧ second history := fun _ exchange both =>
  ⟨one _ exchange both.1, two _ exchange both.2⟩

/-- **Whether a path is an executable file.** -/
theorem holds_isExecutableFile (path : PyStr) (lasts : Lasts facts) :
    HoldsOfHost settings (Having done facts) (isExecutableFile path) fun holds =>
      Having done fun history => facts history ∧ (holds = true → IsThere path history) := by
  refine Holds.andThen (holds_ask lasts (fun _ => rfl) fun _ _ known file =>
    And.intro known file.mem) fun file => ?_
  cases file with
  | true =>
      refine holds_ask (lasts.and (lasts_mem _)) (fun _ => rfl) ?_
      rintro executable history ⟨known, file⟩ asked
      exact ⟨known, fun holds => ⟨file, holds ▸ asked.mem⟩⟩
  | false =>
      refine holds_pure ?_
      rintro history ⟨commands, notReset, known, _⟩
      exact ⟨commands, notReset, known, fun never => absurd never Bool.false_ne_true⟩

/-- **A candidate is located**, if one is an executable file. -/
theorem holds_locateCandidate (candidates : List PyStr) (lasts : Lasts facts) :
    HoldsOfHost settings (Having done facts) (locateCandidate candidates) fun executable =>
      Having done fun history => facts history ∧ ∃ candidate, IsThere candidate history ∧
        ⟨.resolve candidate, executable⟩ ∈ history := by
  induction candidates with
  | nil => exact holds_throw
  | cons candidate candidates ih =>
      refine Holds.andThen (holds_isExecutableFile candidate lasts) fun holds => ?_
      cases holds with
      | true =>
          refine holds_ask (lasts.and fun history exchange there holds =>
            lasts_isThere candidate history exchange (there holds)) (fun _ => rfl) ?_
          rintro executable history ⟨known, there⟩ resolved
          exact ⟨known, candidate, there rfl, resolved.mem⟩
      | false =>
          refine Holds.mono ih ?_ fun _ _ holds => holds
          rintro history ⟨commands, notReset, known, _⟩
          exact ⟨commands, notReset, known⟩

/-- **The programmer is located.** -/
theorem holds_locateStm32cubeprogrammer (lasts : Lasts facts) :
    HoldsOfHost settings (Having done facts)
      (locateStm32cubeprogrammer settings.applicationCandidates settings.programmerPath)
      fun executable => Having done fun history =>
        facts history ∧ IsProgrammer settings history ⟨executable, 1000⟩ := by
  cases configured : settings.programmerPath with
  | some override =>
      refine Holds.andThen (holds_ask lasts (fun _ => rfl) fun _ _ known expanded =>
        And.intro known expanded.mem) fun explicit => ?_
      refine Holds.andThen (holds_isExecutableFile explicit (lasts.and (lasts_mem _)))
        fun holds => ?_
      cases holds with
      | false => exact holds_throw
      | true =>
          refine holds_ask ((lasts.and (lasts_mem _)).and fun history exchange there holds =>
            lasts_isThere explicit history exchange (there holds)) (fun _ => rfl) ?_
          rintro executable history ⟨⟨known, expanded⟩, there⟩ resolved
          obtain ⟨file, accessible⟩ := there rfl
          refine ⟨known, rfl, explicit, file, accessible, resolved.mem, fun path same => ?_⟩
          obtain rfl := Option.some.inj (configured.symm.trans same)
          exact expanded
  | none =>
      have candidates : ∀ candidates, HoldsOfHost settings (Having done facts)
          (locateCandidate candidates) fun executable => Having done fun history =>
            facts history ∧ IsProgrammer settings history ⟨executable, 1000⟩ := by
        intro candidates
        refine Holds.mono (holds_locateCandidate candidates lasts) (fun _ having => having) ?_
        rintro (error | executable) history ended
        · exact ended
        · obtain ⟨commands, notReset, known, candidate, ⟨file, accessible⟩, resolved⟩ := ended
          refine ⟨commands, notReset, known, rfl, candidate, file, accessible, resolved, ?_⟩
          intro override same
          exact absurd (configured.symm.trans same).symm (Option.some_ne_none _)
      have first : ∀ path, HoldsOfHost settings (Having done facts) (configuredCandidates path)
          fun _ => Having done facts := by
        intro path
        cases path with
        | none => exact holds_pure fun _ having => having
        | some path =>
            exact Holds.andThen (holds_ask lasts (fun _ => rfl) fun _ _ known _ => known)
              fun expanded => holds_pure fun _ having => having
      refine Holds.andThen (holds_ask lasts (fun _ => rfl) fun _ _ known _ => known) fun path => ?_
      refine Holds.andThen (first (nonemptyText path)) fun configured => ?_
      exact Holds.andThen (holds_ask lasts (fun _ => rfl) fun _ _ known _ => known)
        fun onPath => candidates _

/-- **The selected probe.** -/
theorem isSelected_of_selectProbe {probes : List PyStr} {requested : Option PyStr} {probe : PyStr}
    (selected : selectProbe probes requested = .ok probe) : IsSelected probes probe requested := by
  cases requested with
  | some requested =>
      rw [selectProbe] at selected
      split_ifs at selected with listed
      obtain rfl := Except.ok.inj selected
      exact ⟨rfl, List.contains_iff_mem.mp listed⟩
  | none =>
      cases probes with
      | nil => cases selected
      | cons first others =>
          cases others with
          | nil =>
              obtain rfl := Except.ok.inj selected
              rfl
          | cons second others => cases selected

/-- **The probes are listed.** -/
theorem holds_discoverProbes {programmer : Stm32CubeProgrammer} (lasts : Lasts facts)
    (due : ∀ history, Having done facts history → IsDue settings history programmer.listCommand) :
    HoldsOfHost settings (Having done facts) programmer.discoverProbes fun probes history =>
      ∃ stdout stderr, probes = discoveredProbes stdout ∧
        Having (done ++ [(programmer.listCommand, .completed 0 stdout stderr)]) facts history := by
  refine Holds.andThen (holds_command lasts due) fun listing => ?_
  have other : ∀ (programmer' : Stm32CubeProgrammer) probe,
      programmer.listCommand ≠ programmer'.resetCommand probe :=
    ne_resetCommand (by simp [Stm32CubeProgrammer.listCommand])
  refine Holds.andThen (holds_succeeds other) fun _ => holds_pure ?_
  exact fun history having => ⟨_, _, rfl, having⟩

/-- **A probe is selected**, or an exception is raised. -/
theorem holds_selectProbe (probes : List PyStr) :
    HoldsOfHost settings (Having done facts)
      (RaisingDialogue.settle (selectProbe probes settings.probeSerial)) fun probe history =>
        IsSelected probes probe settings.probeSerial ∧ Having done facts history := by
  refine Holds.ended fun history having => ?_
  cases chosen : selectProbe probes settings.probeSerial with
  | ok probe => exact ⟨isSelected_of_selectProbe chosen, having⟩
  | error error =>
      show NotReset (commandsOf history)
      exact having.commands ▸ having.notReset

/-- **The probe is programmed.** -/
theorem holds_programAndVerify {programmer : Stm32CubeProgrammer} {probe image : PyStr}
    (lasts : Lasts facts) (due : ∀ history, Having done facts history →
      IsDue settings history (programmer.programCommand probe image)) :
    HoldsOfHost settings (Having done facts) (programmer.programAndVerify probe image)
      fun _ history => ∃ answer : ProcessAnswer, answer.Succeeded ∧
        Having (done ++ [(programmer.programCommand probe image, answer)]) facts history := by
  have other : ∀ (programmer' : Stm32CubeProgrammer) probe',
      programmer.programCommand probe image ≠ programmer'.resetCommand probe' :=
    ne_resetCommand (by simp [Stm32CubeProgrammer.programCommand, Stm32CubeProgrammer.connectCommand])
  refine Holds.andThen (holds_command lasts due) fun programmed => ?_
  refine Holds.mono (holds_succeeds other) (fun _ holds => holds) ?_
  rintro (error | _) history ended
  · exact ended
  · exact ⟨_, ⟨_, _, rfl⟩, ended⟩

/-- **The target is reset.** -/
theorem holds_reset {programmer : Stm32CubeProgrammer} {probe : PyStr} (lasts : Lasts facts)
    (due : ∀ history, Having done facts history →
      IsDue settings history (programmer.resetCommand probe)) :
    HoldsOfHost settings (Having done facts) (programmer.reset probe)
      fun _ history => facts history ∧ ∃ answer : ProcessAnswer, answer.Succeeded ∧
        commandsOf history = done ++ [(programmer.resetCommand probe, answer)] := by
  refine Holds.andThen (holds_command lasts due) fun result => Holds.ended ?_
  rintro history ⟨commands, notReset, known⟩
  by_cases zero : result.returncode = 0
  · rw [decide_eq_true zero, if_pos rfl]
    rw [zero] at commands
    exact ⟨known, _, ⟨_, _, rfl⟩, commands⟩
  · rw [decide_eq_false zero, if_neg Bool.false_ne_true]
    show NotReset (commandsOf history)
    rw [commands]
    refine notReset.append ?_
    rintro ⟨_, _, same⟩
    exact absurd (ProcessAnswer.completed.inj same).1 zero

/-- **One probe is programmed and reset.** -/
theorem holds_flashFirmware {artifact : FirmwareArtifact} {programmer : Stm32CubeProgrammer} :
    HoldsOfHost settings
      (Having done fun history =>
        IsImage settings history done artifact ∧ IsProgrammer settings history programmer)
      (flashFirmware programmer artifact.elfPath settings.probeSerial)
      fun probe history => IsFlashed settings history ⟨artifact, probe⟩ := by
  have lasts : Lasts fun history => IsPrepared settings history done artifact programmer :=
    lasts_isPrepared settings done artifact programmer
  refine Holds.andThen (holds_ask ((lasts_isImage settings done artifact).and
    (lasts_isProgrammer settings programmer)) (fun _ => rfl) fun _ _ known asked =>
      And.intro known asked) fun there => ?_
  refine Holds.andThen (holds_require fun holds history known =>
    (⟨known.1.1, holds ▸ known.2, known.1.2⟩ :
      IsPrepared settings history done artifact programmer)) fun _ => ?_
  refine Holds.andThen (holds_discoverProbes lasts fun history having =>
    .list (having.commands ▸ having.facts)) fun probes => ?_
  refine Holds.exists_before fun stdout => Holds.exists_before fun stderr => Holds.of_fact ?_
  rintro rfl
  refine Holds.andThen (holds_selectProbe (discoveredProbes stdout)) fun probe =>
    Holds.of_fact fun selected => ?_
  refine Holds.andThen (holds_programAndVerify lasts fun history having =>
    .program having.facts having.commands selected) fun _ => ?_
  refine Holds.exists_before fun programmed => Holds.of_fact fun succeeded => ?_
  refine Holds.andThen (holds_reset lasts fun history having =>
    .reset having.facts selected (having.commands.trans (List.append_assoc ..)) succeeded)
    fun _ => holds_pure ?_
  rintro history ⟨prepared, reset, succeeded', commands⟩
  refine ⟨done, programmer, stdout, stderr, programmed, reset, prepared, selected, succeeded,
    succeeded', commands.trans ?_⟩
  rw [List.append_assoc, List.append_assoc]
  rfl

/-- **The whole workflow.** -/
theorem holds_buildAndFlashFirmware :
    HoldsOfHost settings (Having [] fun _ => True) (buildAndFlashFirmware settings)
      fun outcome history => IsFlashed settings history outcome := by
  refine Holds.andThen holds_prepareFirmware fun artifact => ?_
  refine Holds.exists_before fun preparation => ?_
  refine Holds.andThen (holds_locateStm32cubeprogrammer (lasts_isImage settings preparation artifact))
    fun executable => ?_
  exact Holds.andThen holds_flashFirmware fun probe => holds_pure fun _ flashed => flashed

end Rules

/-! ## Every host -/

/-- **Firmware is flashed in order.** Whatever the host replies: a command is run only when it is
due, that is, after the ones before have succeeded, and a probe is programmed only with the
image that has been built or supplied and only if it is the selected one; a workflow that
returns has programmed and reset this probe; one that raises an exception has reset none. -/
theorem flashing_is_orderly {settings : FlashSettings}
    {turns : List (Turn Empty HostOperation)} {history : HostHistory}
    {rest : Dialogue HostOperation HostOperation.Reply (Except HostError FlashOutcome)}
    (run : Run (recording HostOperation HostOperation.Reply).Step
      ([], (buildAndFlashFirmware settings).run) turns (history, rest)) :
    (∀ command directory seconds next,
      rest = .call (.runProcess command directory seconds) next → IsDue settings history command) ∧
    (∀ outcome, rest = .done (.ok outcome) → IsFlashed settings history outcome) ∧
    ∀ error, rest = .done (.error error) → NotReset (commandsOf history) := by
  obtain ⟨due, ended⟩ := Holds.of_run holds_buildAndFlashFirmware
    (⟨rfl, fun _ listed => absurd listed List.not_mem_nil, trivial⟩ : Having [] (fun _ => True) [])
    run
  refine ⟨?_, ?_, ?_⟩
  · intro command directory seconds next same
    exact due _ next same command directory seconds rfl
  · intro outcome same
    exact ended (.ok outcome) same
  · intro error same
    exact ended (.error error) same

/-- The settings of `fc-test run` with one probe connected. -/
def releaseSettings : FlashSettings where
  root := pyStr "/repository"
  applicationCandidates := []
  profile := pyStr "release"
  firmwarePath := none
  probeSerial := none
  programmerPath := none

/-- A host on which everything succeeds, and one probe is listed. -/
def oneProbeHost : (operation : HostOperation) → operation.Reply
  | .isFile _ => true
  | .isExecutable _ => true
  | .resolve path => path
  | .expandUser path => path
  | .which name => some (pyStr "/usr/bin/" ++ name)
  | .environment _ => none
  | .runProcess command _ _ =>
      .completed 0
        (if command.contains (pyStr "--list") then pyStr "ST-LINK SN  : 066EFF31\n" else []) []

/-- The release firmware is flashed. -/
theorem flashing_is_orderly_release : ∃ turns history outcome,
    Run (recording HostOperation HostOperation.Reply).Step
      ([], (buildAndFlashFirmware releaseSettings).run) turns (history, .done (.ok outcome)) ∧
    outcome.probe = pyStr "066EFF31" ∧ IsFlashed releaseSettings history outcome := by
  have flashed : ((buildAndFlashFirmware releaseSettings).run.replied oneProbeHost).toOption.map
      FlashOutcome.probe = some (pyStr "066EFF31") := by decide +kernel
  obtain ⟨turns, history, run⟩ := exists_run_of_replied oneProbeHost
    (buildAndFlashFirmware releaseSettings).run []
  cases result : (buildAndFlashFirmware releaseSettings).run.replied oneProbeHost with
  | error error =>
      rw [result] at flashed
      cases flashed
  | ok outcome =>
      rw [result] at flashed run
      obtain ⟨_, returned, _⟩ := flashing_is_orderly run
      exact ⟨turns, history, outcome, run, Option.some.inj flashed, returned outcome rfl⟩

end FlightComputer.BoardTester
