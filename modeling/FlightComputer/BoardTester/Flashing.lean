import FlightComputer.BoardTester.ProbeListing
import FlightComputer.Library.Histories

/-!
# Building and flashing the firmware

`external_tools.py`, `firmware.py` and the package `flashing`, as a dialogue with the host: what
the tester asks of the file system, of the environment and of the programs that it runs are
operations, and the replies are left open.

A path is its text, with `/` between the parts. `Path.resolve` and `Path.expanduser` are questions
to the host, and the errors that they may raise are left out, as are the `Path` objects' own
normalisations. So is the `UnicodeDecodeError` that `subprocess.run` raises, as it is called with
`text=True`, when a program writes bytes that are no text; nothing in the workflow catches it.
-/

set_option autoImplicit false

namespace FlightComputer.BoardTester

open Library

/-! ## The host -/

/-- What `subprocess.run` comes to, for a program whose output is text: the process has ended, or it
raises `FileNotFoundError`, another `OSError` or `TimeoutExpired`. -/
inductive ProcessAnswer where
  | completed (returncode : Int) (stdout stderr : PyStr)
  | notFound
  | failed (error : PyStr)
  | timedOut
  deriving DecidableEq

/-- What the tester asks of the host. -/
inductive HostOperation where
  | isFile (path : PyStr)
  | isExecutable (path : PyStr)
  | resolve (path : PyStr)
  | expandUser (path : PyStr)
  | which (name : PyStr)
  | environment (name : PyStr)
  | runProcess (command : List PyStr) (directory : Option PyStr) (seconds : Nat)
  deriving DecidableEq

/-- The replies. -/
def HostOperation.Reply : HostOperation → Type
  | .isFile _ => Bool
  | .isExecutable _ => Bool
  | .resolve _ => PyStr
  | .expandUser _ => PyStr
  | .which _ => Option PyStr
  | .environment _ => Option PyStr
  | .runProcess _ _ _ => ProcessAnswer

/-- `ExternalCommandError`, `FirmwareBuildError` and `ProgrammingError`, with their messages. -/
inductive HostError where
  | externalCommand (message : PyStr)
  | firmwareBuild (message : PyStr)
  | programming (message : PyStr)
  deriving DecidableEq

/-- A dialogue with the host. -/
abbrev HostDialogue (α : Type) : Type := RaisingDialogue HostError HostOperation HostOperation.Reply α

/-- A question to the host. -/
def HostDialogue.ask (operation : HostOperation) : HostDialogue operation.Reply :=
  ExceptT.lift (Dialogue.operation operation)

/-- `Path.is_file` -/
def HostDialogue.isFile (path : PyStr) : HostDialogue Bool := ask (.isFile path)

/-- `os.access(path, os.X_OK)` -/
def HostDialogue.isExecutable (path : PyStr) : HostDialogue Bool := ask (.isExecutable path)

/-- `Path.resolve` -/
def HostDialogue.resolve (path : PyStr) : HostDialogue PyStr := ask (.resolve path)

/-- `Path.expanduser` -/
def HostDialogue.expandUser (path : PyStr) : HostDialogue PyStr := ask (.expandUser path)

/-- `shutil.which` -/
def HostDialogue.which (name : PyStr) : HostDialogue (Option PyStr) := ask (.which name)

/-- An exception, unless a condition holds. -/
def HostDialogue.require (holds : Bool) (error : HostError) : HostDialogue Unit :=
  RaisingDialogue.settle (if holds then .ok () else .error error)

open HostDialogue

/-- A part of a path: `directory / name`. -/
def joinPath (directory name : PyStr) : PyStr := directory ++ pyStr "/" ++ name

/-! ## `external_tools.py` -/

/-- `CommandResult` -/
structure CommandResult where
  arguments : List PyStr
  returncode : Int
  stdout : PyStr
  stderr : PyStr

/-- What an answer amounts to: the result, or an `ExternalCommandError`. -/
def commandResult (command : List PyStr) (seconds : Nat) : ProcessAnswer → Except HostError CommandResult
  | .completed returncode stdout stderr => .ok ⟨command, returncode, stdout, stderr⟩
  | .notFound =>
      .error (.externalCommand (pyStr "executable was not found: " ++ command.headD []))
  | .failed error =>
      .error (.externalCommand (pyStr "could not start " ++ command.headD [] ++ pyStr ": " ++ error))
  | .timedOut =>
      .error (.externalCommand (command.headD [] ++ pyStr " timed out after " ++
        codes (decimalText seconds) ++ pyStr " seconds"))

/-- `run_command` -/
def runCommand (command : List PyStr) (directory : Option PyStr) (seconds : Nat) :
    HostDialogue CommandResult := do
  let answer ← ask (.runProcess command directory seconds)
  RaisingDialogue.settle (commandResult command seconds answer)

/-- `failure_detail` -/
def failureDetail (result : CommandResult) : PyStr :=
  let output := if pyStrip result.stderr = [] then pyStrip result.stdout else pyStrip result.stderr
  if output = [] then
    pyStr "command exited with status " ++ codes (signedDecimalText result.returncode)
  else output

/-- `except ExternalCommandError`: another error is raised in its place. -/
def translated {α : Type} (convert : PyStr → HostError) (call : HostDialogue α) : HostDialogue α := do
  match ← RaisingDialogue.attempt call with
  | .ok value => pure value
  | .error (.externalCommand message) => throw (convert message)
  | .error error => throw error

/-! ## `firmware.py` -/

/-- `FirmwareArtifact` -/
structure FirmwareArtifact where
  profile : PyStr
  elfPath : PyStr
  deriving DecidableEq

/-- The directory of the firmware sources. -/
def sourceDirectory (root : PyStr) : PyStr := joinPath root (pyStr "firmware/manufacturing_test")

/-- The firmware image that a build makes. -/
def builtImage (root profile : PyStr) : PyStr :=
  joinPath (joinPath (joinPath (sourceDirectory root) (pyStr "build")) profile)
    (pyStr "openflightcomputer-manufacturing-test.elf")

/-- `firmware-{profile}` -/
def buildPreset (profile : PyStr) : PyStr := pyStr "firmware-" ++ profile

/-- The command that configures the build. -/
def configureCommand (cmake profile : PyStr) : List PyStr :=
  [cmake, pyStr "--preset", buildPreset profile]

/-- The command that builds the firmware. -/
def buildCommand (cmake profile : PyStr) : List PyStr :=
  [cmake, pyStr "--build", pyStr "--preset", buildPreset profile]

/-- `build_firmware` -/
def buildFirmware (root profile : PyStr) : HostDialogue FirmwareArtifact := do
  require (decide (profile = pyStr "debug" ∨ profile = pyStr "release"))
    (.firmwareBuild (pyStr "unsupported firmware build profile: " ++ profile))
  let presets := joinPath (sourceDirectory root) (pyStr "CMakePresets.json")
  require (← isFile presets)
    (.firmwareBuild (pyStr "firmware source tree was not found: expected " ++ presets))
  match ← which (pyStr "cmake") with
  | none =>
      throw (.firmwareBuild (pyStr "CMake was not found; install it with `brew install cmake`"))
  | some cmake =>
      let ninja ← which (pyStr "ninja")
      require ninja.isSome
        (.firmwareBuild (pyStr "Ninja was not found; install it with `brew install ninja`"))
      let configured ← translated
        (fun message => .firmwareBuild (pyStr "firmware configuration failed: " ++ message))
        (runCommand (configureCommand cmake profile) (some (sourceDirectory root)) 60)
      require (decide (configured.returncode = 0))
        (.firmwareBuild (pyStr "firmware configuration failed:\n" ++ failureDetail configured))
      let built ← translated
        (fun message => .firmwareBuild (pyStr "firmware build failed: " ++ message))
        (runCommand (buildCommand cmake profile) (some (sourceDirectory root)) 300)
      require (decide (built.returncode = 0))
        (.firmwareBuild (pyStr "firmware build failed:\n" ++ failureDetail built))
      require (← isFile (builtImage root profile))
        (.firmwareBuild (pyStr "firmware build completed without producing the expected ELF: " ++
          builtImage root profile))
      let elfPath ← resolve (builtImage root profile)
      pure ⟨profile, elfPath⟩

/-! ## `stlink.py` -/

/-- `path.is_file() and os.access(path, os.X_OK)` -/
def isExecutableFile (path : PyStr) : HostDialogue Bool := do
  if ← isFile path then isExecutable path else pure false

/-- The first candidate that is an executable file. -/
def locateCandidate : List PyStr → HostDialogue PyStr
  | [] => throw (.programming
      (pyStr "STM32CubeProgrammer CLI was not found; install STM32CubeProgrammer or " ++
        pyStr "set STM32CUBE_PROGRAMMER_CLI to its executable"))
  | candidate :: candidates => do
      if ← isExecutableFile candidate then resolve candidate else locateCandidate candidates

/-- A text that is not empty: what a truth test of a text or of `None` lets through. -/
def nonemptyText (text : Option PyStr) : Option PyStr := text.filter fun text => !text.isEmpty

/-- The path from the environment, if it is set. -/
def configuredCandidates : Option PyStr → HostDialogue (List PyStr)
  | none => pure []
  | some path => do
      let expanded ← expandUser path
      pure [expanded]

/-- `locate_stm32cubeprogrammer` -/
def locateStm32cubeprogrammer (applicationCandidates : List PyStr) :
    Option PyStr → HostDialogue PyStr
  | some override => do
      let explicit ← expandUser override
      if ← isExecutableFile explicit then resolve explicit
      else throw (.programming
        (pyStr "configured STM32CubeProgrammer CLI is not an executable file: " ++ override))
  | none => do
      let configured ← ask (.environment (pyStr "STM32CUBE_PROGRAMMER_CLI"))
      let configured ← configuredCandidates (nonemptyText configured)
      let onPath ← which (pyStr "STM32_Programmer_CLI")
      locateCandidate (configured ++ (nonemptyText onPath).toList ++ applicationCandidates)

/-- `_run` -/
def runProgrammer (command : List PyStr) (seconds : Nat) : HostDialogue CommandResult :=
  translated .programming (runCommand command none seconds)

/-- `Stm32CubeProgrammer` -/
structure Stm32CubeProgrammer where
  executable : PyStr
  swdFrequencyKhz : Nat

namespace Stm32CubeProgrammer

variable (programmer : Stm32CubeProgrammer)

/-- The command that lists the probes. -/
def listCommand : List PyStr := [programmer.executable, pyStr "--list"]

/-- The arguments that connect to a probe. -/
def connectCommand (probe : PyStr) : List PyStr :=
  [programmer.executable, pyStr "-c", pyStr "port=SWD", pyStr "sn=" ++ probe, pyStr "mode=UR",
    pyStr "freq=" ++ codes (decimalText programmer.swdFrequencyKhz)]

/-- The command that programs and verifies. -/
def programCommand (probe image : PyStr) : List PyStr :=
  programmer.connectCommand probe ++ [pyStr "-d", image, pyStr "-v"]

/-- The command that resets the target. -/
def resetCommand (probe : PyStr) : List PyStr := programmer.connectCommand probe ++ [pyStr "-rst"]

/-- `discover_probes` -/
def discoverProbes : HostDialogue (List PyStr) := do
  let result ← runProgrammer programmer.listCommand 30
  require (decide (result.returncode = 0))
    (.programming (pyStr "could not list ST-Link probes:\n" ++ failureDetail result))
  pure (discoveredProbes result.stdout)

/-- `program_and_verify` -/
def programAndVerify (probe image : PyStr) : HostDialogue Unit := do
  let result ← runProgrammer (programmer.programCommand probe image) 120
  require (decide (result.returncode = 0))
    (.programming (pyStr "programming or verification failed for ST-Link " ++ probe ++
      pyStr ":\n" ++ failureDetail result))

/-- `reset` -/
def reset (probe : PyStr) : HostDialogue Unit := do
  let result ← runProgrammer (programmer.resetCommand probe) 30
  require (decide (result.returncode = 0))
    (.programming (pyStr "firmware was verified but reset failed for ST-Link " ++ probe ++
      pyStr ":\n" ++ failureDetail result))

end Stm32CubeProgrammer

/-! ## `programmer.py` and `workflow.py` -/

/-- `_select_probe` -/
def selectProbe (probes : List PyStr) : Option PyStr → Except HostError PyStr
  | some requested =>
      if probes.contains requested then .ok requested
      else
        let available := (pyStr ", ").intercalate probes
        .error (.programming (pyStr "requested ST-Link probe was not found: " ++ requested ++
          pyStr "; available probes: " ++ if available = [] then pyStr "none" else available))
  | none =>
      match probes with
      | [] => .error (.programming
          (pyStr "no ST-Link probe detected; check its USB connection and power"))
      | [probe] => .ok probe
      | probes => .error (.programming
          (pyStr "multiple ST-Link probes detected; select one with --probe-serial: " ++
            (pyStr ", ").intercalate probes))

/-- `flash_firmware` -/
def flashFirmware (programmer : Stm32CubeProgrammer) (image : PyStr) (requested : Option PyStr) :
    HostDialogue PyStr := do
  require (← isFile image) (.programming (pyStr "firmware ELF does not exist: " ++ image))
  let probes ← programmer.discoverProbes
  let probe ← RaisingDialogue.settle (selectProbe probes requested)
  programmer.programAndVerify probe image
  programmer.reset probe
  pure probe

/-- The arguments of `build_and_flash_firmware`, with where the repository and the programmer of the
manufacturer are. -/
structure FlashSettings where
  root : PyStr
  applicationCandidates : List PyStr
  profile : PyStr
  firmwarePath : Option PyStr
  probeSerial : Option PyStr
  programmerPath : Option PyStr

/-- `FlashOutcome` -/
structure FlashOutcome where
  artifact : FirmwareArtifact
  probe : PyStr
  deriving DecidableEq

/-- The firmware that is flashed: built, or supplied. -/
def prepareFirmware (settings : FlashSettings) : HostDialogue FirmwareArtifact :=
  match settings.firmwarePath with
  | none => buildFirmware settings.root settings.profile
  | some path => do
      let elfPath ← resolve path
      pure ⟨settings.profile, elfPath⟩

/-- `build_and_flash_firmware`, with the programmer that `Stm32CubeProgrammer.create` makes. -/
def buildAndFlashFirmware (settings : FlashSettings) : HostDialogue FlashOutcome := do
  let artifact ← prepareFirmware settings
  let executable ← locateStm32cubeprogrammer settings.applicationCandidates settings.programmerPath
  let probe ← flashFirmware ⟨executable, 1000⟩ artifact.elfPath settings.probeSerial
  pure ⟨artifact, probe⟩

end FlightComputer.BoardTester
