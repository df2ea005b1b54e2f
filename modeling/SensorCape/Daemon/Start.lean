/-
**Starting the daemon.**

The daemon reads its settings file, checks the settings, says that it starts, and opens the buses
that the settings ask for. Whatever fails on the way ends the start with one record that tells what
was tried and why it failed, from the outside in.

* `load`: the settings of a file.
* `start`: the records of a start, and how it ends.
-/

import SensorCape.Daemon.LogFilter
import SensorCape.Settings.Check
import SensorCape.Settings.Reading
import SensorCape.Text.Screened

namespace SensorCape.Daemon

/-- The settings file where none is named. -/
def settingsPath : String := "/etc/sensord.toml"

/-- The daemon's version. -/
def version : String := "0.1.0"

/-! ### Loading the settings -/

/-- Why a start failed. -/
inductive Failure
  | unreadable (path : String) (cause : Cause)
  | unparsable (path : String) (fault : Settings.ParseFault)
  | invalid (complaint : Settings.Complaint)
  | serialBus (device : String) (fault : Fault)
  | handle (sensor : String) (fault : Fault)
  deriving DecidableEq, Repr

/-- A fault, followed by its cause once more if it has one. -/
def chained (fault : Fault) : String :=
  match fault.cause? with
  | some cause => s!"{fault.message}: {cause.message}"
  | none => fault.message

/-- The words for a failure, what was tried before why it failed. Where a text breaks off is not
said. -/
def Failure.message : Failure → String
  | .unreadable path cause => s!"failed to read {path}: {cause.message}"
  | .unparsable path _ => s!"failed to parse {path}"
  | .invalid complaint => complaint.message
  | .serialBus device fault => s!"failed to open serial bus {device}: {chained fault}"
  | .handle sensor fault => s!"register sensor {sensor}: failed to open handle: {chained fault}"

/-- The text that bytes encode. -/
def textOf (bytes : ByteArray) : Except Cause String :=
  match String.fromUTF8? bytes with
  | some text => .ok text
  | none => .error .notText

/-- The settings of a file with a path and, unless it cannot be read, contents. -/
def load (path : String) (file : Except Cause ByteArray) : Except Failure Settings := do
  let text ← (file.bind textOf).mapError (.unreadable path)
  let settings ← (Settings.parse text).mapError (.unparsable path)
  settings.check.mapError .invalid
  return settings

/-! ### Starting -/

/-- How a start ends. -/
inductive Ending
  /-- Something failed. -/
  | failed
  /-- There is nothing to do. -/
  | idle
  /-- The start goes on with the controller's memory. -/
  | hardware
  deriving DecidableEq, Repr

/-- The code that the daemon leaves with. -/
def Ending.exitCode : Ending → Nat
  | .failed => 1
  | .idle | .hardware => 0

/-- A start, as far as it goes without the hardware. -/
structure Start where
  log : List Record
  ending : Ending
  deriving DecidableEq, Repr

/-- A start that failed after some records. -/
def Start.failed (log : List Record) (failure : Failure) : Start :=
  ⟨log ++ [⟨.error, s!"sensord: {failure.message}"⟩], .failed⟩

/-- The start with settings from a path; `nodeAt` says what paths lead to. -/
def startWith (path : String) (nodeAt : String → Kernel.Node) (settings : Settings) : Start :=
  let log : List Record := [⟨.info, s!"Starting sensord v{version} with {path}"⟩]
  match settings.serial with
  | some bus =>
    match Kernel.Place.failure ⟨bus.device, nodeAt bus.device⟩ with
    | some fault => .failed log (.serialBus bus.device fault)
    | none => ⟨log, .hardware⟩
  | none =>
    if settings.registerBus.isSome || !settings.climate.isEmpty then ⟨log, .hardware⟩
    else ⟨log ++ [⟨.warn, s!"No sensors configured in {path}"⟩], .idle⟩

/-- The start with a settings file. -/
def start (path : String) (file : Except Cause ByteArray) (nodeAt : String → Kernel.Node) :
    Start :=
  match load path file with
  | .ok settings => startWith path nodeAt settings
  | .error failure => .failed [] failure

/-- The target of the daemon's own records. -/
def target : String := "sensord"

/-- The records of a start that a filter shows, as they are printed. -/
def Start.shown (filter : LogFilter) (start : Start) : List String :=
  (start.log.filter fun record => filter.shows target record.severity).map fun record =>
    s!"{record.severity.name} {target}: {Text.screened record.text}"

/-! ### Reports -/

/-- What is seen of a start from outside. -/
structure Report where
  exitCode : Nat
  lines : List String
  deriving DecidableEq, Repr

/-- The code that the daemon leaves with if it cannot start under its log filter. -/
def filterCode : Nat := 101

/-- What is seen of a start in an environment that may hold a log filter. -/
def Start.report (given : Option String) (start : Start) : Report :=
  match LogFilter.ofVariable? given with
  | some filter => ⟨start.ending.exitCode, start.shown filter⟩
  | none => ⟨filterCode, []⟩

end SensorCape.Daemon
