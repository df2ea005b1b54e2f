/-
**The daemon's command line.**

The one argument names the settings file, and the environment may hold a log filter. What paths lead
to is looked up in the system's tree, and everything else is decided by `Daemon.start`.
-/

import SensorCape.CommandLine.Tree
import SensorCape.Daemon.Start

namespace SensorCape.Daemon

/-- The environment's name for the log filter. -/
def filterVariable : String := "RUST_LOG"

/-- Why a file could not be read. -/
def readCause : IO.Error → Cause
  | .noFileOrDirectory _ _ _ => .system .noEntry
  | .inappropriateType _ _ _ => .system .isDirectory
  | error => .other (toString error)

/-- The contents of a file. -/
def readContents (path : String) : IO (Except Cause ByteArray) := do
  try
    return .ok (← IO.FS.readBinFile path)
  catch error =>
    return .error (readCause error)

end SensorCape.Daemon

open SensorCape.Daemon in
/-- Starts the daemon and prints what it logs. -/
def main (arguments : List String) : IO UInt32 := do
  let path := arguments.headD settingsPath
  let started := start path (← readContents path) SensorCape.Kernel.Node.atPath
  let report := started.report (← IO.getEnv filterVariable)
  for line in report.lines do
    IO.println line
  return report.exitCode.toUInt32
