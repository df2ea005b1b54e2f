/-
**Attaching the register sensors.**

Once the buses are open, the register sensors of the settings are attached in the order in which
they are listed: each one's handle is opened and its route is made. The first one that cannot be
attached ends the start.

* `attach`: one sensor; `attachAll`: all of them.
-/

import SensorCape.Daemon.Start
import SensorCape.Poll.Register

namespace SensorCape.Daemon

open Poll (RegisterSensor)
open Register (Shared openHandle)

variable {σ τ : Type} [Devices σ]

/-- Opens the handle of a register sensor and makes its route. -/
def attach (probe : Settings.Probe) : OnBus σ (Shared τ) (Except Failure RegisterSensor) := do
  match ← Action.attempt (openHandle probe.address probe.framing) with
  | .error fault => return .error (.handle probe.name fault)
  | .ok handle =>
    match probe.route with
    | .error complaint => return .error (.invalid complaint)
    | .ok route => return .ok ⟨probe.name, route, handle, probe.register, probe.length⟩

/-- Attaches register sensors one after the other, up to the first one that fails. -/
def attachAll : List Settings.Probe → OnBus σ (Shared τ) (Except Failure (List RegisterSensor))
  | [] => return .ok []
  | probe :: rest => do
    match ← attach probe with
    | .error failure => return .error failure
    | .ok sensor => return (← attachAll rest).map (sensor :: ·)

end SensorCape.Daemon
