/-
**Polling a sensor on the register bus.**

One cycle selects the sensor's route, reads a register, and parks the extension board if the route
uses it. The board is parked whether the read succeeded or not; bytes that were read are published
although the board could not be parked.

* `RegisterSensor.poll`: a fault of the read comes before a fault of the parking.
* `RegisterSensor.poll_apply`: a cycle in terms of its read and its parking.
-/

import SensorCape.Register.Bus

namespace SensorCape.Poll

open Register (Handle Route Selector Shared)

/-- A sensor of which one register is read as it is. -/
structure RegisterSensor where
  name : String
  route : Route
  handle : Handle
  register : UInt8
  length : Nat
  deriving DecidableEq, Repr

variable {σ τ : Type} [Devices σ]

namespace RegisterSensor

/-- Reads the register on the sensor's route. -/
def probe (selector : Option (Selector σ τ)) (sensor : RegisterSensor) :
    OnBus σ (Shared τ) (List UInt8) :=
  Register.transaction selector sensor.route (sensor.handle.read sensor.register sensor.length)

/-- Parks the board if the sensor's route uses it. -/
def leave (selector : Option (Selector σ τ)) (sensor : RegisterSensor) :
    OnBus σ (Shared τ) Unit :=
  if sensor.route.extension.isSome then Register.park selector else pure ()

/-- One cycle of a register sensor. -/
def poll (selector : Option (Selector σ τ)) (sensor : RegisterSensor) :
    OnBus σ (Shared τ) Unit := do
  let data ← Action.attempt (sensor.probe selector)
  let parked ← Action.attempt (sensor.leave selector)
  match data with
  | .ok bytes =>
    Action.publish sensor.name "raw" (.raw bytes)
    Action.ofExcept parked
  | .error fault =>
    match parked with
    | .ok () => pure ()
    | .error second =>
      Action.note .warn s!"{sensor.name}: failed to park extension board: {second.message}"
    Action.fail fault

/-- The sample that a cycle publishes for what it read. -/
def samples (sensor : RegisterSensor) : Except Fault (List UInt8) → List Sample
  | .ok bytes => [⟨sensor.name, "raw", .raw bytes⟩]
  | .error _ => []

/-- The record that a cycle leaves if neither the reading nor the parking succeeded. -/
def warnings (sensor : RegisterSensor) : Except Fault (List UInt8) → Except Fault Unit → List Record
  | .error _, .error second =>
    [⟨.warn, s!"{sensor.name}: failed to park extension board: {second.message}"⟩]
  | _, _ => []

/-- **A cycle is its read and then its leaving**, and both are carried out whatever becomes of
them. -/
theorem poll_apply (selector : Option (Selector σ τ)) (sensor : RegisterSensor)
    (rig : Rig σ (Shared τ)) :
    let probed := sensor.probe selector rig
    let left := sensor.leave selector probed.state
    sensor.poll selector rig = ⟨Action.settled (probed.result.map fun _ => ()) left.result,
      probed.journal ++ left.journal ++
        ⟨[], sensor.warnings probed.result left.result, sensor.samples probed.result⟩,
      left.state⟩ := by
  simp only [poll, Action.bind_apply, Action.attempt, Journal.append_assoc]
  cases (sensor.probe selector rig).result with
  | ok bytes =>
    cases (sensor.leave selector (sensor.probe selector rig).state).result with
    | ok done => rfl
    | error second => rfl
  | error fault =>
    cases (sensor.leave selector (sensor.probe selector rig).state).result with
    | ok done => rfl
    | error second => rfl

end RegisterSensor

end SensorCape.Poll
