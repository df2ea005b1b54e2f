/-
**Polling the modules of the serial bus.**

The leak detector answers one byte with an input in every bit, and the power board takes one byte
with an outlet in every bit.

* `pollLeak`: one flag for each of the eight inputs, the lowest bit first.
* `setOutlets`: the command byte, written once.
-/

import SensorCape.Outlets
import SensorCape.Serial.Module

namespace SensorCape.Poll

variable {σ : Type} [Devices σ]

/-- Publishes the inputs of the leak detector. -/
def publishLeak (inputs : UInt8) : List Nat → OnBus σ Serial.Bus Unit
  | [] => pure ()
  | input :: rest => do
    Action.publish "leak_detector" (toString input) (.flag (inputs.toNat.testBit input))
    publishLeak inputs rest

/-- One cycle of the leak detector. -/
def pollLeak (address : UInt8) : OnBus σ Serial.Bus Unit := do
  let inputs ← Serial.readModule address
  publishLeak inputs (List.range 8)

/-- Pushes the outlets' states to the power board. -/
def setOutlets (outlets : Outlets) : OnBus σ Serial.Bus Unit := do
  let _ ← Serial.writeModule outlets.address [outlets.mask]
  Action.note .info
    s!"outlets: module {outlets.address} set to 0b{Text.padded 2 8 outlets.mask.toNat}"

end SensorCape.Poll
