/-
**Polling a climate sensor.**

One cycle reads the sensor, trying again after a fault, and publishes the reading.

* `pollClimate`: humidity before temperature, both or none.
-/

import SensorCape.Dht.Line
import SensorCape.Poll.Retry

namespace SensorCape.Poll

open Dht (Kind LineEvent SingleWire)

/-- How many attempts a cycle makes. -/
def attemptsPerCycle : UInt32 := 5

/-- The pause between two attempts in seconds; the sensor needs it to measure again. -/
def pauseBetweenAttempts : Nat := 2

variable {σ : Type} [SingleWire σ]

/-- One cycle of a climate sensor. -/
def pollClimate (name : String) (kind : Kind) (bound : UInt32) : Action LineEvent σ Unit := do
  let reading ← retry attemptsPerCycle (Dht.readSensor kind bound)
  Action.publish name "humidity" (.number reading.humidity)
  Action.publish name "temperature" (.number reading.temperature)

end SensorCape.Poll
