/-
**A simulated machine.**

Plain memory behind a device that may refuse to be opened or to be mapped, always for the same
reason; and the nodes of the system's tree, with one file of zeros beside them.

* `Physical`: the memory device.
* `placeOf`: what is opened by a path.
-/

import SensorCape.CommandLine.Tree
import SensorCape.Gpio.Register

namespace SensorCape.Bench

/-- Plain memory behind a device with its refusals. -/
structure Physical where
  memory : Gpio.Memory
  /-- Why the device cannot be opened, if it cannot. -/
  closed : Option Cause
  /-- Why its windows cannot be mapped, if they cannot. -/
  unmappable : Option Cause

instance : Gpio.MemoryDevice Physical where
  acquire device := (device.closed, device)
  map _ device := (device.unmappable, device)
  load bank word device := device.memory.words bank word
  store bank word value device := { device with memory := device.memory.store bank word value }

/-- The name of the file of zeros. -/
def scratchName : String := "scratch"

/-- What is opened by a path. The path of the file of zeros is not shown, since it differs from run
to run. -/
def placeOf (path : String) : Kernel.Place :=
  if path = scratchName then ⟨"<scratch>", .zeros⟩ else ⟨path, .atPath path⟩

end SensorCape.Bench
