/-
**Device nodes.**

What a path leads to when it does not lead to the bus that it should: the node that swallows
everything, a plain file of zeros, a directory, or nothing. Such nodes open or not and move bytes in
their own way, and none of them knows the requests of a bus.

* `Place.acquire`: why a node cannot be opened.
* `Node.exchange`: an exchange with buffers of two lengths is refused before the node is asked.
-/

import SensorCape.Devices
import SensorCape.Kernel.Request

namespace SensorCape.Kernel

/-- What a path leads to. -/
inductive Node
  /-- Swallows what is written and gives nothing. -/
  | sink
  /-- A file that holds zeros as far as anyone reads. -/
  | zeros
  | directory
  /-- There is no node, for a reason. -/
  | absent (reason : Errno)
  deriving DecidableEq, Repr

/-- The device node of the serial bus. -/
def serialPath : String := "/dev/spidev0.0"

/-- The device node of the register bus. -/
def registerPath : String := "/dev/i2c-2"

/-- A path and what it leads to. -/
structure Place where
  path : String
  node : Node
  deriving DecidableEq, Repr

/-- Why a node cannot be opened, if it cannot. -/
def Place.acquire (place : Place) : Option Cause :=
  if place.path.toList.contains '\x00' then some .nulInPath
  else
    match place.node with
    | .sink | .zeros => none
    | .directory => some (.system .isDirectory)
    | .absent reason => some (.system reason)

/-- The fault of a node that cannot be opened, if it cannot. -/
def Place.failure (place : Place) : Option Fault :=
  place.acquire.map (.openFailed place.path)

/-- What every request of a bus is answered with. -/
def unknownRequest : Cause := .system .notTypewriter

namespace Node

/-- Why an exchange fails. -/
def exchange (sent : List UInt8) (room : Nat) : Cause :=
  if sent.length = room then unknownRequest else .lengthMismatch

/-- Writes bytes. -/
def write (data : List UInt8) : Node → Count
  | .sink | .zeros => .moved data.length
  | .directory => .refused (.system .isDirectory)
  | .absent reason => .refused (.system reason)

/-- Reads bytes. -/
def read (length : Nat) : Node → Filling
  | .sink => ⟨.moved 0, []⟩
  | .zeros => ⟨.moved length, List.replicate length 0⟩
  | .directory => ⟨.refused (.system .isDirectory), []⟩
  | .absent reason => ⟨.refused (.system reason), []⟩

end Node

end SensorCape.Kernel
