/-
**Handles of the register bus.**

A handle is an open target: its address, the framing it was opened with, and its number among the
handles of the bus, which tells two handles apart. Reading takes two phases under register framing,
and a fault of the first is reported as a failed read.

* `Handle.write`: one device write of the whole frame.
* `Handle.read`: exactly `length` bytes, or a fault.
-/

import SensorCape.Register.Route

namespace SensorCape.Register

/-- An open target. -/
structure Handle where
  address : TargetAddress
  framing : Framing
  /-- How many handles the bus had opened before. -/
  number : Nat
  deriving DecidableEq, Repr

variable {σ τ : Type} [Devices σ]

/-- Writes bytes to a target, which must take them all. -/
def send (address : TargetAddress) (data : List UInt8) : OnBus σ τ Unit := do
  let count ← Rig.call (Devices.writeTarget address.value data)
    (Event.writeTarget address.value data)
  let _ ← Action.ofExcept (checkWritten data.length count)
  pure ()

/-- Reads a number of bytes from a target, which must supply them all. -/
def receive (address : TargetAddress) (length : Nat) : OnBus σ τ (List UInt8) := do
  let filling ← Rig.call (Devices.readTarget address.value length)
    fun filling => Event.readTarget address.value length filling.count
  let _ ← Action.ofExcept (checkRead length filling.count)
  pure (buffered length filling.bytes)

/-- A refused register address counts as a failed read. -/
def asReadFault (length : Nat) : Fault → Fault
  | .writeFailed _ cause => .readFailed length cause
  | fault => fault

namespace Handle

/-- Sends a register's address, if the framing asks for it, before a read of `length` bytes. -/
def point (handle : Handle) (register : UInt8) (length : Nat) : OnBus σ τ Unit :=
  match handle.framing with
  | .register => Action.relabel (asReadFault length) (send handle.address [register])
  | .bare => pure ()

/-- Reads `length` bytes from a register. -/
def read (handle : Handle) (register : UInt8) (length : Nat) : OnBus σ τ (List UInt8) := do
  handle.point register length
  receive handle.address length

/-- Writes a payload to a register in one go. -/
def write (handle : Handle) (register : UInt8) (data : List UInt8) : OnBus σ τ Unit :=
  send handle.address (handle.framing.frame register data)

end Handle

end SensorCape.Register
