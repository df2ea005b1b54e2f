/-
**Modules on the serial bus.**

A module is addressed by a frame sent as a secondary exchange. Payloads then move as raw writes and
reads framed by chip-select: a write after one frame, a one-byte read after two, of which the first
arms the module and the second gives the byte out.

* `writeModule`, `readModule`: the two payload operations. A byte that is no module address is
  refused before anything is called.
-/

import SensorCape.Serial.Bus

namespace SensorCape.Serial

variable {σ : Type} [Devices σ]

/-- Sends an address frame. -/
def sendFrame (frame : Frame) : OnBus σ Bus Unit := do
  let _ ← transferSecondary [frame.byte]
  pure ()

/-- Sends an address frame to the module with a given address byte. -/
def select (address : UInt8) (intent : Intent) : OnBus σ Bus Unit := do
  let frame ← Action.ofExcept (Frame.checked address intent)
  sendFrame frame

/-- Selects a module for writing and pushes a payload; returns the number of bytes written. -/
def pushPayload (address : ModuleAddress) (data : List UInt8) : OnBus σ Bus Nat :=
  withProfile .secondary do
    sendFrame ⟨address, .write⟩
    chipSelected do
      Rig.drive .chipSelect .high
      Rig.drive .chipSelect .low
      Rig.drive .chipSelect .low
      writeRaw data

/-- Arms a module, then takes one byte from it. -/
def pullByte (address : ModuleAddress) : OnBus σ Bus UInt8 :=
  withProfile .secondary do
    sendFrame ⟨address, .readReady⟩
    chipSelected (Rig.drive .chipSelect .low)
    sendFrame ⟨address, .readExecute⟩
    chipSelected do
      Rig.drive .chipSelect .low
      let bytes ← readRaw 1
      pure (bytes.headD 0)

/-- Writes a payload to the module with a given address byte. -/
def writeModule (address : UInt8) (data : List UInt8) : OnBus σ Bus Nat := do
  let address ← Action.ofExcept (ModuleAddress.checked address)
  pushPayload address data

/-- Reads one byte from the module with a given address byte. -/
def readModule (address : UInt8) : OnBus σ Bus UInt8 := do
  let address ← Action.ofExcept (ModuleAddress.checked address)
  pullByte address

end SensorCape.Serial
