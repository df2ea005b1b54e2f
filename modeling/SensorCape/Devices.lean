/-
**Devices and the calls on them.**

The buses reach the outside through calls: a line is driven, a setting is written, bytes are
exchanged, written or read, a target on the register bus is opened or addressed, the extension
board is switched. What the devices answer is not the library's to decide: `Devices` is any type
of device states with an answer to every call, so any call may fail at any point. Every call that
was made is recorded as an `Event` with what came of it.

* `Rig`: the devices together with what a bus remembers of them.
* `Event.fault?`: the fault that a failed call makes its operation report.
-/

import SensorCape.Action
import SensorCape.Pin
import SensorCape.Serial.Configuration

namespace SensorCape

open Serial (Configuration Setting)

/-! ### Lines -/

/-- The level of a line. -/
inductive Level
  | low
  | high
  deriving DecidableEq, Repr

/-- The level of a truth value. -/
def Level.ofBool (value : Bool) : Level :=
  if value then .high else .low

/-- What can be done to a line. -/
inductive Drive
  | output
  | input
  | high
  | low
  deriving DecidableEq, Repr

/-- Driving a line to a level. -/
def Drive.toLevel : Level → Drive
  | .low => .low
  | .high => .high

/-- The lines of the two buses. -/
inductive Line
  /-- Frames raw module payloads; idles high. -/
  | chipSelect
  /-- Frames secondary exchanges; idles high. -/
  | strobe
  /-- The low select line of the local multiplexer. -/
  | muxLow
  /-- The high select line of the local multiplexer. -/
  | muxHigh
  deriving DecidableEq, Repr

/-- The pin of a line. -/
def Line.pin : Line → Pin
  | .chipSelect => .chipSelect
  | .strobe => .strobe
  | .muxLow => .muxLow
  | .muxHigh => .muxHigh

/-! ### Calls -/

/-- What a device answers to a read: its count, and the bytes that it put into the buffer. -/
structure Filling where
  count : Count
  bytes : List UInt8
  deriving DecidableEq, Repr

/-- A buffer of `length` bytes, zero at first, after a device put `bytes` into it. -/
def buffered (length : Nat) (bytes : List UInt8) : List UInt8 :=
  (bytes ++ List.replicate length 0).take length

/-- A buffer keeps its length, whatever a device puts into it. -/
@[simp] theorem buffered_length (length : Nat) (bytes : List UInt8) :
    (buffered length bytes).length = length := by
  simp only [buffered, List.length_take, List.length_append, List.length_replicate]
  omega

/-- States of devices that answer every call of the buses. A call that returns no data answers with
the reason why it failed, if it did. -/
class Devices (σ : Type) where
  /-- A line is given a direction or a level. -/
  drive : Line → Drive → σ → Option Fault × σ
  /-- A setting is written to the serial device. -/
  configure : Setting → σ → Option Cause × σ
  /-- Bytes are exchanged under a configuration. -/
  exchange : List UInt8 → Configuration → σ → Except Cause (List UInt8) × σ
  /-- Bytes are written straight to the serial device. -/
  write : List UInt8 → σ → Count × σ
  /-- A number of bytes is read straight from the serial device. -/
  read : Nat → σ → Filling × σ
  /-- A target of the register bus is opened by its address. -/
  openTarget : UInt8 → σ → Option Fault × σ
  /-- Bytes are written to an open target. -/
  writeTarget : UInt8 → List UInt8 → σ → Count × σ
  /-- A number of bytes is read from an open target. -/
  readTarget : UInt8 → Nat → σ → Filling × σ
  /-- A stand-alone extension board is switched to a channel code. -/
  routeBoard : UInt8 → σ → Option Fault × σ
  /-- A stand-alone extension board is parked. -/
  parkBoard : σ → Option Fault × σ

/-- A call that was made, and how it ended. -/
inductive Event
  | drive (line : Line) (drive : Drive) (failure : Option Fault)
  | configure (setting : Setting) (failure : Option Cause)
  | exchange (sent : List UInt8) (under : Configuration) (failure : Option Cause)
  | write (data : List UInt8) (count : Count)
  | read (length : Nat) (count : Count)
  /-- The serial device was given back. -/
  | close
  | openTarget (address : UInt8) (failure : Option Fault)
  | writeTarget (address : UInt8) (data : List UInt8) (count : Count)
  | readTarget (address : UInt8) (length : Nat) (count : Count)
  | routeBoard (code : UInt8) (failure : Option Fault)
  | parkBoard (failure : Option Fault)
  deriving DecidableEq, Repr

/-- The fault that a failed call makes its operation report. A count below what was asked for is a
failure. -/
def Event.fault? : Event → Option Fault
  | .drive _ _ failure | .openTarget _ failure | .routeBoard _ failure | .parkBoard failure =>
    failure
  | .configure _ failure => failure.map (.transferFailed 0)
  | .exchange sent _ failure => failure.map (.transferFailed sent.length)
  | .write data count | .writeTarget _ data count =>
    match checkWritten data.length count with
    | .ok _ => none
    | .error fault => some fault
  | .read length count | .readTarget _ length count =>
    match checkRead length count with
    | .ok _ => none
    | .error fault => some fault
  | .close => none

/-! ### Rigs -/

/-- The devices together with what a bus remembers. -/
structure Rig (σ τ : Type) where
  devices : σ
  bus : τ

/-- An action on a bus with memory `τ` over devices `σ`. -/
abbrev OnBus (σ τ α : Type) : Type := Action Event (Rig σ τ) α

namespace Rig

variable {σ τ α : Type}

/-- Makes a call and records it. -/
def call (ask : σ → α × σ) (event : α → Event) : OnBus σ τ α := fun rig =>
  let answer := ask rig.devices
  ⟨.ok answer.1, ⟨[event answer.1], [], []⟩, { rig with devices := answer.2 }⟩

/-- What the bus remembers. -/
def memory : OnBus σ τ τ := fun rig => ⟨.ok rig.bus, .empty, rig⟩

/-- Changes what the bus remembers. -/
def remember (change : τ → τ) : OnBus σ τ Unit :=
  Action.modify fun rig => { rig with bus := change rig.bus }

/-- Fails if a call answered with a fault. -/
def expectNone : Option Fault → OnBus σ τ Unit
  | none => pure ()
  | some fault => Action.fail fault

/-- Makes a call that returns no data, and fails if the call did. -/
def command {ρ : Type} (ask : σ → ρ × σ) (event : ρ → Event) : OnBus σ τ Unit := do
  expectNone (event (← call ask event)).fault?

/-- Drives a line. -/
def drive [Devices σ] (line : Line) (how : Drive) : OnBus σ τ Unit :=
  command (Devices.drive line how) (Event.drive line how)

/-- Records that the serial device is given back. -/
def close : OnBus σ τ Unit := fun rig => ⟨.ok (), ⟨[.close], [], []⟩, rig⟩

end Rig

end SensorCape
