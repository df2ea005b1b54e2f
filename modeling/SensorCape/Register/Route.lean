/-
**Routes and targets on the register bus.**

The register bus fans out twice: a local multiplexer with four channels, and behind it the
extension board. A `Route` names a local channel and, optionally, a channel of the board; it leads
to targets, which have seven-bit addresses and one of two framings.

* `Route.checked`: a route from bytes; a local channel out of range is reported before a bad
  extension channel.
* `Framing.frame`: the bytes that a write to a register sends.
-/

import SensorCape.Serial.Extension

namespace SensorCape.Register

open Serial (ExtensionCode)

/-! ### Routes -/

/-- The number of channels of the local multiplexer. -/
def localChannels : UInt8 := 4

/-- A physical route to a sensor. -/
structure Route where
  channel : UInt8
  inRange : channel < localChannels
  extension : Option ExtensionCode
  deriving DecidableEq, Repr

/-- A route from its bytes. -/
def Route.checked (channel : UInt8) (extension : Option UInt8) : Except Fault Route :=
  if inRange : channel < localChannels then
    match extension with
    | none => .ok ⟨channel, inRange, none⟩
    | some byte =>
      match ExtensionCode.checked byte with
      | .ok code => .ok ⟨channel, inRange, some code⟩
      | .error fault => .error fault
  else .error (.contractViolation .localChannelRange)

/-- The level of the multiplexer's low select line for a route. -/
def Route.lowLevel (route : Route) : Level :=
  Level.ofBool (route.channel &&& 1 != 0)

/-- The level of the multiplexer's high select line for a route. -/
def Route.highLevel (route : Route) : Level :=
  Level.ofBool (route.channel &&& 2 != 0)

/-! ### Targets -/

/-- The highest target address. -/
def maxTargetAddress : UInt8 := 0x7F

/-- The address of a target. -/
structure TargetAddress where
  value : UInt8
  inRange : value ≤ maxTargetAddress
  deriving DecidableEq, Repr

/-- A byte as a target address. -/
def TargetAddress.checked (byte : UInt8) : Except Fault TargetAddress :=
  if inRange : byte ≤ maxTargetAddress then .ok ⟨byte, inRange⟩
  else .error (.contractViolation .targetAddressRange)

/-- How reads and writes of a target are framed. -/
inductive Framing
  /-- The register's address goes before every transfer. -/
  | register
  /-- The target does its own addressing and the payload goes out bare. -/
  | bare
  deriving DecidableEq, Repr

/-- The name of a framing in log lines. -/
def Framing.name : Framing → String
  | .register => "Register"
  | .bare => "Bare"

/-- The bytes that go out before a transfer to or from a register. -/
def Framing.address (framing : Framing) (register : UInt8) : List UInt8 :=
  match framing with
  | .register => [register]
  | .bare => []

/-- The bytes that a write of a payload to a register sends. -/
def Framing.frame (framing : Framing) (register : UInt8) (data : List UInt8) : List UInt8 :=
  framing.address register ++ data

end SensorCape.Register
