/-
**The serial bus.**

One serial device serves two kinds of traffic: plain exchanges under the primary profile, and
exchanges under the secondary profile framed by the strobe line. The bus remembers which
configuration it last wrote, writes only what differs, and returns to the profile that was active
before, whether the work under the other profile succeeded or not.

* `bringUp`: writes the primary configuration and leaves both framing lines high.
* `withProfile`: work under a profile. The way back is always tried; a fault of the work is reported
  before a fault of the way back.
* `transfer`, `transferSecondary`: the two kinds of exchange.
-/

import SensorCape.Devices
import SensorCape.Serial.Frame

namespace SensorCape.Serial

/-- What the serial bus remembers. The secondary configuration follows from the primary one. The
selector of the extension board is a module; it has an address once one was assigned. -/
structure Bus where
  primary : Configuration
  /-- The configuration last written, field by field. -/
  applied : Configuration
  active : Profile
  extension : Option ModuleAddress
  deriving DecidableEq, Repr

namespace Bus

/-- A bus that was just brought up. -/
def fresh (primary : Configuration) : Bus := ⟨primary, primary, .primary, none⟩

/-- The configuration of a profile. -/
def configuration (bus : Bus) : Profile → Configuration
  | .primary => bus.primary
  | .secondary => bus.primary.secondary

/-- The bus after a setting was written. -/
def wrote (setting : Setting) (bus : Bus) : Bus :=
  { bus with applied := bus.applied.apply setting }

/-- The bus with another active profile. -/
def entered (profile : Profile) (bus : Bus) : Bus :=
  { bus with active := profile }

end Bus

variable {σ τ α : Type} [Devices σ]

/-! ### Settings -/

/-- Writes a setting to the device. -/
def writeSetting (setting : Setting) : OnBus σ τ Unit :=
  Rig.command (Devices.configure setting) (Event.configure setting)

/-- Writes a setting unless it is applied already, and remembers it once it is written. -/
def settle (setting : Setting) : OnBus σ Bus Unit := do
  let bus ← Rig.memory
  if bus.applied.holds setting then pure ()
  else
    writeSetting setting
    Rig.remember (Bus.wrote setting)

/-- Writes those of some settings that are not applied, up to the first that fails. -/
def settleAll : List Setting → OnBus σ Bus Unit
  | [] => pure ()
  | setting :: rest => do
    settle setting
    settleAll rest

/-- Makes a profile the active one. -/
def enter (profile : Profile) : OnBus σ Bus Unit := do
  let bus ← Rig.memory
  if bus.active = profile then pure ()
  else
    Action.note .debug s!"spi: profile {bus.active.name} -> {profile.name}"
    Rig.remember (Bus.entered profile)

/-- Applies a profile, which becomes active only if every setting could be written. -/
def switchTo (profile : Profile) : OnBus σ Bus Unit := do
  let bus ← Rig.memory
  settleAll (bus.configuration profile).settings
  enter profile

/-! ### Bringing up and closing down -/

/-- Gives the device back. -/
def release : OnBus σ τ Unit := Rig.close

/-- Writes the primary configuration and leaves chip-select and strobe as outputs that idle high.
If anything fails the device is given back. -/
def bringUp (primary : Configuration) : OnBus σ τ Bus :=
  Action.onFault
    (do
      primary.settings.forM writeSetting
      Rig.drive .chipSelect .output
      Rig.drive .chipSelect .high
      Rig.drive .strobe .output
      Rig.drive .strobe .high
      Action.note .debug
        (s!"spi: opened with mode {primary.mode.clock} / {primary.wordSize} bits / " ++
          s!"{primary.speed} Hz")
      pure (Bus.fresh primary))
    release

/-- Gives the device and its lines back. -/
def closeDown : OnBus σ τ Unit := do
  Action.note .debug "spi: closing bus"
  release

/-! ### Working under a profile -/

/-- Runs a body with a profile applied, and applies the profile that was active before afterwards,
whether the body succeeded or not. -/
def withProfile (profile : Profile) (body : OnBus σ Bus α) : OnBus σ Bus α := do
  let prior ← Rig.memory
  Action.ensuring
    (do
      switchTo profile
      body)
    (switchTo prior.active)

/-- Exchanges bytes for as many bytes, under the configuration of a profile. -/
def exchange (sent : List UInt8) (profile : Profile) : OnBus σ Bus (List UInt8) := do
  let bus ← Rig.memory
  let under := bus.configuration profile
  match ← exchangeCall sent under with
  | .ok received => pure (buffered sent.length received)
  | .error cause => Action.fail (.transferFailed sent.length cause)
where
  /-- The call itself. -/
  exchangeCall (sent : List UInt8) (under : Configuration) :
      OnBus σ Bus (Except Cause (List UInt8)) :=
    Rig.call (Devices.exchange sent under) fun answer =>
      .exchange sent under (match answer with | .ok _ => none | .error cause => some cause)

/-- A full-duplex exchange under the primary profile. -/
def transfer (sent : List UInt8) : OnBus σ Bus (List UInt8) :=
  withProfile .primary (exchange sent .primary)

/-- An exchange under the secondary profile with the strobe held low for its duration. -/
def transferSecondary (sent : List UInt8) : OnBus σ Bus (List UInt8) :=
  withProfile .secondary do
    Rig.drive .strobe .low
    Action.ensuring (exchange sent .secondary) (Rig.drive .strobe .high)

/-! ### Raw traffic -/

/-- Writes bytes straight to the device. -/
def writeRaw (data : List UInt8) : OnBus σ Bus Nat := do
  let count ← Rig.call (Devices.write data) (Event.write data)
  Action.ofExcept (checkWritten data.length count)

/-- Reads a number of bytes straight from the device. -/
def readRaw (length : Nat) : OnBus σ Bus (List UInt8) := do
  let filling ← Rig.call (Devices.read length) fun filling => Event.read length filling.count
  let _ ← Action.ofExcept (checkRead length filling.count)
  pure (buffered length filling.bytes)

/-- Runs a body and leaves chip-select idle high afterwards, on failure too. -/
def chipSelected (body : OnBus σ Bus α) : OnBus σ Bus α :=
  Action.ensuring body (Rig.drive .chipSelect .high)

end SensorCape.Serial
