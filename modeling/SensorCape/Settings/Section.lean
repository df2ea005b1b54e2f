/-
**Settings.**

What the settings file says about the board: one section for each bus, one for the leak detector and
the outlets each, and a list of entries for the climate sensors and the register sensors. Every
section may be missing, which leaves out what it is about.

* `Climate.pin`, `Climate.kind`, `Probe.route`: what an entry names, if there is such a thing.
* `Complaint.message`: what is wrong with settings that are well-formed.
-/

import SensorCape.Dht.Reading
import SensorCape.Outlets
import SensorCape.Pin.Header
import SensorCape.Register.Route

namespace SensorCape.Settings

/-! ### Complaints -/

/-- Where a module address is written. -/
inductive AddressItem
  | leak
  | outlets
  | extension
  deriving DecidableEq, Repr

/-- The words for the place of a module address. -/
def AddressItem.text : AddressItem → String
  | .leak => "[leak] address"
  | .outlets => "[outlets] address"
  | .extension => "extension_address"

/-- What is wrong with settings. -/
inductive Complaint
  | needsSerial
  | moduleAddress (item : AddressItem) (address : UInt8)
  | leakInterval
  | unknownPin (sensor pin : String)
  | unknownKind (sensor kind : String)
  | climateInterval (sensor : String)
  | needsRegisterBus
  | badRoute (sensor : String) (fault : Fault)
  | probeInterval (sensor : String)
  | needsExtension (sensor : String)
  | tooManyOutlets
  deriving DecidableEq, Repr

/-- A complaint in words. -/
def Complaint.message : Complaint → String
  | .needsSerial => "[leak], [outlets] and extension_address need a [serial] section"
  | .moduleAddress item address =>
    s!"{item.text} {address} is not a module address (0..={Serial.maxModuleAddress})"
  | .leakInterval => "[leak] interval_secs must be at least 1"
  | .unknownPin sensor pin => s!"dht {sensor}: unknown pin {pin}"
  | .unknownKind sensor kind => s!"dht {sensor}: unknown sensor kind {kind}"
  | .climateInterval sensor => s!"dht {sensor}: interval_secs must be at least 1"
  | .needsRegisterBus => "[[register_sensor]] entries need a [register_bus] section"
  | .badRoute sensor fault => s!"register sensor {sensor}: invalid channel: {fault.message}"
  | .probeInterval sensor => s!"register sensor {sensor}: interval_secs must be at least 1"
  | .needsExtension sensor => s!"register sensor {sensor}: no extension_address configured"
  | .tooManyOutlets => s!"at most {maxOutlets} outlets fit the command byte"

/-! ### Sections -/

/-- The serial bus. -/
structure SerialSection where
  device : String
  /-- A clock mode number. -/
  mode : UInt8
  wordSize : UInt8
  speed : UInt32
  deriving DecidableEq, Repr

/-- The primary configuration that the section asks for. -/
def SerialSection.configuration (bus : SerialSection) : Serial.Configuration :=
  ⟨Serial.Mode.ofClock bus.mode, bus.wordSize, bus.speed⟩

/-- The register bus. -/
structure RegisterSection where
  device : String
  /-- The module address of the extension board's selector. -/
  extension : Option UInt8
  deriving DecidableEq, Repr

/-- A climate sensor. -/
structure Climate where
  name : String
  pinName : String
  kindName : String
  /-- Seconds between two cycles. -/
  interval : UInt64
  deriving DecidableEq, Repr

/-- The pin that a climate sensor is on. -/
def Climate.pin (sensor : Climate) : Except Complaint Pin :=
  match Pin.named? sensor.pinName with
  | some pin => .ok pin
  | none => .error (.unknownPin sensor.name sensor.pinName)

/-- The kind of a climate sensor. -/
def Climate.kind (sensor : Climate) : Except Complaint Dht.Kind :=
  match Dht.Kind.named? sensor.kindName with
  | some kind => .ok kind
  | none => .error (.unknownKind sensor.name sensor.kindName)

/-- The leak detector. -/
structure LeakSection where
  address : UInt8
  /-- Seconds between two cycles. -/
  interval : UInt64
  deriving DecidableEq, Repr

/-- A sensor on the register bus. -/
structure Probe where
  name : String
  channel : UInt8
  extension : Option UInt8
  /-- The target address. -/
  address : UInt8
  framing : Register.Framing
  /-- The register that each cycle reads. -/
  register : UInt8
  /-- How many bytes each cycle reads. -/
  length : Nat
  /-- Seconds between two cycles. -/
  interval : UInt64
  deriving DecidableEq, Repr

/-- The route to a register sensor. -/
def Probe.route (sensor : Probe) : Except Complaint Register.Route :=
  (Register.Route.checked sensor.channel sensor.extension).mapError (.badRoute sensor.name)

end Settings

/-- The settings of the board. -/
structure Settings where
  serial : Option Settings.SerialSection
  registerBus : Option Settings.RegisterSection
  climate : List Settings.Climate
  leak : Option Settings.LeakSection
  outlets : Option Outlets
  probes : List Settings.Probe
  deriving DecidableEq, Repr

/-- The settings of an empty file. -/
def Settings.empty : Settings := ⟨none, none, [], none, none, []⟩

end SensorCape
