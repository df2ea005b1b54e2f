/-
**Checking settings.**

Sections depend on each other: modules need the serial bus, register sensors the register bus, and
routes over the extension board an address for its selector. Names must name something, module
addresses must be module addresses, and no cycle may repeat without a pause.

* `Settings.check`: the first complaint in a fixed order, if there is one.
-/

import SensorCape.Settings.Section

namespace SensorCape.Settings

/-- Complains if a condition holds. -/
def complainIf (condition : Bool) (complaint : Complaint) : Except Complaint Unit :=
  if condition then .error complaint else .ok ()

/-- The module address of the extension board's selector. -/
def extension (settings : Settings) : Option UInt8 :=
  settings.registerBus.bind RegisterSection.extension

/-- Whether something in the settings hangs on the serial bus. -/
def needsSerial (settings : Settings) : Bool :=
  settings.leak.isSome || settings.outlets.isSome || settings.extension.isSome

/-- Checks a module address. -/
def checkModule (item : AddressItem) (address : Option UInt8) : Except Complaint Unit :=
  match address with
  | some address =>
    complainIf (Serial.maxModuleAddress < address) (.moduleAddress item address)
  | none => .ok ()

/-- Checks the module addresses. -/
def checkModules (settings : Settings) : Except Complaint Unit := do
  checkModule .leak (settings.leak.map LeakSection.address)
  checkModule .outlets (settings.outlets.map Outlets.address)
  checkModule .extension settings.extension

/-- Checks a climate sensor. -/
def Climate.check (sensor : Climate) : Except Complaint Unit := do
  let _ ← sensor.pin
  let _ ← sensor.kind
  complainIf (sensor.interval == 0) (.climateInterval sensor.name)

/-- Checks a register sensor. -/
def Probe.check (extended : Bool) (sensor : Probe) : Except Complaint Unit := do
  let _ ← sensor.route
  complainIf (sensor.interval == 0) (.probeInterval sensor.name)
  complainIf (sensor.extension.isSome && !extended) (.needsExtension sensor.name)

/-- Checks settings. -/
def check (settings : Settings) : Except Complaint Unit := do
  complainIf (settings.needsSerial && settings.serial.isNone) .needsSerial
  settings.checkModules
  complainIf (settings.leak.any (·.interval == 0)) .leakInterval
  settings.climate.forM Climate.check
  complainIf (!settings.probes.isEmpty && settings.registerBus.isNone) .needsRegisterBus
  settings.probes.forM (Probe.check settings.extension.isSome)
  complainIf (settings.outlets.any (maxOutlets < ·.states.length)) .tooManyOutlets

end SensorCape.Settings
