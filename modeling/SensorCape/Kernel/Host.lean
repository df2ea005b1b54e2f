/-
**Opening the buses.**

Where the buses are opened by path: the lines are those of the controller's banks, resolved before a
bus touches them, and the devices are nodes of the kernel.

* `openSerial`: node, lines, settings, in this order. A setting that is refused counts as a failure
  to open the node.
* `openRegister`: only the lines; its targets are opened one by one, each by opening the node.
-/

import SensorCape.Gpio.Banks
import SensorCape.Kernel.Node
import SensorCape.Register.Bus

namespace SensorCape.Kernel

open Gpio (Banks Controller MemoryDevice MemoryEvent)
open Serial (Configuration)

/-- The controller's memory and the nodes of the two buses. -/
structure Host (σ : Type) where
  controller : Controller σ
  serial : Place
  register : Place

variable {σ τ α : Type} [MemoryDevice σ]

/-- Drives a line that was resolved before. -/
def Host.drive (line : Line) (how : Drive) (host : Host σ) : Option Fault × Host σ :=
  let memory := line.pin.apply how host.controller.memory
  (none, { host with controller := { host.controller with memory } })

instance : Devices (Host σ) where
  drive := Host.drive
  configure _ host := (some unknownRequest, host)
  exchange sent _ host := (.error (Node.exchange sent sent.length), host)
  write data host := (host.serial.node.write data, host)
  read length host := (host.serial.node.read length, host)
  openTarget _ host :=
    (some (.openFailed host.register.path (host.register.acquire.getD unknownRequest)), host)
  writeTarget _ data host := (host.register.node.write data, host)
  readTarget _ length host := (host.register.node.read length, host)
  routeBoard _ host := (none, host)
  parkBoard host := (none, host)

/-- Runs an action on the banks; what was asked of the memory device is not a call of a bus. -/
def onBanks (body : Gpio.OnBanks σ α) : OnBus (Host σ) τ α := fun rig =>
  let outcome := body rig.devices.controller
  ⟨outcome.result, ⟨[], outcome.journal.log, outcome.journal.samples⟩,
    { rig with devices := { rig.devices with controller := outcome.state } }⟩

/-- A refused setting counts as a failure to open the node. -/
def asOpenFault (path : String) : Fault → Fault
  | .transferFailed _ cause => .openFailed path cause
  | fault => fault

/-- Opens the serial bus. -/
def openSerial (configuration : Configuration) : OnBus (Host σ) τ Serial.Bus := do
  let rig ← Action.get
  Rig.expectNone rig.devices.serial.failure
  let _ ← onBanks (Gpio.resolve .chipSelect)
  let _ ← onBanks (Gpio.resolve .strobe)
  Action.relabel (asOpenFault rig.devices.serial.path) (Serial.bringUp configuration)

/-- Opens the register bus. -/
def openRegister : OnBus (Host σ) τ Register.Bus := do
  let _ ← onBanks (Gpio.resolve .muxLow)
  let _ ← onBanks (Gpio.resolve .muxHigh)
  pure .fresh

end SensorCape.Kernel
