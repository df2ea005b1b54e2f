/-
**The register bus.**

The bus selects a route by setting the two lines of the local multiplexer and by switching the
extension board; a route without the board parks a board that an earlier route switched on. What
switches the board is a `Selector`: the serial bus, or a board of its own. Handles are opened once
for each address and stay open.

* `selectRoute`, `park`, `transaction`: routes, and work on a route.
* `openHandle`: the handle of an address; a failed opening leaves the address free.
-/

import SensorCape.Register.Handle

namespace SensorCape.Register

open Serial (ExtensionCode)

/-! ### Selectors -/

/-- What switches the extension board, with a memory of its own. -/
structure Selector (σ τ : Type) where
  /-- Routes the board to a channel. -/
  route : ExtensionCode → OnBus σ τ Unit
  /-- Parks the board. -/
  park : OnBus σ τ Unit

/-- The serial bus as the selector: the board is one of its modules. -/
def Selector.serial {σ : Type} [Devices σ] : Selector σ Serial.Bus :=
  ⟨Serial.routeExtension, Serial.parkExtension⟩

/-- A board that is switched by calls of its own. -/
def Selector.standAlone {σ τ : Type} [Devices σ] : Selector σ τ :=
  ⟨fun code => Rig.command (Devices.routeBoard code.value) (Event.routeBoard code.value),
    Rig.command Devices.parkBoard Event.parkBoard⟩

/-! ### What the bus remembers -/

/-- What the register bus remembers. -/
structure Bus where
  /-- Whether both multiplexer lines have been made outputs. -/
  muxReady : Bool
  /-- The channel of the extension board that was switched on and not parked since. -/
  routed : Option ExtensionCode
  /-- The open handles, oldest first. -/
  handles : List Handle
  deriving DecidableEq, Repr

/-- A bus that has done nothing yet. -/
def Bus.fresh : Bus := ⟨false, none, []⟩

/-- The open handle of an address. -/
def Bus.handle? (bus : Bus) (address : TargetAddress) : Option Handle :=
  bus.handles.find? (·.address = address)

/-- The bus with one more handle. -/
def Bus.withHandle (handle : Handle) (bus : Bus) : Bus :=
  { bus with handles := bus.handles ++ [handle] }

/-- The register bus beside the memory of its selector. -/
structure Shared (τ : Type) where
  register : Bus
  selector : τ
  deriving Repr

variable {σ τ α : Type} [Devices σ]

/-- Runs an action of the selector. -/
def onSelector (body : OnBus σ τ α) : OnBus σ (Shared τ) α :=
  Action.within (fun rig : Rig σ (Shared τ) => ⟨rig.devices, rig.bus.selector⟩)
    (fun inner rig => ⟨inner.devices, { rig.bus with selector := inner.bus }⟩) body

/-- Changes what the register bus remembers. -/
def rememberBus (change : Bus → Bus) : OnBus σ (Shared τ) Unit :=
  Rig.remember fun shared => { shared with register := change shared.register }

/-! ### Routes -/

/-- Makes both multiplexer lines outputs, once. -/
def readyMux : OnBus σ (Shared τ) Unit := do
  let shared ← Rig.memory
  if shared.register.muxReady then pure ()
  else
    Rig.drive .muxLow .output
    Rig.drive .muxHigh .output
    rememberBus ({ · with muxReady := true })

/-- Sets the multiplexer to the local channel of a route. -/
def setMux (route : Route) : OnBus σ (Shared τ) Unit := do
  readyMux
  Rig.drive .muxLow (.toLevel route.lowLevel)
  Rig.drive .muxHigh (.toLevel route.highLevel)

/-- Parks the extension board, if there is one. -/
def park (selector : Option (Selector σ τ)) : OnBus σ (Shared τ) Unit := do
  match selector with
  | some board => onSelector board.park
  | none => pure ()
  rememberBus ({ · with routed := none })

/-- Switches the extension board for a route. -/
def setBoard (selector : Option (Selector σ τ)) (extension : Option ExtensionCode) :
    OnBus σ (Shared τ) Unit := do
  match extension with
  | some code =>
    match selector with
    | some board =>
      onSelector (board.route code)
      rememberBus ({ · with routed := some code })
    | none => Action.fail (.contractViolation .noExtensionAttached)
  | none =>
    let shared ← Rig.memory
    if shared.register.routed.isSome then park selector else pure ()

/-- Selects a route. -/
def selectRoute (selector : Option (Selector σ τ)) (route : Route) :
    OnBus σ (Shared τ) Unit := do
  setMux route
  setBoard selector route.extension

/-- Selects a route and works on it; the work does not start unless the whole route is selected. -/
def transaction (selector : Option (Selector σ τ)) (route : Route)
    (work : OnBus σ (Shared τ) α) : OnBus σ (Shared τ) α := do
  selectRoute selector route
  work

/-! ### Handles -/

/-- Opens the target of an address for the first time. -/
def openTarget (address : TargetAddress) (framing : Framing) : OnBus σ (Shared τ) Handle := do
  Rig.command (Devices.openTarget address.value) (Event.openTarget address.value)
  Action.note .debug s!"i2c: opened target {Fault.byteText address.value} ({framing.name})"
  let shared ← Rig.memory
  let handle : Handle := ⟨address, framing, shared.register.handles.length⟩
  rememberBus (Bus.withHandle handle)
  pure handle

/-- The handle of an address, opened on the first request. A later request must ask for the framing
that the handle was opened with. -/
def openHandle (address : UInt8) (framing : Framing) : OnBus σ (Shared τ) Handle := do
  let address ← Action.ofExcept (TargetAddress.checked address)
  let shared ← Rig.memory
  let handle ← match shared.register.handle? address with
    | some handle => pure handle
    | none => openTarget address framing
  if handle.framing = framing then pure handle
  else Action.fail (.contractViolation .framingMismatch)

end SensorCape.Register
