/-
**Banks.**

A bank's window is mapped when it is first needed and stays mapped; everything on the bank shares
it. A mapping that fails leaves the bank as it was, so the next request tries again.

* `mapWindow`: a mapping of its own. `window`: the shared one.
* `resolve`: the line of a pin. Pins beyond the banks are refused before anything is touched.
-/

import SensorCape.Gpio.Line

namespace SensorCape.Gpio

/-! ### Windows -/

/-- A mapped window. -/
structure Window where
  bank : Nat
  inRange : bank < bankCount
  /-- How many windows had been mapped before, which tells two windows apart. -/
  number : Nat
  deriving DecidableEq, Repr

/-- A window of a given bank. -/
abbrev WindowOf (bank : Nat) : Type := { window : Window // window.bank = bank }

/-- What is remembered of the banks. -/
structure Banks where
  /-- The memory device. -/
  path : String
  /-- The windows that are shared, oldest first. -/
  windows : List Window
  /-- How many windows were mapped, shared or not. -/
  mapped : Nat
  deriving DecidableEq, Repr

/-- The device of the physical memory. -/
def memoryPath : String := "/dev/mem"

/-- Banks of which no window is mapped. -/
def Banks.unmapped (path : String) : Banks := ⟨path, [], 0⟩

/-- The shared window of a bank. -/
def Banks.window? (banks : Banks) (bank : Nat) : Option (WindowOf bank) :=
  match found : banks.windows.find? (·.bank = bank) with
  | some window => some ⟨window, by simpa using List.find?_some found⟩
  | none => none

/-- A memory device together with what is remembered of its banks. -/
structure Controller (σ : Type) where
  memory : σ
  banks : Banks

/-- What was asked of a memory device. -/
inductive MemoryEvent
  | acquire (failure : Option Cause)
  | map (bank : Nat) (failure : Option Cause)
  deriving DecidableEq, Repr

/-- An action on the banks. -/
abbrev OnBanks (σ α : Type) : Type := Action MemoryEvent (Controller σ) α

variable {σ : Type} [MemoryDevice σ]

/-- Makes a call on the memory device. -/
def ask (call : σ → Option Cause × σ) (event : Option Cause → MemoryEvent)
    (fault : Cause → Fault) : OnBanks σ Unit := fun controller =>
  let answer := call controller.memory
  let result := match answer.1 with
    | none => .ok ()
    | some cause => .error (fault cause)
  ⟨result, ⟨[event answer.1], [], []⟩, { controller with memory := answer.2 }⟩

/-- Changes what is remembered of the banks. -/
def remember (change : Banks → Banks) : OnBanks σ Unit :=
  Action.modify fun controller => { controller with banks := change controller.banks }

/-- An address as it appears in the log. -/
def addressText (address : Nat) : String :=
  "0x" ++ Text.padded 16 8 address

/-- Maps the window of a bank. -/
def mapWindow (bank : Nat) : OnBanks σ (WindowOf bank) := do
  if inRange : bank < bankCount then
    let controller ← Action.get
    ask MemoryDevice.acquire .acquire (.openFailed controller.banks.path)
    ask (MemoryDevice.map bank) (.map bank) (.mapFailed bank)
    Action.note .info s!"gpio: mapped bank {bank} at {addressText (bankBases.getD bank 0)}"
    remember fun banks => { banks with mapped := banks.mapped + 1 }
    pure ⟨⟨bank, inRange, controller.banks.mapped⟩, rfl⟩
  else Action.fail (.contractViolation .bankRange)

/-- The shared window of a bank, mapped if it is not. -/
def window (bank : Nat) : OnBanks σ (WindowOf bank) := do
  let controller ← Action.get
  match controller.banks.window? bank with
  | some found => pure found
  | none =>
    let mapped ← mapWindow bank
    remember fun banks => { banks with windows := banks.windows ++ [mapped.1] }
    pure mapped

/-! ### Lines -/

/-- The line of a pin on a mapped window. -/
structure Line where
  pin : Pin
  window : Window
  onWindow : window.bank = pin.bank
  deriving DecidableEq, Repr

/-- The line of a pin. -/
def resolve (pin : Pin) : OnBanks σ Line := do
  if pin.bank < bankCount then
    let found ← window pin.bank
    Action.note .debug s!"gpio: resolved pin {pin.number} to bank {pin.bank} bit {pin.bit}"
    pure ⟨pin, found.1, found.2⟩
  else Action.fail (.invalidPin pin.number)

/-- Gives a line a direction or a level. -/
def Line.drive (line : Line) (how : Drive) : OnBanks σ Unit :=
  Action.modify fun controller => { controller with memory := line.pin.apply how controller.memory }

/-- The level on a line. -/
def Line.level (line : Line) : OnBanks σ Level := fun controller =>
  ⟨.ok (line.pin.level controller.memory), .empty, controller⟩

/-- The word at a place in a bank's shared window. -/
def loadWord (bank offset : Nat) : OnBanks σ UInt32 := do
  let found ← window bank
  let controller ← Action.get
  pure (MemoryDevice.load found.1.bank (offset / wordLength) controller.memory)

/-- Stores a word at a place in a bank's shared window. -/
def storeWord (bank offset : Nat) (value : UInt32) : OnBanks σ Unit := do
  let found ← window bank
  Action.modify fun controller =>
    { controller with
      memory := MemoryDevice.store found.1.bank (offset / wordLength) value controller.memory }

/-- The five registers of a bank. -/
def registerWords (bank : Nat) (memory : σ) : List UInt32 :=
  registers.map fun register => MemoryDevice.load bank register.word memory

end SensorCape.Gpio
