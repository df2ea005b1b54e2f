/-
**The extension board.**

The extension board is itself a module: its selector takes a one-byte code like any payload. The
low and high halves of a code, of two bits each, drive the board's two multiplexers, and a half of
zero parks that multiplexer. Only codes that switch both on are channels; `0000` parks the board.

* `ExtensionCode`: a channel code, by construction neither out of range nor a park code.
* `routeExtension`, `parkExtension`: switching the board over the serial bus.
-/

import SensorCape.Serial.Module

namespace SensorCape.Serial

/-! ### Channel codes -/

/-- The number of codes that the selector tells apart. -/
def extensionCodes : UInt8 := 16

/-- The code that parks the board. -/
def parkedCode : UInt8 := 0

/-- Whether a code switches both multiplexers of the board on. -/
def joinsBothSides (code : UInt8) : Bool :=
  code &&& 0b0011 != 0 && code &&& 0b1100 != 0

/-- A channel of the extension board. -/
structure ExtensionCode where
  value : UInt8
  inRange : value < extensionCodes
  live : joinsBothSides value = true
  deriving DecidableEq, Repr

/-- A byte as a channel of the extension board. -/
def ExtensionCode.checked (byte : UInt8) : Except Fault ExtensionCode :=
  if inRange : byte < extensionCodes then
    if live : joinsBothSides byte = true then .ok ⟨byte, inRange, live⟩
    else .error (.contractViolation .extensionChannelParked)
  else .error (.contractViolation .extensionChannelRange)

/-- A byte that passes the check is the one of the channel. -/
theorem ExtensionCode.checked_eq_ok (byte : UInt8) (code : ExtensionCode) :
    ExtensionCode.checked byte = .ok code ↔ byte = code.value := by
  constructor
  · intro valid
    unfold checked at valid
    split at valid
    · split at valid
      · cases valid
        rfl
      · cases valid
    · cases valid
  · rintro rfl
    rw [checked, dif_pos code.inRange, dif_pos code.live]

/-! ### Switching the board -/

variable {σ : Type} [Devices σ]

/-- The bus with an address for the selector. -/
def Bus.withExtension (address : ModuleAddress) (bus : Bus) : Bus :=
  { bus with extension := some address }

/-- Assigns the selector its module address. -/
def assignExtension (address : UInt8) : OnBus σ Bus Unit := do
  let checked ← Action.ofExcept (ModuleAddress.checked address)
  Action.note .debug s!"addressing: extension selector at module {address}"
  Rig.remember (Bus.withExtension checked)

/-- The selector's code as it appears in the log. -/
def codeText (code : UInt8) : String :=
  "0b" ++ Text.padded 2 4 code.toNat

/-- Writes a code to the selector, which must take exactly that one byte. -/
def writeCode (selector : ModuleAddress) (code : UInt8) : OnBus σ Bus Unit := do
  let written ← pushPayload selector [code]
  if written = 1 then Action.note .debug s!"addressing: extension code {codeText code}"
  else Action.fail (.writeFailed 1 .writeZero)

/-- Routes the board to a channel. -/
def routeExtension (code : ExtensionCode) : OnBus σ Bus Unit := do
  let bus ← Rig.memory
  match bus.extension with
  | some selector => writeCode selector code.value
  | none => Action.fail (.contractViolation .noExtensionConfigured)

/-- Routes the board to the channel of a given code byte. -/
def selectExtension (channel : UInt8) : OnBus σ Bus Unit := do
  let code ← Action.ofExcept (ExtensionCode.checked channel)
  routeExtension code

/-- Parks the board; without one there is nothing to do. -/
def parkExtension : OnBus σ Bus Unit := do
  let bus ← Rig.memory
  match bus.extension with
  | some selector => writeCode selector parkedCode
  | none => pure ()

end SensorCape.Serial
