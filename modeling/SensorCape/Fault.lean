/-
**Causes and faults.**

A `Cause` is why a device call did not do what was asked: an error number of the kernel, or a
shortfall that the caller noticed. A `Fault` is what an operation of the board reports: which
operation failed, on what, and for which cause. `Breach` names the contract that a caller broke.

* `Fault.isFatal`: the three faults after which the hardware is unusable for the process.
* `checkWritten`, `checkRead`: a device that moved fewer bytes than asked has failed; one that
  claims more has not.
-/

import SensorCape.Text.Radix

namespace SensorCape

/-! ### Causes -/

/-- The kernel's error numbers that the board's devices answer with. -/
inductive Errno
  | notPermitted | noEntry | inputOutput | noDeviceOrAddress | tryAgain | busy | noDevice
  | notDirectory | isDirectory | invalidArgument | notTypewriter | nameTooLong | timedOut
  | remoteInputOutput
  deriving DecidableEq, Repr

/-- The number itself. -/
def Errno.code : Errno → Nat
  | .notPermitted => 1
  | .noEntry => 2
  | .inputOutput => 5
  | .noDeviceOrAddress => 6
  | .tryAgain => 11
  | .busy => 16
  | .noDevice => 19
  | .notDirectory => 20
  | .isDirectory => 21
  | .invalidArgument => 22
  | .notTypewriter => 25
  | .nameTooLong => 36
  | .timedOut => 110
  | .remoteInputOutput => 121

/-- The system's description of an error number. -/
def Errno.description : Errno → String
  | .notPermitted => "Operation not permitted"
  | .noEntry => "No such file or directory"
  | .inputOutput => "Input/output error"
  | .noDeviceOrAddress => "No such device or address"
  | .tryAgain => "Resource temporarily unavailable"
  | .busy => "Device or resource busy"
  | .noDevice => "No such device"
  | .notDirectory => "Not a directory"
  | .isDirectory => "Is a directory"
  | .invalidArgument => "Invalid argument"
  | .notTypewriter => "Inappropriate ioctl for device"
  | .nameTooLong => "File name too long"
  | .timedOut => "Connection timed out"
  | .remoteInputOutput => "Remote I/O error"

/-- Why a device call did not do what was asked. -/
inductive Cause
  /-- The kernel refused the call. -/
  | system (number : Errno)
  | writeZero
  | unexpectedEnd
  | permissionDenied
  | timedOut
  | invalidData
  /-- The device took only the first `moved` of the `expected` bytes. -/
  | shortWrite (moved expected : Nat)
  /-- The device returned only `moved` of the `expected` bytes. -/
  | shortRead (moved expected : Nat)
  /-- An exchange was asked for with buffers of two lengths. -/
  | lengthMismatch
  /-- A path holds the character that ends a path. -/
  | nulInPath
  /-- A file that should hold text does not. -/
  | notText
  | other (description : String)
  deriving DecidableEq, Repr

/-- The text of a cause, as it ends the text of a fault. -/
def Cause.message : Cause → String
  | .system number => s!"{number.description} (os error {number.code})"
  | .writeZero => "write zero"
  | .unexpectedEnd => "unexpected end of file"
  | .permissionDenied => "permission denied"
  | .timedOut => "timed out"
  | .invalidData => "invalid data"
  | .shortWrite moved expected => s!"{moved} of {expected} bytes accepted"
  | .shortRead moved expected => s!"{moved} of {expected} bytes returned"
  | .lengthMismatch => "tx and rx buffers differ in length"
  | .nulInPath => "file name contained an unexpected NUL byte"
  | .notText => "stream did not contain valid UTF-8"
  | .other description => description

/-! ### Faults -/

/-- A contract between the board and its callers that a call broke. -/
inductive Breach
  | moduleAddressRange
  | extensionChannelRange
  | extensionChannelParked
  | noExtensionConfigured
  | noExtensionAttached
  | localChannelRange
  | targetAddressRange
  | framingMismatch
  | bankRange
  | other (description : String)
  deriving DecidableEq, Repr

/-- The contract in words. -/
def Breach.message : Breach → String
  | .moduleAddressRange => "module address out of range"
  | .extensionChannelRange => "extension channel out of range"
  | .extensionChannelParked => "extension channel is a park code"
  | .noExtensionConfigured => "no extension board configured"
  | .noExtensionAttached => "no extension board attached"
  | .localChannelRange => "local channel out of range"
  | .targetAddressRange => "target address out of range"
  | .framingMismatch => "channel handle already open with another framing"
  | .bankRange => "GPIO bank out of range"
  | .other description => description

/-- What an operation of the board reports when it fails. -/
inductive Fault
  /-- The pin lies on none of the four banks. -/
  | invalidPin (pin : UInt8)
  /-- A device node could not be opened or configured. -/
  | openFailed (path : String) (cause : Cause)
  /-- The registers of a bank could not be mapped. -/
  | mapFailed (bank : Nat) (cause : Cause)
  /-- A full-duplex exchange, or a configuration write (of length zero), was refused. -/
  | transferFailed (length : Nat) (cause : Cause)
  | writeFailed (expected : Nat) (cause : Cause)
  | readFailed (expected : Nat) (cause : Cause)
  /-- A bounded polling loop ran out of iterations. -/
  | timeout
  | checksumFailed (expected actual : UInt8)
  | contractViolation (breach : Breach)
  deriving DecidableEq, Repr

namespace Fault

/-- A byte as it appears in fault texts: `0x` and two digits. -/
def byteText (byte : UInt8) : String :=
  "0x" ++ Text.padded 16 2 byte.toNat

/-- The text of a fault. -/
def message : Fault → String
  | .invalidPin pin => s!"invalid pin {pin}"
  | .openFailed path cause => s!"failed to open {path}: {cause.message}"
  | .mapFailed bank cause => s!"failed to map GPIO bank {bank}: {cause.message}"
  | .transferFailed length cause => s!"serial transfer of {length} bytes failed: {cause.message}"
  | .writeFailed expected cause => s!"write of {expected} bytes failed: {cause.message}"
  | .readFailed expected cause => s!"read of {expected} bytes failed: {cause.message}"
  | .timeout => "operation timeout"
  | .checksumFailed expected actual =>
    s!"checksum mismatch: expected {byteText expected}, got {byteText actual}"
  | .contractViolation breach => s!"contract violation: {breach.message}"

/-- The cause that a fault carries, if it stems from a device call. -/
def cause? : Fault → Option Cause
  | .openFailed _ cause | .mapFailed _ cause | .transferFailed _ cause
  | .writeFailed _ cause | .readFailed _ cause => some cause
  | _ => none

/-- Whether the fault leaves the addressed hardware unusable for the rest of the process. -/
def isFatal : Fault → Bool
  | .invalidPin _ | .openFailed _ _ | .mapFailed _ _ => true
  | _ => false

end Fault

/-! ### Byte counts -/

/-- What a device answers to a raw write or read: how many bytes it moved, or why it moved none. -/
inductive Count
  | moved (bytes : Nat)
  | refused (cause : Cause)
  deriving DecidableEq, Repr

/-- The count of a write of `expected` bytes, which fails unless the device took them all. -/
def checkWritten (expected : Nat) : Count → Except Fault Nat
  | .moved bytes =>
    if expected ≤ bytes then .ok bytes
    else .error (.writeFailed expected (.shortWrite bytes expected))
  | .refused cause => .error (.writeFailed expected cause)

/-- The count of a read of `expected` bytes, which fails unless the device supplied them all. -/
def checkRead (expected : Nat) : Count → Except Fault Nat
  | .moved bytes =>
    if expected ≤ bytes then .ok bytes
    else .error (.readFailed expected (.shortRead bytes expected))
  | .refused cause => .error (.readFailed expected cause)

end SensorCape
