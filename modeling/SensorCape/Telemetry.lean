/-
**Telemetry and log records.**

What the daemon shows of its work: samples (a sensor, a field of it, a value) and log records (a
severity and a text). A value is a single-precision number, a flag, or bytes that nobody decoded.

* `Value.text`: one decimal, `0` or `1`, or two hexadecimal digits a byte.
* `Sample.record`: the log record in which a sample is published.
-/

import SensorCape.Text.Radix
import SensorCape.Binary.Text

namespace SensorCape

/-! ### Log records -/

/-- How urgent a log record is. -/
inductive Severity
  | error | warn | info | debug | trace
  deriving DecidableEq, Repr

/-- The name of a severity in a log line. -/
def Severity.name : Severity → String
  | .error => "ERROR"
  | .warn => "WARN"
  | .info => "INFO"
  | .debug => "DEBUG"
  | .trace => "TRACE"

/-- One log record. -/
structure Record where
  severity : Severity
  text : String
  deriving DecidableEq, Repr

/-- The line of a log record. -/
def Record.line (record : Record) : String :=
  s!"{record.severity.name} {record.text}"

/-! ### Values -/

/-- A single-precision number, held as its word. -/
structure Single where
  word : UInt32
  deriving DecidableEq, Repr

namespace Single

/-- The single-precision number nearest to a quotient. -/
def ofRatio (dividend divisor : Nat) : Single :=
  ⟨(Binary.single.nearest dividend divisor).toUInt32⟩

/-- The number with the other sign. -/
def negated (number : Single) : Single :=
  ⟨number.word ^^^ 0x80000000⟩

/-- The quantity that the word stands for. -/
def quantity (number : Single) : Binary.Quantity :=
  Binary.single.decode number.word.toNat

end Single

/-- A published value. -/
inductive Value
  | number (amount : Single)
  | flag (on : Bool)
  /-- Undecoded register bytes. -/
  | raw (bytes : List UInt8)
  deriving DecidableEq, Repr

/-- The text of a value. -/
def Value.text : Value → String
  | .number amount => amount.quantity.oneDecimal
  | .flag on => if on then "1" else "0"
  | .raw bytes => Text.hexBytes bytes

/-- A value with the sensor and the field it belongs to. -/
structure Sample where
  sensor : String
  field : String
  value : Value
  deriving DecidableEq, Repr

/-- The log record in which a sample is published. -/
def Sample.record (sample : Sample) : Record :=
  ⟨.info, s!"{sample.sensor} {sample.field}={sample.value.text}"⟩

end SensorCape
