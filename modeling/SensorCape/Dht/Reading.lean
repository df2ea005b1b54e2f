/-
**Payloads and readings of the climate sensors.**

A sensor answers with five bytes: two for the humidity, two for the temperature, and the sum of the
four. The three kinds of sensor share the layout; the oldest counts whole units in the first byte of
each pair, the others count tenths over both bytes, with the sign of the temperature in its top bit.

* `Payload.validate`: the check of the sum, which wraps at a byte.
* `Kind.interpret`: the reading of a payload, in single precision.
-/

import SensorCape.Fault
import SensorCape.Telemetry
import SensorCape.Text.Blank

namespace SensorCape.Dht

/-! ### Kinds -/

/-- The kinds of sensor. -/
inductive Kind
  /-- Whole units. -/
  | dht11
  /-- Tenths of a unit and a sign. -/
  | dht22
  /-- The same wire format as `dht22`. -/
  | am2302
  deriving DecidableEq, Repr

/-- The name of a kind. -/
def Kind.name : Kind → String
  | .dht11 => "DHT11"
  | .dht22 => "DHT22"
  | .am2302 => "AM2302"

/-- The written names of the kinds, in small letters. -/
def kindNames : List (String × Kind) :=
  [("dht11", .dht11), ("11", .dht11), ("dht22", .dht22), ("22", .dht22), ("am2302", .am2302)]

/-- The kind that a written name stands for; blanks around it and the case of ASCII letters do not
count. -/
def Kind.named? (written : String) : Option Kind :=
  kindNames.lookup (String.ofList ((Text.trimmed written.toList).map Char.toLower))

/-! ### Payloads -/

/-- The five bytes of an answer. -/
structure Payload where
  humidityHigh : UInt8
  humidityLow : UInt8
  temperatureHigh : UInt8
  temperatureLow : UInt8
  checksum : UInt8
  deriving DecidableEq, Repr

namespace Payload

/-- The bytes in the order in which they are sent. -/
def bytes (payload : Payload) : List UInt8 :=
  [payload.humidityHigh, payload.humidityLow, payload.temperatureHigh, payload.temperatureLow,
    payload.checksum]

/-- The payload of five bytes; bytes that are missing are zero. -/
def ofBytes (bytes : List UInt8) : Payload :=
  ⟨bytes.getD 0 0, bytes.getD 1 0, bytes.getD 2 0, bytes.getD 3 0, bytes.getD 4 0⟩

/-- The sum of the first four bytes. -/
def sum (payload : Payload) : UInt8 :=
  payload.humidityHigh + payload.humidityLow + payload.temperatureHigh + payload.temperatureLow

/-- The check of a payload's sum. -/
def validate (payload : Payload) : Except Fault Unit :=
  if payload.sum = payload.checksum then .ok ()
  else .error (.checksumFailed payload.sum payload.checksum)

end Payload

/-! ### Readings -/

/-- One measurement. -/
structure Reading where
  /-- Relative humidity in percent. -/
  humidity : Single
  /-- Degrees Celsius. -/
  temperature : Single
  deriving DecidableEq, Repr

/-- A byte pair as a number. -/
def word (high low : UInt8) : Nat :=
  high.toNat * 256 + low.toNat

/-- A temperature in tenths with its sign in the top bit. -/
def signedTenths (high low : UInt8) : Single :=
  let magnitude := Single.ofRatio (word (high &&& 0x7F) low) 10
  if high &&& 0x80 = 0 then magnitude else magnitude.negated

/-- The reading of a payload. -/
def Kind.interpret (kind : Kind) (payload : Payload) : Reading :=
  match kind with
  | .dht11 =>
    ⟨.ofRatio payload.humidityHigh.toNat 1, .ofRatio payload.temperatureHigh.toNat 1⟩
  | .dht22 | .am2302 =>
    ⟨.ofRatio (word payload.humidityHigh payload.humidityLow) 10,
      signedTenths payload.temperatureHigh payload.temperatureLow⟩

/-- 65.2 percent and 10.1 degrees below zero. -/
example : Kind.dht22.interpret ⟨0x02, 0x8C, 0x80, 0x65, 0x73⟩ = ⟨⟨0x42826666⟩, ⟨0xC121999A⟩⟩ := by
  decide +kernel

/-- The reading of a payload whose sum is right. -/
def Kind.reading (kind : Kind) (payload : Payload) : Except Fault Reading := do
  payload.validate
  return kind.interpret payload

end SensorCape.Dht
