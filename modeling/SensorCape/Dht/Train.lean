/-
**Pulse trains.**

An answer is a train of forty-one pulses, each a low phase and a high phase measured in samples. The
first pulse is a preamble; every other one carries a bit in the width of its high phase, compared
with the mean width of the forty low phases. The comparison needs no clock: all widths are counted
at the same speed.

* `Train.threshold`: the mean, rounded down. The sum is taken in 64 bits, where it cannot wrap.
* `Train.payload`: the forty bits, most significant first.
-/

import SensorCape.Dht.Reading

namespace SensorCape.Dht

/-- The number of bits of an answer. -/
def dataBits : Nat := 40

/-- The number of pulses of an answer, its preamble included. -/
def pulseCount : Nat := dataBits + 1

/-- The widths of the two phases of a pulse. -/
structure Pulse where
  low : UInt32
  high : UInt32
  deriving DecidableEq, Repr

/-- A train of pulses. -/
structure Train where
  preamble : Pulse
  data : List Pulse
  complete : data.length = dataBits
  deriving DecidableEq, Repr

/-- Bits as a number, most significant first. -/
def packed (bits : List Bool) : UInt8 :=
  bits.foldl (fun byte bit => byte <<< 1 ||| (if bit then 1 else 0)) 0

namespace Train

/-- The train of a list of pulses; only forty-one pulses are one. -/
def ofPulses? : List Pulse → Option Train
  | [] => none
  | preamble :: data =>
    if complete : data.length = dataBits then some ⟨preamble, data, complete⟩ else none

/-- The pulses of a train, its preamble first. -/
def pulses (train : Train) : List Pulse :=
  train.preamble :: train.data

theorem pulses_length (train : Train) : train.pulses.length = pulseCount :=
  congrArg Nat.succ train.complete

/-- The pulse of a train with a given place; the preamble has place zero. -/
def pulse (train : Train) (place : Fin pulseCount) : Pulse :=
  train.pulses.get (place.cast train.pulses_length.symm)

@[simp] theorem pulse_succ (train : Train) (place : Fin dataBits) :
    train.pulse place.succ = train.data.get (place.cast train.complete.symm) := rfl

/-- The sum of the widths of the forty low phases. -/
def lowSum (train : Train) : UInt64 :=
  train.data.foldl (fun sum pulse => sum + pulse.low.toUInt64) 0

/-- The mean width of the forty low phases. -/
def threshold (train : Train) : UInt32 :=
  (train.lowSum / 40).toUInt32

/-- The bits of a train: a pulse whose high phase reaches the mean is a one. -/
def bits (train : Train) : List Bool :=
  train.data.map fun pulse => decide (train.threshold ≤ pulse.high)

/-- The byte of a train with a given place. -/
def byte (train : Train) (place : Nat) : UInt8 :=
  packed ((train.bits.drop (8 * place)).take 8)

/-- The payload of a train. -/
def payload (train : Train) : Payload :=
  ⟨train.byte 0, train.byte 1, train.byte 2, train.byte 3, train.byte 4⟩

/-- The reading of a train. -/
def decode (train : Train) (kind : Kind) : Except Fault Reading :=
  kind.reading train.payload

end Train

end SensorCape.Dht
