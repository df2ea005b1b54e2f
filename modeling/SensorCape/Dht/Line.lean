/-
**Reading a sensor over its single wire.**

The host wakes the line, pulls it low to ask for an answer and lets it go. From then on it only
samples: it waits for the line to fall and then measures, in samples, how long the line stays low
and high in each of the forty-one pulses. Every wait is bounded by the same number of samples.

* `runLength`: how long a line stays at a level, up to a bound.
* `sampleTrain`: the whole train; each phase ends with the first sample of the next.
* `readSensor`: the four line calls, the train and its decoding.
-/

import SensorCape.Devices
import SensorCape.Dht.Train

namespace SensorCape.Dht

/-! ### Lines -/

/-- States of a line that answers every call. A sample gives the level or a fault. -/
class SingleWire (σ : Type) where
  /-- The line is given a direction or a level. -/
  drive : Drive → σ → Option Fault × σ
  /-- The line's level is taken once. -/
  sample : σ → Except Fault Level × σ

/-- What was done to a line. -/
inductive LineEvent
  | drive (how : Drive) (failure : Option Fault)
  /-- A number of samples taken in a row, and the fault of the sample after them if one ended the
  row. -/
  | samples (taken : Nat) (failure : Option Fault)
  deriving DecidableEq, Repr

/-- The number of samples that an event took. -/
def LineEvent.taken : LineEvent → Nat
  | .drive _ _ => 0
  | .samples taken _ => taken

variable {σ : Type} [SingleWire σ]

/-! ### Run lengths -/

/-- How a row of samples ended. -/
inductive Ending
  /-- The line was seen at the other level. -/
  | left
  /-- The line stayed at the level for as long as it was watched. -/
  | stuck
  /-- A sample failed. -/
  | failed (fault : Fault)
  deriving DecidableEq, Repr

/-- What came of sampling a line in a row. -/
structure Sampled (σ : Type) where
  ending : Ending
  /-- How often the line was seen at the level. -/
  seen : Nat
  line : σ

namespace Sampled

/-- The number of samples taken; the one that showed the other level counts. -/
def taken (sampled : Sampled σ) : Nat :=
  match sampled.ending with
  | .left => sampled.seen + 1
  | .stuck | .failed _ => sampled.seen

/-- The width of the phase that the row measured. -/
def width (sampled : Sampled σ) : Except Fault UInt32 :=
  match sampled.ending with
  | .left => .ok (UInt32.ofNat sampled.seen)
  | .stuck => .error .timeout
  | .failed fault => .error fault

/-- The event of the row. -/
def event (sampled : Sampled σ) : LineEvent :=
  match sampled.ending with
  | .left | .stuck => .samples sampled.taken none
  | .failed fault => .samples sampled.taken (some fault)

end Sampled

/-- Samples a line until it leaves a level, `limit` more times at most, after it was seen there
`seen` times. -/
def watchFrom (level : Level) : (limit seen : Nat) → σ → Sampled σ
  | 0, seen, line => ⟨.stuck, seen, line⟩
  | limit + 1, seen, line =>
    match SingleWire.sample line with
    | (.error fault, line) => ⟨.failed fault, seen, line⟩
    | (.ok found, line) =>
      if found = level then watchFrom level limit (seen + 1) line else ⟨.left, seen, line⟩

/-- How many samples a phase may take; a bound of zero still lets one be taken. -/
def patience (bound : UInt32) : Nat :=
  max 1 bound.toNat

/-- Samples a line until it leaves a level. -/
def watch (level : Level) (bound : UInt32) (line : σ) : Sampled σ :=
  watchFrom level (patience bound) 0 line

/-- How long a line stays at a level. -/
def runLength (level : Level) (bound : UInt32) : Action LineEvent σ UInt32 := fun line =>
  let sampled := watch level bound line
  ⟨sampled.width, ⟨[sampled.event], [], []⟩, sampled.line⟩

/-! ### Trains -/

/-- The phases of one pulse. -/
def samplePulse (bound : UInt32) : Action LineEvent σ Pulse := do
  let low ← runLength .low bound
  let high ← runLength .high bound
  return ⟨low, high⟩

/-- A number of pulses, one after another. -/
def samplePulses (bound : UInt32) :
    (count : Nat) → Action LineEvent σ { pulses : List Pulse // pulses.length = count }
  | 0 => pure ⟨[], rfl⟩
  | count + 1 => do
    let pulse ← samplePulse bound
    let rest ← samplePulses bound count
    return ⟨pulse :: rest.1, by simp [rest.2]⟩

/-- The train of an answer, after the line has fallen for the first time. -/
def sampleTrain (bound : UInt32) : Action LineEvent σ Train := do
  let _ ← runLength .high bound
  let preamble ← samplePulse bound
  let data ← samplePulses bound dataBits
  return ⟨preamble, data.1, data.2⟩

/-! ### Reads -/

/-- Drives the line. -/
def drive (how : Drive) : Action LineEvent σ Unit := fun line =>
  let answer := SingleWire.drive how line
  let result := match answer.1 with
    | none => .ok ()
    | some fault => .error fault
  ⟨result, ⟨[.drive how answer.1], [], []⟩, answer.2⟩

/-- Asks a sensor for an answer and reads it. -/
def readSensor (kind : Kind) (bound : UInt32) : Action LineEvent σ Reading := do
  drive .output
  drive .high
  drive .low
  drive .input
  let train ← sampleTrain bound
  Action.ofExcept (train.decode kind)

/-- The hold times of a read, in milliseconds, and the bound of each phase in samples. -/
structure Timing where
  wake : Nat
  request : Nat
  bound : UInt32
  deriving DecidableEq, Repr

/-- The times that the sensors' makers ask for. -/
def Timing.standard : Timing := ⟨500, 20, 32000⟩

end SensorCape.Dht
