/-
**Scripts of serial operations.**

A script is a sequence of operations on the serial bus, some of them brackets that run a further
script under a profile, to any depth. A step that fails ends its script with its fault, unless the
script was told to go on.

* `Command.run`: one operation, with what it returns.
* `Script.run`: a script. `Script.runObserved` also hands the result of every step that ran to an
  observer, those of a bracket's body before the bracket's own.
-/

import SensorCape.Serial.Extension

namespace SensorCape.Serial

/-- An operation of the serial bus. -/
inductive Command
  | transfer (data : List UInt8)
  | transferSecondary (data : List UInt8)
  | select (address : UInt8) (intent : Intent)
  | writeModule (address : UInt8) (data : List UInt8)
  | readModule (address : UInt8)
  | assignExtension (address : UInt8)
  | selectExtension (channel : UInt8)
  | parkExtension
  deriving DecidableEq, Repr

/-- What an operation returns. -/
inductive Reply
  | nothing
  | bytes (received : List UInt8)
  | count (written : Nat)
  | byte (value : UInt8)
  /-- A script ran to its end. -/
  | finished
  deriving DecidableEq, Repr

/-- A sequence of steps. -/
inductive Script
  | finish
  /-- An operation, whether its fault is ignored, and what follows. -/
  | step (command : Command) (lenient : Bool) (next : Script)
  /-- A script under a profile, whether its fault is ignored, and what follows. -/
  | bracket (profile : Profile) (body : Script) (lenient : Bool) (next : Script)
  deriving DecidableEq, Repr

variable {σ : Type} [Devices σ]

/-- Runs one operation. -/
def Command.run : Command → OnBus σ Bus Reply
  | .transfer data => do return .bytes (← Serial.transfer data)
  | .transferSecondary data => do return .bytes (← Serial.transferSecondary data)
  | .select address intent => do
    Serial.select address intent
    return .nothing
  | .writeModule address data => do return .count (← Serial.writeModule address data)
  | .readModule address => do return .byte (← Serial.readModule address)
  | .assignExtension address => do
    Serial.assignExtension address
    return .nothing
  | .selectExtension channel => do
    Serial.selectExtension channel
    return .nothing
  | .parkExtension => do
    Serial.parkExtension
    return .nothing

/-- Ends with a step's fault, unless it is to be ignored. -/
def endUnless (lenient : Bool) : Except Fault Reply → OnBus σ Bus Unit
  | .ok _ => pure ()
  | .error fault => if lenient then pure () else Action.fail fault

/-- Someone who is told the result of every step when it has ended. -/
abbrev Observer (σ : Type) : Type := Except Fault Reply → OnBus σ Bus Unit

/-- Runs a script before an observer. -/
def Script.runObserved (observe : Observer σ) : Script → OnBus σ Bus Reply
  | .finish => pure .finished
  | .step command lenient next => do
    let result ← Action.attempt command.run
    observe result
    endUnless lenient result
    next.runObserved observe
  | .bracket profile body lenient next => do
    let result ← Action.attempt (withProfile profile (body.runObserved observe))
    observe result
    endUnless lenient result
    next.runObserved observe

/-- Runs a script. -/
def Script.run (script : Script) : OnBus σ Bus Reply :=
  script.runObserved fun _ => pure ()

end SensorCape.Serial
