/-
**A simulated board.**

Devices to run the buses on without hardware. Lines accept everything, the serial device holds the
configuration written to it and answers an exchange with the complement of what was sent, raw reads
take from a list of prepared bytes, and a target on the register bus shows memory that depends on
its address and on the pointer that the last write set. Planned mishaps strike any of the calls.

* `Board`: the simulated devices, with room for what an observer wants to note while a bus works.
-/

import SensorCape.Bench.Schedule
import SensorCape.Devices

namespace SensorCape.Bench

open Serial (Configuration Setting)

/-- The calls that a mishap can be planned for. -/
inductive Call
  | drive (line : Line) (how : Drive)
  | mode
  | wordSize
  | speed
  | exchange
  | write
  | read
  | openTarget
  | writeTarget
  | readTarget
  | routeBoard
  | parkBoard
  deriving DecidableEq, Repr

/-- The call that writes a setting. -/
def Call.ofSetting : Setting → Call
  | .mode _ => .mode
  | .wordSize _ => .wordSize
  | .speed _ => .speed

/-- The byte that raw reads give once the prepared bytes are used up. -/
def spareByte : UInt8 := 0x5A

/-- Simulated devices. `ο` is what an observer notes. -/
structure Board (ο : Type) where
  plan : List (Planned Call)
  /-- The configuration last written to the serial device. -/
  held : Configuration
  /-- The bytes prepared for raw reads. -/
  prepared : List UInt8
  /-- The pointers of the open targets. -/
  pointers : List (UInt8 × UInt8)
  notes : List ο

namespace Board

variable {ο : Type}

/-- A board that nothing was done to yet. -/
def fresh (prepared : List UInt8) : Board ο := ⟨[], ⟨⟨0⟩, 0, 0⟩, prepared, [], []⟩

/-- The board with a new plan and no notes. -/
def planned (plan : List (Planned Call)) (board : Board ο) : Board ο :=
  { board with plan, notes := [] }

/-- The mishap that a call meets. -/
def struck (call : Call) (board : Board ο) : Option Mishap × Board ο :=
  let hit := strike call board.plan
  (hit.1, { board with plan := hit.2 })

/-- A call that answers with a fault or with nothing. -/
def plain (call : Call) (board : Board ο) : Option Fault × Board ο :=
  let hit := board.struck call
  (hit.1.bind Mishap.fault?, hit.2)

/-- Writes a setting. -/
def configure (setting : Setting) (board : Board ο) : Option Cause × Board ο :=
  let (mishap, board) := board.struck (.ofSetting setting)
  match mishap.bind Mishap.cause? with
  | some cause => (some cause, board)
  | none => (none, { board with held := board.held.apply setting })

/-- Exchanges bytes. -/
def exchange (sent : List UInt8) (board : Board ο) : Except Cause (List UInt8) × Board ο :=
  let (mishap, board) := board.struck .exchange
  match mishap.bind Mishap.cause? with
  | some cause => (.error cause, board)
  | none => (.ok (sent.map (~~~ ·)), board)

/-- The first prepared bytes, filled up with spare ones. -/
def supply (length : Nat) (board : Board ο) : List UInt8 × Board ο :=
  let given := (board.prepared ++ List.replicate length spareByte).take length
  (given, { board with prepared := board.prepared.drop length })

/-- Reads bytes; a read that claims to have moved none takes none. -/
def read (length : Nat) (board : Board ο) : Filling × Board ο :=
  let (mishap, board) := board.struck .read
  match Mishap.counted length mishap with
  | .refused cause => (⟨.refused cause, []⟩, board)
  | .moved 0 => (⟨.moved 0, []⟩, board)
  | .moved claimed =>
    let (bytes, board) := board.supply length
    (⟨.moved claimed, bytes⟩, board)

/-- Writes bytes. -/
def write (data : List UInt8) (board : Board ο) : Count × Board ο :=
  let (mishap, board) := board.struck .write
  (Mishap.counted data.length mishap, board)

/-- The pointer of a target. -/
def pointer (address : UInt8) (board : Board ο) : UInt8 :=
  (board.pointers.lookup address).getD 0

/-- The board with the pointer of a target set. -/
def pointed (address pointer : UInt8) (board : Board ο) : Board ο :=
  { board with pointers := (address, pointer) :: board.pointers.filter (·.1 != address) }

/-- Opens a target. -/
def openTarget (address : UInt8) (board : Board ο) : Option Fault × Board ο :=
  match board.plain .openTarget with
  | (some fault, board) => (some fault, board)
  | (none, board) => (none, board.pointed address 0)

/-- Writes bytes to a target; the first one becomes its pointer. -/
def writeTarget (address : UInt8) (data : List UInt8) (board : Board ο) : Count × Board ο :=
  let (mishap, board) := board.struck .writeTarget
  match Mishap.counted data.length mishap, data with
  | .moved claimed, first :: _ => (.moved claimed, board.pointed address first)
  | count, _ => (count, board)

/-- The bytes that a target shows from a place on. -/
def contents (start : UInt8) (length : Nat) : List UInt8 :=
  (List.range length).map fun place => start + UInt8.ofNat place

/-- Reads bytes from a target. -/
def readTarget (address : UInt8) (length : Nat) (board : Board ο) : Filling × Board ο :=
  let (mishap, board) := board.struck .readTarget
  match Mishap.counted length mishap with
  | .refused cause => (⟨.refused cause, []⟩, board)
  | .moved claimed =>
    (⟨.moved claimed, contents (address + board.pointer address) (min claimed length)⟩, board)

end Board

instance {ο : Type} : Devices (Board ο) where
  drive line how := Board.plain (.drive line how)
  configure := Board.configure
  exchange sent _ := Board.exchange sent
  write := Board.write
  read := Board.read
  openTarget := Board.openTarget
  writeTarget := Board.writeTarget
  readTarget := Board.readTarget
  routeBoard _ := Board.plain .routeBoard
  parkBoard := Board.plain .parkBoard

/-- Notes an observation. -/
def remark {ο τ : Type} (observation : τ → ο) : OnBus (Board ο) τ Unit :=
  Action.modify fun rig =>
    { rig with devices.notes := rig.devices.notes ++ [observation rig.bus] }

end SensorCape.Bench
