/-
**A replayed line.**

A line that shows prepared runs of levels, one level a sample, and an idle level afterwards. Planned
mishaps strike single calls; a sample that fails takes nothing from the runs.

* `Replay.remaining`: how many samples the runs still hold.
-/

import SensorCape.Bench.Schedule
import SensorCape.Dht.Line

namespace SensorCape.Bench

/-- The calls on a line. -/
inductive LineCall
  | drive (how : Drive)
  | sample
  deriving DecidableEq, Repr

/-- A line that replays runs of levels. -/
structure Replay where
  plan : List (Planned LineCall)
  runs : List (Level × Nat)
  idle : Level
  deriving DecidableEq, Repr

namespace Replay

/-- The number of samples that the runs still hold. -/
def remaining (line : Replay) : Nat :=
  line.runs.foldr (fun run total => run.2 + total) 0

/-- The next level and the runs after it. -/
def nextLevel (idle : Level) : List (Level × Nat) → Level × List (Level × Nat)
  | [] => (idle, [])
  | (_, 0) :: rest => nextLevel idle rest
  | (level, count + 1) :: rest => (level, (level, count) :: rest)

/-- Drives the line, which changes nothing. -/
def drive (how : Drive) (line : Replay) : Option Fault × Replay :=
  let hit := strike (.drive how) line.plan
  (hit.1.bind Mishap.fault?, { line with plan := hit.2 })

/-- Takes a sample. -/
def sample (line : Replay) : Except Fault Level × Replay :=
  let hit := strike .sample line.plan
  match hit.1.bind Mishap.fault? with
  | some fault => (.error fault, { line with plan := hit.2 })
  | none =>
    let next := nextLevel line.idle line.runs
    (.ok next.1, { line with plan := hit.2, runs := next.2 })

end Replay

instance : Dht.SingleWire Replay where
  drive := Replay.drive
  sample := Replay.sample

end SensorCape.Bench
