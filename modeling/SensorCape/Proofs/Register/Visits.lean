/-
**Visits to the extension board.**

The operations of a register bus that switches the extension board over the serial bus come down to
three moves: a route is selected, the board is parked, and work is done that leaves the board alone.
A visit is a move and the rig that it began on. The visits of a run are read off its operations.

* `run_visits`: **the visits follow one another, and their calls are the calls of the run.**
* `visits_work`: the work done in them is that of the operations.
-/

import SensorCape.Poll.Register
import SensorCape.Proofs.Path

set_option linter.unusedSectionVars false

namespace SensorCape.Register

open Poll (RegisterSensor)

variable {σ : Type} [Devices σ]

/-! ### Operations -/

/-- An action on a register bus that has the serial bus as its selector. -/
abbrev OnBoard (σ α : Type) : Type := OnBus σ (Shared Serial.Bus) α

/-- What can be done on such a bus. -/
inductive Operation (σ : Type)
  | select (route : Route)
  | transaction (route : Route) (work : OnBoard σ Unit)
  | park
  | poll (sensor : RegisterSensor)
  /-- Whatever else is done on the two buses. -/
  | aside (work : OnBoard σ Unit)

/-- Runs an operation. -/
def Operation.run : Operation σ → OnBoard σ Unit
  | .select route => selectRoute (some .serial) route
  | .transaction route work => Register.transaction (some .serial) route work
  | .park => Register.park (some .serial)
  | .poll sensor => sensor.poll (some .serial)
  | .aside work => work

/-- Runs operations one after the other, whatever becomes of each. -/
def runAll : List (Operation σ) → OnBoard σ Unit
  | [] => pure ()
  | operation :: rest => do
    let _ ← Action.attempt operation.run
    runAll rest

/-- Operations that are run in two goes are run one after the other. -/
theorem runAll_append (operations others : List (Operation σ)) :
    ∀ rig : Rig σ (Shared Serial.Bus),
      (runAll (operations ++ others) rig).journal.events =
          (runAll operations rig).journal.events ++
            (runAll others (runAll operations rig).state).journal.events ∧
        (runAll (operations ++ others) rig).state =
          (runAll others (runAll operations rig).state).state := by
  induction operations with
  | nil => exact fun rig => ⟨rfl, rfl⟩
  | cons operation rest ih =>
    intro rig
    obtain ⟨calls, ended⟩ := ih (operation.run rig).state
    exact ⟨(congrArg ((operation.run rig).journal.events ++ ·) calls).trans
      (List.append_assoc _ _ _).symm, ended⟩

/-- **A call of a run is one of an operation**, and the calls before it are those of the operations
before and those that the operation had made by then. -/
theorem runAll_split {operations : List (Operation σ)} {event : Event} {after : List Event} :
    ∀ {before : List Event} {rig : Rig σ (Shared Serial.Bus)},
      (runAll operations rig).journal.events = before ++ event :: after →
        ∃ earlier operation later inside rest, operations = earlier ++ operation :: later ∧
          (operation.run (runAll earlier rig).state).journal.events = inside ++ event :: rest ∧
            before = (runAll earlier rig).journal.events ++ inside := by
  induction operations with
  | nil =>
    intro before rig split
    have none_made : [] = before ++ event :: after := split
    simp at none_made
  | cons operation others ih =>
    intro before rig split
    rcases append_split split with ⟨rest, made, -⟩ | ⟨gone, rfl, follow⟩
    · exact ⟨[], operation, others, before, rest, rfl, made, rfl⟩
    · obtain ⟨earlier, found, later, inside, rest, rfl, made, rfl⟩ := ih follow
      exact ⟨operation :: earlier, found, later, inside, rest, rfl, made,
        (List.append_assoc _ _ _).symm⟩

/-! ### Moves and visits -/

/-- What operations come down to. -/
inductive Move (σ : Type)
  | select (route : Route)
  | park
  | work (body : OnBoard σ Unit)

/-- Runs a move. -/
def Move.run : Move σ → OnBoard σ Unit
  | .select route => selectRoute (some .serial) route
  | .park => Register.park (some .serial)
  | .work body => body

/-- A move, and where it began. -/
structure Visit (σ : Type) where
  move : Move σ
  start : Rig σ (Shared Serial.Bus)

namespace Visit

/-- The calls of a visit. -/
def events (visit : Visit σ) : List Event := (visit.move.run visit.start).journal.events

/-- The rig after a visit. -/
def finish (visit : Visit σ) : Rig σ (Shared Serial.Bus) := (visit.move.run visit.start).state

/-- How a visit ended. -/
def result (visit : Visit σ) : Except Fault Unit := (visit.move.run visit.start).result

end Visit

/-- The calls of some visits. -/
def trace (visits : List (Visit σ)) : List Event := visits.flatMap Visit.events

/-- The visits of work on a route: the selection, and the work if the whole route is selected. -/
def routedVisits (route : Route) (work : OnBoard σ Unit) (rig : Rig σ (Shared Serial.Bus)) :
    List (Visit σ) :=
  let selected := selectRoute (some .serial) route rig
  ⟨.select route, rig⟩ ::
    match selected.result with
    | .ok () => [⟨.work work, selected.state⟩]
    | .error _ => []

/-- The work of a sensor on its route. -/
def sensorWork (sensor : RegisterSensor) : OnBoard σ Unit := do
  let _ ← sensor.handle.read sensor.register sensor.length
  pure ()

/-- The visits of an operation. -/
def Operation.visits (rig : Rig σ (Shared Serial.Bus)) : Operation σ → List (Visit σ)
  | .select route => [⟨.select route, rig⟩]
  | .transaction route work => routedVisits route work rig
  | .park => [⟨.park, rig⟩]
  | .poll sensor =>
    routedVisits sensor.route (sensorWork sensor) rig ++
      if sensor.route.extension.isSome then [⟨.park, (sensor.probe (some .serial) rig).state⟩]
      else []
  | .aside work => [⟨.work work, rig⟩]

/-- The visits of some operations. -/
def visits : List (Operation σ) → Rig σ (Shared Serial.Bus) → List (Visit σ)
  | [], _ => []
  | operation :: rest, rig => operation.visits rig ++ visits rest (operation.run rig).state

/-! ### The visits are the run -/

section Runs

variable {rig : Rig σ (Shared Serial.Bus)}

/-- Some visits lead from a rig to a rig, and these are their calls. -/
abbrev Visited (rig : Rig σ (Shared Serial.Bus)) (visits : List (Visit σ)) (events : List Event)
    (last : Rig σ (Shared Serial.Bus)) : Prop :=
  Course Visit.start Visit.finish Visit.events rig visits events last

theorem visited_single (visit : Visit σ) :
    Visited visit.start [visit] visit.events visit.finish := course_single visit

/-- A route that is selected is followed by the work on it. -/
theorem routedVisits_selected {route : Route} (work : OnBoard σ Unit)
    (selected : (selectRoute (some .serial) route rig).result = .ok ()) :
    routedVisits route work rig =
      [⟨.select route, rig⟩, ⟨.work work, (selectRoute (some .serial) route rig).state⟩] := by
  simp only [routedVisits, selected]

theorem routedVisits_refused {route : Route} {fault : Fault} (work : OnBoard σ Unit)
    (refused : (selectRoute (some .serial) route rig).result = .error fault) :
    routedVisits route work rig = [⟨.select route, rig⟩] := by
  simp only [routedVisits, refused]

/-- Work on a route is a selection and then the work. -/
theorem visited_transaction (route : Route) (work : OnBoard σ Unit)
    (rig : Rig σ (Shared Serial.Bus)) :
    Visited rig (routedVisits route work rig)
      (Register.transaction (some .serial) route work rig).journal.events
      (Register.transaction (some .serial) route work rig).state := by
  have first := visited_single (⟨.select route, rig⟩ : Visit σ)
  unfold Register.transaction
  rw [Action.bind_apply]
  cases selected : (selectRoute (some .serial) route rig).result with
  | error fault =>
    rw [routedVisits_refused work selected]
    exact first
  | ok done =>
    rw [routedVisits_selected work selected]
    exact first.append
      (visited_single (⟨.work work, (selectRoute (some .serial) route rig).state⟩ : Visit σ))

/-- The work of a sensor is its read, without the bytes. -/
theorem sensorWork_read (sensor : RegisterSensor) (rig : Rig σ (Shared Serial.Bus)) :
    let read := sensor.handle.read sensor.register sensor.length rig
    (sensorWork sensor rig).journal.events = read.journal.events ∧
      (sensorWork sensor rig).state = read.state := by
  simp only [sensorWork, Action.bind_apply]
  cases (sensor.handle.read sensor.register sensor.length rig).result with
  | ok bytes => simp
  | error fault => exact ⟨rfl, rfl⟩

/-- So a probe is that work on the sensor's route. -/
theorem probe_work (sensor : RegisterSensor) (rig : Rig σ (Shared Serial.Bus)) :
    let probed := sensor.probe (some .serial) rig
    let worked := Register.transaction (some .serial) sensor.route (sensorWork sensor) rig
    probed.journal.events = worked.journal.events ∧ probed.state = worked.state := by
  intro probed worked
  simp only [probed, worked, RegisterSensor.probe, Register.transaction, Action.bind_apply]
  cases (selectRoute (some .serial) sensor.route rig).result with
  | error fault => exact ⟨rfl, rfl⟩
  | ok done =>
    obtain ⟨calls, ended⟩ :=
      sensorWork_read sensor (selectRoute (some .serial) sensor.route rig).state
    simp only [Journal.events_append, calls, ended]
    exact ⟨trivial, trivial⟩

/-- A poll makes the calls of its probe and of its leaving, and no others. -/
theorem poll_calls (sensor : RegisterSensor) (rig : Rig σ (Shared Serial.Bus)) :
    let probed := sensor.probe (some .serial) rig
    let left := sensor.leave (some .serial) probed.state
    (sensor.poll (some .serial) rig).journal.events = probed.journal.events ++ left.journal.events ∧
      (sensor.poll (some .serial) rig).state = left.state := by
  intro probed left
  rw [RegisterSensor.poll_apply]
  simp [probed, left]

theorem visited_poll (sensor : RegisterSensor) (rig : Rig σ (Shared Serial.Bus)) :
    Visited rig (Operation.visits rig (.poll sensor))
      (sensor.poll (some .serial) rig).journal.events
      (sensor.poll (some .serial) rig).state := by
  obtain ⟨calls, ended⟩ := poll_calls sensor rig
  obtain ⟨made, reached⟩ := probe_work sensor rig
  rw [calls, ended]
  have probing : Visited rig (routedVisits sensor.route (sensorWork sensor) rig)
      (sensor.probe (some .serial) rig).journal.events
      (sensor.probe (some .serial) rig).state := by
    rw [made, reached]
    exact visited_transaction sensor.route (sensorWork sensor) rig
  refine probing.append ?_
  unfold RegisterSensor.leave
  by_cases chained : sensor.route.extension.isSome = true
  · rw [if_pos chained, if_pos chained]
    exact visited_single (⟨.park, _⟩ : Visit σ)
  · rw [if_neg chained, if_neg chained]
    exact course_nil _

theorem visited_operation (operation : Operation σ) (rig : Rig σ (Shared Serial.Bus)) :
    Visited rig (operation.visits rig) (operation.run rig).journal.events
      (operation.run rig).state := by
  cases operation with
  | select route => exact visited_single (⟨.select route, rig⟩ : Visit σ)
  | transaction route work => exact visited_transaction route work rig
  | park => exact visited_single (⟨.park, rig⟩ : Visit σ)
  | poll sensor => exact visited_poll sensor rig
  | aside work => exact visited_single (⟨.work work, rig⟩ : Visit σ)

/-- **The visits of a run follow one another, and their calls are the calls of the run.** -/
theorem run_visits (operations : List (Operation σ)) : ∀ rig : Rig σ (Shared Serial.Bus),
    Visited rig (visits operations rig) (runAll operations rig).journal.events
      (runAll operations rig).state := by
  induction operations with
  | nil => exact course_nil
  | cons operation rest ih =>
    intro rig
    exact Course.append (visited_operation operation rig) (ih (operation.run rig).state)

/-! ### The work of visits -/

/-- The work that an operation does besides its moves. -/
def Operation.work? : Operation σ → Option (OnBoard σ Unit)
  | .transaction _ work | .aside work => some work
  | .poll sensor => some (sensorWork sensor)
  | .select _ | .park => none

theorem routedVisits_work {route : Route} {work : OnBoard σ Unit} :
    ∀ visit ∈ routedVisits route work rig, ∀ body, visit.move = .work body → work = body := by
  intro visit member body same
  cases selected : (selectRoute (some .serial) route rig).result with
  | ok done =>
    rw [routedVisits_selected work selected] at member
    rcases List.mem_cons.mp member with rfl | member
    · cases same
    · rw [List.mem_singleton.mp member] at same
      cases same
      rfl
  | error fault =>
    rw [routedVisits_refused work selected] at member
    rw [List.mem_singleton.mp member] at same
    cases same

theorem Operation.visits_work {operation : Operation σ} :
    ∀ visit ∈ operation.visits rig, ∀ body, visit.move = .work body →
      operation.work? = some body := by
  intro visit member body same
  cases operation with
  | select route =>
    rw [List.mem_singleton.mp member] at same
    cases same
  | transaction route work => exact congrArg some (routedVisits_work visit member body same)
  | park =>
    rw [List.mem_singleton.mp member] at same
    cases same
  | poll sensor =>
    rcases List.mem_append.mp member with probing | leaving
    · exact congrArg some (routedVisits_work visit probing body same)
    · split at leaving
      · rw [List.mem_singleton.mp leaving] at same
        cases same
      · exact absurd leaving List.not_mem_nil
  | aside work =>
    rw [List.mem_singleton.mp member] at same
    cases same
    rfl

/-- The work of a visit is that of an operation. -/
theorem visits_work {operations : List (Operation σ)} : ∀ (rig : Rig σ (Shared Serial.Bus)),
    ∀ visit ∈ visits operations rig, ∀ body, visit.move = .work body →
      ∃ operation ∈ operations, operation.work? = some body := by
  induction operations with
  | nil => exact fun _ _ member => absurd member List.not_mem_nil
  | cons operation rest ih =>
    intro rig visit member body same
    rcases List.mem_append.mp member with first | later
    · exact ⟨operation, List.mem_cons_self, Operation.visits_work visit first body same⟩
    · obtain ⟨other, among, found⟩ := ih _ visit later body same
      exact ⟨other, List.mem_cons_of_mem _ among, found⟩

end Runs

end SensorCape.Register
