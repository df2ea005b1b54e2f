/-
**The stages of a script.**

A script runs in stages. A stage is an operation or one of the two switches of a bracket, and the
rig that it began on. The stages of a run are read off the script: they follow one another, and
their calls are all the calls of the run.

* `Script.run_stages`: **the stages of a script are its run.**
-/

import SensorCape.Proofs.Path
import SensorCape.Proofs.Serial.Work

set_option linter.unusedSectionVars false

namespace SensorCape.Serial

variable {σ : Type} [Devices σ]

/-! ### Stages -/

/-- What a stage of a run does. -/
inductive Act
  | operation (command : Command)
  /-- A switch to the profile of a bracket, or back. -/
  | switch (profile : Profile)

/-- Runs an act. -/
def Act.run : Act → OnBus σ Bus Reply
  | .operation command => command.run
  | .switch profile => do
    switchTo profile
    return .nothing

/-- A stage of a run: what it does, and where it began. -/
structure Stage (σ : Type) where
  act : Act
  start : Rig σ Bus

namespace Stage

/-- The calls of a stage. -/
def events (stage : Stage σ) : List Event := (stage.act.run stage.start).journal.events

/-- The rig after a stage. -/
def finish (stage : Stage σ) : Rig σ Bus := (stage.act.run stage.start).state

end Stage

/-- The calls of some stages. -/
def trace (stages : List (Stage σ)) : List Event := stages.flatMap Stage.events

/-- Whether a script goes on after a step. -/
def goesOn (lenient : Bool) : Except Fault Reply → Bool
  | .ok _ => true
  | .error _ => lenient

/-- The stages of a bracket on a rig, given those of its body: the switch, the body if it could be
entered, and the switch back. -/
def bracketStages (profile : Profile) (body : Script) (inside : Rig σ Bus → List (Stage σ))
    (rig : Rig σ Bus) : List (Stage σ) :=
  let entered := switchTo profile rig
  match entered.result with
  | .ok () => ⟨.switch profile, rig⟩ :: inside entered.state ++
      [⟨.switch rig.bus.active, (body.run entered.state).state⟩]
  | .error _ => [⟨.switch profile, rig⟩, ⟨.switch rig.bus.active, entered.state⟩]

/-- The stages of a script's run. -/
def Script.stages : Script → Rig σ Bus → List (Stage σ)
  | .finish, _ => []
  | .step command lenient next, rig =>
    let outcome := command.run rig
    ⟨.operation command, rig⟩ ::
      if goesOn lenient outcome.result then next.stages outcome.state else []
  | .bracket profile body lenient next, rig =>
    let outcome := withProfile profile body.run rig
    bracketStages profile body body.stages rig ++
      if goesOn lenient outcome.result then next.stages outcome.state else []

/-! ### The stages are the run -/

/-- A switch as a stage makes the calls of the switch. -/
theorem Stage.events_switch (profile : Profile) (rig : Rig σ Bus) :
    (⟨.switch profile, rig⟩ : Stage σ).events = (switchTo profile rig).journal.events := by
  simp only [events, Act.run, Action.bind_apply]
  cases (switchTo profile rig).result with
  | ok _ => simp
  | error fault => simp

theorem Stage.finish_switch (profile : Profile) (rig : Rig σ Bus) :
    (⟨.switch profile, rig⟩ : Stage σ).finish = (switchTo profile rig).state := by
  simp only [finish, Act.run, Action.bind_apply]
  cases (switchTo profile rig).result with
  | ok _ => simp
  | error fault => simp

/-- Some stages lead from a rig to a rig, and these are their calls. -/
abbrev Staged (rig : Rig σ Bus) (stages : List (Stage σ)) (events : List Event)
    (last : Rig σ Bus) : Prop :=
  Course Stage.start Stage.finish Stage.events rig stages events last

/-- A switch as a stage does what the switch does. -/
theorem staged_switch (profile : Profile) (rig : Rig σ Bus) :
    Staged rig [⟨.switch profile, rig⟩] (switchTo profile rig).journal.events
      (switchTo profile rig).state := by
  rw [← Stage.events_switch, ← Stage.finish_switch]
  exact course_single (⟨.switch profile, rig⟩ : Stage σ)

/-- A step of a script, and the rest of the script after it. -/
def proceed (body : OnBus σ Bus Reply) (lenient : Bool) (next : OnBus σ Bus Reply) :
    OnBus σ Bus Reply := do
  let result ← Action.attempt body
  endUnless lenient result
  next

theorem Script.run_step (command : Command) (lenient : Bool) (next : Script) :
    ((Script.step command lenient next).run : OnBus σ Bus Reply) =
      proceed command.run lenient next.run := rfl

theorem Script.run_bracket (profile : Profile) (body : Script) (lenient : Bool) (next : Script) :
    ((Script.bracket profile body lenient next).run : OnBus σ Bus Reply) =
      proceed (withProfile profile body.run) lenient next.run := rfl

/-- Where a script goes on, the calls of its rest follow those of the step. -/
theorem proceed_on {body : OnBus σ Bus Reply} {lenient : Bool} {rig : Rig σ Bus}
    (next : OnBus σ Bus Reply) (on : goesOn lenient (body rig).result = true) :
    (proceed body lenient next rig).journal.events =
        (body rig).journal.events ++ (next (body rig).state).journal.events ∧
      (proceed body lenient next rig).state = (next (body rig).state).state := by
  simp only [proceed, Action.attempt, Action.bind_apply]
  cases ended : (body rig).result with
  | ok reply => simp [endUnless]
  | error fault =>
    rw [ended] at on
    simp only [goesOn] at on
    simp [endUnless, on]

/-- Where a script ends early, it has made the calls of the step and no more. -/
theorem proceed_off {body : OnBus σ Bus Reply} {lenient : Bool} {rig : Rig σ Bus}
    (next : OnBus σ Bus Reply) (off : goesOn lenient (body rig).result = false) :
    (proceed body lenient next rig).journal.events = (body rig).journal.events ∧
      (proceed body lenient next rig).state = (body rig).state := by
  simp only [proceed, Action.attempt, Action.bind_apply]
  cases ended : (body rig).result with
  | ok reply =>
    rw [ended] at off
    cases off
  | error fault =>
    rw [ended] at off
    simp only [goesOn] at off
    simp [endUnless, off]

/-- What `proceed` does, in terms of the stages of its two parts. -/
theorem staged_proceed {body next : OnBus σ Bus Reply} {lenient : Bool} {rig : Rig σ Bus}
    {stages later : List (Stage σ)}
    (staged : Staged rig stages (body rig).journal.events (body rig).state)
    (follow : Staged (body rig).state later (next (body rig).state).journal.events
      (next (body rig).state).state) :
    Staged rig (stages ++ if goesOn lenient (body rig).result then later else [])
      (proceed body lenient next rig).journal.events (proceed body lenient next rig).state := by
  cases on : goesOn lenient (body rig).result with
  | true =>
    obtain ⟨events, state⟩ := proceed_on next on
    rw [events, state]
    exact staged.append follow
  | false =>
    obtain ⟨events, state⟩ := proceed_off next on
    simp only [events, state, Bool.false_eq_true, if_false, List.append_nil]
    exact staged

/-- The stages of a bracket: the switch, those of the body if it is entered, the switch back. -/
theorem staged_bracket (profile : Profile) (body : Script) (rig : Rig σ Bus)
    (inside : ∀ rig : Rig σ Bus,
      Staged rig (body.stages rig) (body.run rig).journal.events (body.run rig).state) :
    Staged rig (bracketStages profile body body.stages rig)
      (withProfile profile body.run rig).journal.events
      (withProfile profile body.run rig).state := by
  have first := staged_switch profile rig
  cases entered : (switchTo profile rig).result with
  | ok done =>
    have last := staged_switch rig.bus.active (body.run (switchTo profile rig).state).state
    rw [withProfile_entered entered, bracketStages, entered]
    exact (first.append (inside (switchTo profile rig).state)).append last
  | error fault =>
    have last := staged_switch rig.bus.active (switchTo profile rig).state
    rw [withProfile_refused entered, bracketStages, entered]
    exact first.append last

/-- **The stages of a script follow one another, and their calls are the calls of its run.** -/
theorem Script.run_stages (script : Script) : ∀ rig : Rig σ Bus,
    Staged rig (script.stages rig) (script.run rig).journal.events (script.run rig).state := by
  induction script with
  | finish => exact course_nil
  | step command lenient next ih =>
    intro rig
    rw [Script.run_step]
    exact staged_proceed (course_single (⟨.operation command, rig⟩ : Stage σ))
      (ih (command.run rig).state)
  | bracket profile body lenient next bodyIh nextIh =>
    intro rig
    rw [Script.run_bracket]
    exact staged_proceed (staged_bracket profile body rig bodyIh)
      (nextIh (withProfile profile body.run rig).state)

/-! ### Single calls -/

/-- A call of some stages is a call of one of them. -/
theorem trace_split {stages : List (Stage σ)} {before after : List Event} {event : Event}
    (split : trace stages = before ++ event :: after) :
    ∃ earlier stage later inside rest, stages = earlier ++ stage :: later ∧
      stage.events = inside ++ event :: rest ∧
        before = trace earlier ++ inside ∧ after = rest ++ trace later :=
  flatMap_split split

end SensorCape.Serial
