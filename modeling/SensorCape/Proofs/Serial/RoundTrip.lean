/-
**There and back.**

A bracket switches to its profile, runs its body if it got there, and switches back to the profile
that it found. A switch is done exactly if no setting was refused, so a way back without a refusal
restores the bus, whatever the way there and the body made of it.

* `switchTo_settings`: a switch writes settings only, and what its success and its failure mean.
* `Passage`: the parts of a bracket's run; `withProfile_passage` — a bracket runs in these parts.
* `bracket_round_trip`: **the round trip of a bracket around any script, from any state of the bus.**
-/

import SensorCape.Proofs.Serial.Held

set_option linter.unusedSectionVars false

namespace SensorCape

/-! ### Settings among calls -/

/-- Whether a call writes a setting. -/
def Event.isSetting : Event → Bool
  | .configure _ _ => true
  | _ => false

/-- No setting that was written among some calls was refused. -/
def NoneRefused (events : List Event) : Prop :=
  ∀ setting failure, Event.configure setting failure ∈ events → failure = none

theorem noneRefused_nil : NoneRefused [] := fun _ _ member => absurd member List.not_mem_nil

theorem noneRefused_append (events others : List Event) :
    NoneRefused (events ++ others) ↔ NoneRefused events ∧ NoneRefused others := by
  simp only [NoneRefused, List.mem_append, or_imp, forall_and]

theorem noneRefused_single (setting : Serial.Setting) : NoneRefused [.configure setting none] := by
  rintro written failure member
  cases List.mem_singleton.mp member
  rfl

theorem not_noneRefused_single (setting : Serial.Setting) (cause : Cause) :
    ¬ NoneRefused [.configure setting (some cause)] := fun taken => by
  cases taken setting (some cause) (List.mem_singleton.mpr rfl)

namespace Serial

variable {σ α : Type} [Devices σ]

/-! ### Switches -/

/-- What a switch from a bus can come to: every setting was taken and the profile is reached, or one
was refused and the bus differs in the applied configuration only. -/
def Switches (profile : Profile) (bus : Bus) (events : List Event) (after : Bus) :
    Except Fault Unit → Prop
  | .ok () => NoneRefused events ∧ after = bus.switched profile
  | .error _ => ¬ NoneRefused events ∧ ∃ applied, after = { bus with applied }

/-- **A switch writes settings and makes no other call**, and it fails exactly if one is refused. -/
theorem switchTo_settings (profile : Profile) (rig : Rig σ Bus) :
    (∀ event ∈ (switchTo profile rig).journal.events, event.isSetting = true) ∧
      Switches profile rig.bus (switchTo profile rig).journal.events (switchTo profile rig).state.bus
        (switchTo profile rig).result := by
  have tracks : Tracks (Monitor.history fun _ event => event.isSetting = true)
      (rig.bus.configuration profile) (fun past _ => NoneRefused past)
      fun _ past _ => ¬ NoneRefused past :=
    { written := fun past _ setting _ taken _ _ =>
        ⟨rfl, (noneRefused_append past _).mpr ⟨taken, noneRefused_single setting⟩⟩
      refused := fun past _ cause setting _ _ _ _ =>
        ⟨rfl, fun taken =>
          not_noneRefused_single setting cause ((noneRefused_append past _).mp taken).2⟩ }
  have leads : (Monitor.history fun _ event => event.isSetting = true).Leads [] rig.bus
      (switchTo profile : OnBus σ Bus Unit) _ := leads_switchTo tracks noneRefused_nil
  obtain ⟨admitted, ended⟩ := Monitor.Leads.run [] rig leads fun _ _ => trivial
  refine ⟨Monitor.forall_of_admits (fun _ _ allowed => allowed) admitted, ?_⟩
  rw [Monitor.after_history, List.nil_append] at ended
  cases result : (switchTo profile rig).result with
  | ok done =>
    rw [result] at ended
    exact ended
  | error fault =>
    rw [result] at ended
    exact ended

/-- A switch succeeds exactly if no setting was refused. -/
theorem switchTo_ok_iff (profile : Profile) (rig : Rig σ Bus) :
    (switchTo profile rig).result = .ok () ↔
      NoneRefused (switchTo profile rig).journal.events := by
  have ended := (switchTo_settings profile rig).2
  cases result : (switchTo profile rig).result with
  | ok done =>
    rw [result] at ended
    exact ⟨fun _ => ended.1, fun _ => rfl⟩
  | error fault =>
    rw [result] at ended
    exact ⟨nofun, fun taken => absurd taken ended.1⟩

/-! ### The parts of a bracket -/

/-- A profile is active, and this is the configuration applied. -/
structure Bus.Rests (bus : Bus) (profile : Profile) (configuration : Configuration) : Prop where
  active : bus.active = profile
  applied : bus.applied = configuration

/-- The run of a bracket, part by part. -/
structure Passage (σ α : Type) where
  /-- The switch to the profile of the bracket. -/
  entry : Outcome Event (Rig σ Bus) Unit
  /-- The run of the body, if there was one. -/
  inside : Option (Outcome Event (Rig σ Bus) α)
  /-- The switch back. -/
  back : Outcome Event (Rig σ Bus) Unit

namespace Passage

/-- The rig that the way back begins on. -/
def turn (passage : Passage σ α) : Rig σ Bus :=
  match passage.inside with
  | some run => run.state
  | none => passage.entry.state

/-- What the parts leave behind, in order. -/
def journal (passage : Passage σ α) : Journal Event :=
  match passage.inside with
  | some run => passage.entry.journal ++ run.journal ++ passage.back.journal
  | none => passage.entry.journal ++ passage.back.journal

/-- The parts of a bracket on a rig: each begins where the one before ended, and the way back leads
to the profile that was active at first. -/
structure Of (passage : Passage σ α) (profile : Profile) (body : OnBus σ Bus α)
    (rig : Rig σ Bus) : Prop where
  entry : passage.entry = switchTo profile rig
  inside : ∀ run, passage.inside = some run → run = body passage.entry.state
  back : passage.back = switchTo rig.bus.active passage.turn

/-- A call with an outcome went through these parts: it left behind what they left behind, it
succeeded exactly if all of them did, and a fault of the switch or of the body is its fault,
whatever became of the way back. -/
structure Makes (passage : Passage σ α) (outcome : Outcome Event (Rig σ Bus) α) : Prop where
  journal : outcome.journal = passage.journal
  state : outcome.state = passage.back.state
  succeeded : ∀ value, outcome.result = .ok value ↔ passage.entry.result = .ok () ∧
    (∃ run, passage.inside = some run ∧ run.result = .ok value) ∧ passage.back.result = .ok ()
  stopped : ∀ fault, passage.entry.result = .error fault → outcome.result = .error fault
  failed : ∀ run fault, passage.inside = some run → run.result = .error fault →
    outcome.result = .error fault

end Passage

/-- **A bracket runs in its parts**, and its body is run exactly if the switch succeeded. -/
theorem withProfile_passage (profile : Profile) (body : OnBus σ Bus α) (rig : Rig σ Bus) :
    ∃ passage : Passage σ α, passage.Of profile body rig ∧
      passage.Makes (withProfile profile body rig) ∧
      ((∃ run, passage.inside = some run) ↔ passage.entry.result = .ok ()) := by
  cases entered : (switchTo profile rig).result with
  | ok done =>
    let run := body (switchTo profile rig).state
    refine ⟨⟨switchTo profile rig, some run, switchTo rig.bus.active run.state⟩,
      ⟨rfl, fun _ same => (Option.some.inj same).symm, rfl⟩, ?_,
      ⟨fun _ => entered, fun _ => ⟨run, rfl⟩⟩⟩
    rw [withProfile_entered entered]
    refine ⟨rfl, rfl, fun value => ?_, fun fault refused => ?_, fun ran fault same failed => ?_⟩
    · simp only [Action.settled_eq_ok, entered, true_and, Option.some.injEq, exists_eq_left']
      rfl
    · cases entered.symm.trans refused
    · cases same
      simp only [run] at failed
      simp only [failed, Action.settled]
  | error fault =>
    have stopped : ∀ done, (switchTo profile rig).result ≠ .ok done := by
      intro done reached
      cases entered.symm.trans reached
    refine ⟨⟨switchTo profile rig, none, switchTo rig.bus.active (switchTo profile rig).state⟩,
      ⟨rfl, fun run missing => ?_, rfl⟩, ?_, fun ran => ?_, fun done => absurd done (stopped ())⟩
    · cases missing
    · rw [withProfile_refused entered]
      refine ⟨rfl, rfl, fun value => ?_, fun other refused => ?_, fun run other missing _ => ?_⟩
      · simp only [stopped, false_and, reduceCtorEq]
      · cases entered.symm.trans refused
        rfl
      · cases missing
    · obtain ⟨run, missing⟩ := ran
      cases missing

/-! ### The way back -/

/-- A stage leaves the primary configuration of the bus alone. -/
theorem Stage.finish_primary (stage : Stage σ) :
    stage.finish.bus.primary = stage.start.bus.primary := (stage.suits rfl).2.2

/-- So does a script. -/
theorem Script.run_primary (script : Script) (rig : Rig σ Bus) :
    (script.run rig).state.bus.primary = rig.bus.primary := by
  refine (Script.run_stages script rig).1.arrive (fun after => after.bus.primary = rig.bus.primary)
    rfl fun stage _ same => ?_
  exact stage.finish_primary.trans same

/-- The two configurations of a bus follow from the primary one. -/
theorem Bus.configuration_congr {bus other : Bus} (same : bus.primary = other.primary)
    (profile : Profile) : bus.configuration profile = other.configuration profile := by
  cases profile with
  | primary => exact same
  | secondary => exact congrArg Configuration.secondary same

/-- A switch in which nothing was refused leaves the bus at rest in its profile. -/
theorem switchTo_rests {profile : Profile} {rig : Rig σ Bus}
    (taken : NoneRefused (switchTo profile rig).journal.events) :
    (switchTo profile rig).state.bus.Rests profile (rig.bus.configuration profile) := by
  rw [switchTo_ok ((switchTo_ok_iff profile rig).mpr taken)]
  exact ⟨rfl, rfl⟩

/-- The rig that the way back begins on has the primary configuration that the bracket found. -/
theorem Passage.Of.turn_primary {passage : Passage σ Reply} {profile : Profile} {body : Script}
    {rig : Rig σ Bus} (parts : passage.Of profile body.run rig) :
    passage.turn.bus.primary = rig.bus.primary := by
  have entered : passage.entry.state.bus.primary = rig.bus.primary := by
    rw [parts.entry, ← Stage.finish_switch]
    exact Stage.finish_primary _
  unfold Passage.turn
  cases ran : passage.inside with
  | none => exact entered
  | some run =>
    rw [parts.inside run ran]
    exact (Script.run_primary body _).trans entered

/-- **The round trip of a bracket**, around any script and from any state of the bus, whichever
calls fail. It runs in its parts, and so a fault of the switch or of the body is reported before one
of the way back. The body is run exactly if no setting was refused on the way there. If none is
refused on the way back, the profile that was active before is active again and its configuration is
the one applied; a bracket that succeeds is such a case. -/
theorem bracket_round_trip (profile : Profile) (body : Script) (rig : Rig σ Bus) :
    ∃ passage : Passage σ Reply, passage.Of profile body.run rig ∧
      passage.Makes (withProfile profile body.run rig) ∧
      ((∃ run, passage.inside = some run) ↔ NoneRefused passage.entry.journal.events) ∧
      (NoneRefused passage.back.journal.events →
        (withProfile profile body.run rig).state.bus.Rests rig.bus.active
          (rig.bus.configuration rig.bus.active)) ∧
      ∀ reply, (withProfile profile body.run rig).result = .ok reply →
        (withProfile profile body.run rig).state.bus.Rests rig.bus.active
          (rig.bus.configuration rig.bus.active) := by
  obtain ⟨passage, parts, makes, ran⟩ := withProfile_passage profile (body.run : OnBus σ Bus Reply) rig
  have restored : NoneRefused passage.back.journal.events →
      (withProfile profile body.run rig).state.bus.Rests rig.bus.active
        (rig.bus.configuration rig.bus.active) := by
    intro taken
    rw [parts.back] at taken
    rw [makes.state, parts.back, ← Bus.configuration_congr parts.turn_primary]
    exact switchTo_rests taken
  refine ⟨passage, parts, makes, ?_, restored, fun reply succeeded => restored ?_⟩
  · rw [ran, parts.entry]
    exact switchTo_ok_iff profile rig
  · have returned := ((makes.succeeded reply).mp succeeded).2.2
    rw [parts.back] at returned ⊢
    exact (switchTo_ok_iff _ _).mp returned

end Serial

end SensorCape
