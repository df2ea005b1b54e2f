/-
**The configuration that the device holds.**

The bus remembers the configuration it applied; the device holds the one it was last written, field
by field, where a refused write leaves a field as it was. The two agree at every moment of every
run, so an operation that switched its profile finds the device configured for it, whatever earlier
switches left behind half done.

* `Act.Suits`: the traffic of an act goes out under the configuration that belongs to it.
* `traffic_under_own_configuration`: **all traffic of every script does.**
-/

import SensorCape.Bench.Board
import SensorCape.Proofs.Serial.Session

set_option linter.unusedSectionVars false

namespace SensorCape.Serial

variable {σ : Type} [Devices σ]

/-! ### What the device holds -/

/-- The device's configuration after a call: a setting counts once its write succeeded. -/
def Configuration.taken (holding : Configuration) : Event → Configuration
  | .configure setting none => holding.apply setting
  | _ => holding

/-- What a device that held `initial` holds after some calls. -/
def held (initial : Configuration) (events : List Event) : Configuration :=
  events.foldl Configuration.taken initial

theorem held_append (initial : Configuration) (events others : List Event) :
    held initial (events ++ others) = held (held initial events) others :=
  List.foldl_append

/-- An opening leaves the device with the primary configuration, whatever it held before. -/
theorem held_openingCalls (initial primary : Configuration) :
    held initial (openingCalls primary) = primary := rfl

/-! ### Traffic under its own configuration -/

/-- The configuration for modules: mode 3, words of 8 bits, and the primary speed. -/
def moduleConfiguration (primary : Configuration) : Configuration := ⟨⟨3⟩, 8, primary.speed⟩

/-- The configuration that the exchanges of an operation belong to. -/
def Command.own (primary : Configuration) : Command → Configuration
  | .transfer _ => primary
  | _ => moduleConfiguration primary

/-- An exchange is one of an operation, made while the device holds the configuration that belongs
to the operation and with that configuration passed along; raw traffic is made while the device
holds the configuration for modules. -/
def Act.Suits (primary : Configuration) (act : Act) (holding : Configuration) : Event → Prop
  | .exchange _ under _ => ∃ command, act = .operation command ∧
      holding = command.own primary ∧ under = command.own primary
  | .write _ _ | .read _ _ => holding = moduleConfiguration primary
  | _ => True

/-- Follows what the device holds, and lets only traffic pass that suits an act. -/
def suiting (primary : Configuration) (act : Act) : Monitor Configuration :=
  ⟨Configuration.taken, fun _ => True, act.Suits primary⟩

variable {act : Act} {command : Command} {bus : Bus}

/-- The bus configures the device for modules under its secondary profile. -/
theorem configuration_secondary (bus : Bus) :
    bus.configuration .secondary = moduleConfiguration bus.primary := rfl

/-! ### Switches -/

/-- A switch keeps the device's configuration and the remembered one together. -/
theorem tracks_suiting (primary target : Configuration) :
    Tracks (suiting primary act) target (fun holding applied => holding = applied)
      (fun _ holding applied => holding = applied) where
  written _ _ setting _ same _ _ := ⟨trivial, congrArg (Configuration.apply · setting) same⟩
  refused _ _ _ _ _ same _ _ := ⟨trivial, same⟩

/-- After a switch the device holds what the bus remembers, also if the switch failed half-way. -/
theorem leads_switchTo_suiting {primary holding : Configuration} (profile : Profile)
    (knows : holding = bus.applied) :
    (suiting primary act).Leads holding bus (switchTo profile : OnBus σ Bus Unit)
      fun result holding after =>
        holding = after.applied ∧ after.primary = bus.primary ∧
          (result = .ok () → after = bus.switched profile) := by
  refine Monitor.leads_mono (leads_switchTo (tracks_suiting _ _) knows) ?_
  rintro (fault | _) holding after reached
  · obtain ⟨same, applied, rfl⟩ := reached
    exact ⟨same, rfl, nofun⟩
  · obtain ⟨same, rfl⟩ := reached
    exact ⟨same, rfl, fun _ => rfl⟩

/-! ### Work -/

/-- While the device holds a configuration, a body keeps it and what the bus remembers, and its
traffic suits an act. -/
def Carries {α : Type} (act : Act) (bus : Bus) (under : Configuration) (body : OnBus σ Bus α) :
    Prop :=
  (suiting bus.primary act).Leads under bus body
    fun _ holding after => holding = under ∧ after = bus

section Work

variable {α β : Type} {under : Configuration}

theorem carries_pure (value : α) : Carries act bus under (pure value : OnBus σ Bus α) :=
  Monitor.leads_pure ⟨rfl, rfl⟩

theorem carries_drive (line : Line) (how : Drive) :
    Carries act bus under (Rig.drive line how : OnBus σ Bus Unit) :=
  Monitor.leads_drive (fun _ => ⟨trivial, rfl, rfl⟩) fun _ _ => ⟨trivial, rfl, rfl⟩

theorem carries_bind {first : OnBus σ Bus α} {next : α → OnBus σ Bus β}
    (carries : Carries act bus under first) (follow : ∀ value, Carries act bus under (next value)) :
    Carries act bus under (first >>= next) := by
  refine Monitor.leads_bind (Monitor.leads_mono carries ?_)
  rintro (fault | value) holding after ⟨rfl, rfl⟩
  · exact ⟨rfl, rfl⟩
  · exact follow value

theorem carries_ensuring {body : OnBus σ Bus α} {cleanup : OnBus σ Bus Unit}
    (carries : Carries act bus under body) (follow : Carries act bus under cleanup) :
    Carries act bus under (Action.ensuring body cleanup) := by
  refine Monitor.leads_ensuring (Monitor.leads_mono carries ?_)
  rintro result holding after ⟨rfl, rfl⟩
  exact follow

/-- An exchange of an operation goes out under the configuration that the operation is after. -/
theorem carries_exchange {profile : Profile}
    (own : bus.configuration profile = command.own bus.primary) (sent : List UInt8) :
    Carries (.operation command) bus (bus.configuration profile)
      (exchange sent profile : OnBus σ Bus (List UInt8)) :=
  leads_exchange (fun _ _ => ⟨⟨command, rfl, own, own⟩, rfl, rfl⟩)
    fun _ _ => ⟨⟨command, rfl, own, own⟩, rfl, rfl⟩

theorem carries_writeRaw (data : List UInt8) :
    Carries act bus (bus.configuration .secondary) (writeRaw data : OnBus σ Bus Nat) :=
  leads_writeRaw fun _ _ => ⟨configuration_secondary bus, rfl, rfl⟩

theorem carries_readRaw (length : Nat) :
    Carries act bus (bus.configuration .secondary) (readRaw length : OnBus σ Bus (List UInt8)) :=
  leads_readRaw fun _ _ => ⟨configuration_secondary bus, rfl, rfl⟩

theorem carries_strobed (own : bus.configuration .secondary = command.own bus.primary)
    (sent : List UInt8) :
    Carries (.operation command) bus (bus.configuration .secondary)
      (strobed sent : OnBus σ Bus (List UInt8)) :=
  carries_bind (carries_drive _ _) fun _ =>
    carries_ensuring (carries_exchange own _) (carries_drive _ _)

theorem carries_chipSelected {body : OnBus σ Bus α} (carries : Carries act bus under body) :
    Carries act bus under (chipSelected body) :=
  carries_ensuring carries (carries_drive _ _)

/-- Once the device is configured for work, the traffic of the work suits its operation. -/
theorem Work.carries (work : Work)
    (own : bus.configuration work.profile = command.own bus.primary) :
    Carries (.operation command) bus (bus.configuration work.profile)
      (work.body : OnBus σ Bus work.Yield) := by
  cases work with
  | exchange sent => exact carries_exchange own _
  | strobed sent => exact carries_strobed own _
  | push address data =>
    exact carries_bind (carries_strobed own _) fun _ => carries_chipSelected <|
      carries_bind (carries_drive _ _) fun _ => carries_bind (carries_drive _ _) fun _ =>
        carries_bind (carries_drive _ _) fun _ => carries_writeRaw _
  | pull address =>
    exact carries_bind (carries_strobed own _) fun _ =>
      carries_bind (carries_chipSelected (carries_drive _ _)) fun _ =>
        carries_bind (carries_strobed own _) fun _ => carries_chipSelected <|
          carries_bind (carries_drive _ _) fun _ =>
            carries_bind (carries_readRaw _) fun _ => carries_pure _

/-- **Work under its profile, from any bus that knows what the device holds.** -/
theorem Work.leads_run_suiting (work : Work)
    (own : bus.configuration work.profile = command.own bus.primary) :
    (suiting bus.primary (.operation command)).Leads bus.applied bus
      (work.run : OnBus σ Bus work.Yield)
      fun _ holding after => holding = after.applied ∧ after.primary = bus.primary := by
  refine leads_withProfile (Monitor.leads_mono (leads_switchTo_suiting _ rfl) ?_)
  rintro (fault | _) holding inner ⟨knows, same, entered⟩
  · refine Monitor.leads_mono (leads_switchTo_suiting _ knows) ?_
    rintro restored holding after ⟨knows, still, -⟩
    exact ⟨knows, still.trans same⟩
  · obtain rfl := entered rfl
    have carries : Carries (.operation command) (bus.switched work.profile) holding
        (work.body : OnBus σ Bus work.Yield) := by
      have configured : holding = (bus.switched work.profile).configuration work.profile :=
        knows.trans (bus.switched_configuration _ _).symm
      rw [configured]
      exact work.carries ((bus.switched_configuration _ _).trans own)
    refine Monitor.leads_mono carries ?_
    rintro result _ _ ⟨rfl, rfl⟩
    refine Monitor.leads_mono (leads_switchTo_suiting _ knows) ?_
    rintro restored holding after ⟨knows, still, -⟩
    exact ⟨knows, still⟩

end Work

/-! ### Operations and stages -/

/-- Work is done under the configuration that its operation belongs to. -/
theorem Command.work_own {work : Work} (found : command.work? bus = some work) :
    bus.configuration work.profile = command.own bus.primary := by
  cases Command.comesTo found with
  | transfer data => rfl
  | transferSecondary data => rfl
  | select address intent => rfl
  | writeModule address data => rfl
  | readModule address => rfl
  | selectExtension code configured => rfl
  | parkExtension configured => rfl

/-- **What a stage does to the device.** Its traffic suits its act, and a bus that knew what the
device holds still knows it. -/
theorem Stage.suits (stage : Stage σ) {holding : Configuration}
    (knows : holding = stage.start.bus.applied) :
    (suiting stage.start.bus.primary stage.act).Admits holding stage.events ∧
      held holding stage.events = stage.finish.bus.applied ∧
      stage.finish.bus.primary = stage.start.bus.primary := by
  subst knows
  obtain ⟨act, rig⟩ := stage
  cases act with
  | switch profile =>
    have leads : (suiting rig.bus.primary (.switch profile)).Leads rig.bus.applied rig.bus
        (switchTo profile : OnBus σ Bus Unit) _ := leads_switchTo_suiting profile rfl
    have reached := Monitor.Leads.run rig.bus.applied rig leads fun _ _ => trivial
    rw [Stage.events_switch, Stage.finish_switch]
    exact ⟨reached.1, reached.2.1, reached.2.2.1⟩
  | operation command =>
    cases found : command.work? rig.bus with
    | none =>
      obtain ⟨silent, extension, ended⟩ := Command.run_idle found
      simp only [Stage.events, Stage.finish, Act.run, silent, ended, and_true]
      exact ⟨trivial, rfl⟩
    | some work =>
      obtain ⟨calls, ended⟩ := Command.run_calls found
      have reached := Monitor.Leads.run rig.bus.applied rig
        (work.leads_run_suiting (Command.work_own found)) fun _ _ => trivial
      simp only [Stage.events, Stage.finish, Act.run, calls, ended]
      exact ⟨reached.1, reached.2⟩

/-! ### Runs -/

variable {session : Session σ} {start : Rig σ Bus}

/-- Wherever a stage of a session begins, the bus remembers the primary configuration that it was
opened with, and what the device holds. -/
theorem Session.knows_held (opened : session.start? = some start) (initial : Configuration)
    {earlier later : List (Stage σ)} {stage : Stage σ}
    (split : session.stages start = earlier ++ stage :: later) :
    held initial (session.opening.journal.events ++ trace earlier) = stage.start.bus.applied ∧
      stage.start.bus.primary = session.primary := by
  obtain ⟨path, -⟩ := Script.run_stages session.script start
  rw [show session.script.stages start = _ from split] at path
  refine path.reach (fun gone rig =>
    held initial (session.opening.journal.events ++ trace gone) = rig.bus.applied ∧
      rig.bus.primary = session.primary) ⟨?_, ?_⟩ ?_
  · rw [Session.opening_events opened, Session.start_bus opened]
    exact held_openingCalls initial session.primary
  · rw [Session.start_bus opened]
    rfl
  · rintro gone stage - ⟨knows, same⟩
    obtain ⟨-, kept, still⟩ := stage.suits knows
    rw [trace, List.flatMap_append, ← List.append_assoc, held_append]
    simp only [List.flatMap_cons, List.flatMap_nil, List.append_nil]
    exact ⟨kept, still.trans same⟩

/-- **All traffic reaches the device under the configuration it belongs to**: in every script on
every bus that could be brought up, whichever calls fail. The calls of the run are those of its
stages, and each call of a stage suits the stage's act at what the device holds by then, which is
read off the calls before it. -/
theorem traffic_under_own_configuration (opened : session.start? = some start)
    (initial : Configuration) :
    (session.script.run start).journal.events = trace (session.stages start) ∧
      ∀ earlier stage later, session.stages start = earlier ++ stage :: later →
        ∀ before event after, stage.events = before ++ event :: after →
          stage.act.Suits session.primary
            (held initial (session.opening.journal.events ++ trace earlier ++ before)) event := by
  refine ⟨(Script.run_stages session.script start).2, ?_⟩
  intro earlier stage later split before event after calls
  obtain ⟨knows, same⟩ := Session.knows_held opened initial split
  obtain ⟨admitted, -⟩ := stage.suits rfl
  rw [calls, same] at admitted
  have suits := Monitor.admits_split admitted
  rw [held_append, knows]
  exact suits

/-- A session in which the second write of a word size is refused, and then the third write of a
mode, which was to undo the second. -/
def troubled : Session (Bench.Board Unit) where
  primary := ⟨⟨0⟩, 16, 500000⟩
  devices := (Bench.Board.fresh []).planned
    [⟨.wordSize, 1, .cause .timedOut⟩, ⟨.mode, 2, .cause .timedOut⟩]
  script :=
    .bracket .secondary (.step (.writeModule 3 [7]) false .finish) true <|
    .step (.transfer [1, 2]) true <|
    .bracket .secondary (.bracket .primary (.step (.readModule 3) false .finish) true .finish) true
      .finish

/-- The device of the troubled session is left in mode 3 with words of 16 bits, and still the
exchange that comes next suits its operation. -/
theorem troubled_traffic : ∃ start : Rig (Bench.Board Unit) Bus,
    troubled.start? = some start ∧
      (withProfile .secondary (Command.run (.writeModule 3 [7])) start).state.devices.held =
        ⟨⟨3⟩, 16, 500000⟩ ∧
      (troubled.script.run start).journal.events = trace (troubled.stages start) ∧
      ∀ earlier stage later, troubled.stages start = earlier ++ stage :: later →
        ∀ before event after, stage.events = before ++ event :: after →
          stage.act.Suits troubled.primary
            (held .standard (troubled.opening.journal.events ++ trace earlier ++ before)) event :=
  ⟨_, rfl, by decide, traffic_under_own_configuration rfl .standard⟩

end SensorCape.Serial
