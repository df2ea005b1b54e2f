/-
**What the bus remembers of the device.**

A switch writes its settings one by one and remembers each as soon as it is written, and it may end
anywhere in between. So that it can be said what the bus remembers whenever a call is made, a run is
walked in strides: a setting is settled, a profile entered, an address taken, or one call made that
nothing is remembered of. A stride makes at most one call, and makes it before it remembers
anything; where a stride begins is therefore where its call is about to be made.

* `Step.does`: what a stride can do. `Built.walks`: all that is built from the moves of the bus is
  walked in strides.
* `Bus.Knows`: the bus remembers what the device holds, which is made of the fields of its two
  configurations. `Stride.Does.keeps` — no stride gives that up, or writes a setting that is held.
* `remembered_is_held`: **so it is at every call and after every operation of every script.**
-/

import SensorCape.Proofs.Serial.Built
import SensorCape.Proofs.Serial.Phrases

set_option linter.unusedSectionVars false

namespace SensorCape.Serial

variable {σ : Type} [Devices σ]

/-! ### Strides -/

/-- Runs an action for what it does and not for its value. -/
def discarded {ε S α : Type} (body : Action ε S α) : Action ε S Unit := do
  let _ ← body
  pure ()

theorem discarded_apply {ε S α : Type} (body : Action ε S α) (state : S) :
    (discarded body state).journal.events = (body state).journal.events ∧
      (discarded body state).state = (body state).state := by
  simp only [discarded, Action.bind_apply]
  cases (body state).result with
  | ok value => simp
  | error fault => exact ⟨rfl, rfl⟩

/-- What the bus does at a time. -/
inductive Stride
  /-- A setting is written unless it is applied, and is then remembered. -/
  | settle (setting : Setting)
  | enter (profile : Profile)
  | assign (address : ModuleAddress)
  | drive (line : Line) (how : Drive)
  | exchange (sent : List UInt8) (profile : Profile)
  | write (data : List UInt8)
  | read (length : Nat)

/-- Runs a stride. -/
def Stride.run : Stride → OnBus σ Bus Unit
  | settle setting => Serial.settle setting
  | enter profile => Serial.enter profile
  | assign address => Rig.remember (Bus.withExtension address)
  | drive line how => Rig.drive line how
  | exchange sent profile => discarded (Serial.exchange sent profile)
  | write data => discarded (writeRaw data)
  | read length => discarded (readRaw length)

/-- A stride, and where it began. -/
structure Step (σ : Type) where
  stride : Stride
  start : Rig σ Bus

namespace Step

/-- The calls of a step. -/
def calls (step : Step σ) : List Event := (step.stride.run step.start).journal.events

/-- The rig after a step. -/
def finish (step : Step σ) : Rig σ Bus := (step.stride.run step.start).state

end Step

/-! ### What a stride can do -/

/-- What a stride can come to on a bus: its calls, and the bus after it. -/
inductive Stride.Does (bus : Bus) : Stride → List Event → Bus → Prop
  | held {setting : Setting} : Does bus (.settle setting) [] bus
  | written {setting : Setting} (missing : bus.applied.holds setting = false) :
      Does bus (.settle setting) [.configure setting none] (bus.wrote setting)
  | refused {setting : Setting} {cause : Cause} (missing : bus.applied.holds setting = false) :
      Does bus (.settle setting) [.configure setting (some cause)] bus
  /-- Nothing is called, and the configurations stay. -/
  | silent {stride : Stride} {after : Bus} (applied : after.applied = bus.applied)
      (primary : after.primary = bus.primary) : Does bus stride [] after
  /-- One call is made that writes no setting, and nothing is remembered. -/
  | called {stride : Stride} {call : Event} (unwritten : call.isSetting = false) :
      Does bus stride [call] bus

theorem settle_does (setting : Setting) (rig : Rig σ Bus) :
    (Stride.settle setting).Does rig.bus (settle setting rig).journal.events
      (settle setting rig).state.bus := by
  by_cases applied : rig.bus.applied.holds setting = true
  · simp only [settle, Action.bind_apply, Rig.memory, applied, if_true]
    exact .held
  · have missing : rig.bus.applied.holds setting = false := Bool.eq_false_iff.mpr applied
    simp only [settle, Action.bind_apply, Rig.memory, missing, Bool.false_eq_true, if_false,
      writeSetting, Rig.command, Rig.call, Event.fault?]
    cases (Devices.configure setting rig.devices).1 with
    | none => exact .written missing
    | some cause => exact .refused missing

/-- **What a step can do.** -/
theorem Step.does (step : Step σ) :
    step.stride.Does step.start.bus step.calls step.finish.bus := by
  obtain ⟨stride, rig⟩ := step
  cases stride with
  | settle setting => exact settle_does setting rig
  | enter profile =>
    simp only [calls, finish, Stride.run, enter, Action.bind_apply, Rig.memory]
    by_cases active : rig.bus.active = profile
    · simp only [active, if_true]
      exact .silent rfl rfl
    · simp only [active, if_false]
      exact .silent rfl rfl
  | assign address => exact .silent rfl rfl
  | drive line how =>
    obtain ⟨failure, made, -⟩ := drive_calls line how rig
    simp only [calls, finish, Stride.run, made, steady_drive line how rig]
    exact .called rfl
  | exchange sent profile =>
    obtain ⟨under, failure, made⟩ := exchange_calls sent profile rig
    obtain ⟨same, ended⟩ := discarded_apply (Serial.exchange sent profile) rig
    simp only [calls, finish, Stride.run, same, made, ended, steady_exchange sent profile rig]
    exact .called rfl
  | write data =>
    obtain ⟨same, ended⟩ := discarded_apply (writeRaw data) rig
    have made : (writeRaw data rig).journal.events =
        [.write data (Devices.write data rig.devices).1] := by
      simp only [writeRaw, Action.bind_apply, Rig.call]
      cases checkWritten data.length (Devices.write data rig.devices).1 <;> rfl
    have kept : (writeRaw data rig).state.bus = rig.bus :=
      steady_bind (fun _ => rfl) (fun _ => steady_ofExcept _) rig
    simp only [calls, finish, Stride.run, same, ended, made, kept]
    exact .called rfl
  | read length =>
    obtain ⟨same, ended⟩ := discarded_apply (readRaw length) rig
    have made : (readRaw length rig).journal.events =
        [.read length (Devices.read length rig.devices).1.count] := by
      simp only [readRaw, Action.bind_apply, Rig.call]
      cases checkRead length (Devices.read length rig.devices).1.count <;> rfl
    have kept : (readRaw length rig).state.bus = rig.bus :=
      steady_bind (fun _ => rfl)
        (fun _ => steady_bind (steady_ofExcept _) fun _ => steady_pure _) rig
    simp only [calls, finish, Stride.run, same, ended, made, kept]
    exact .called rfl

theorem Stride.Does.length_calls {bus after : Bus} {stride : Stride} {calls : List Event}
    (does : stride.Does bus calls after) : calls.length ≤ 1 := by
  cases does <;> simp

theorem Stride.Does.primary {bus after : Bus} {stride : Stride} {calls : List Event}
    (does : stride.Does bus calls after) : after.primary = bus.primary := by
  cases does with
  | silent _ primary => exact primary
  | _ => rfl

/-! ### Walks -/

/-- Some steps lead from a rig to a rig, and these are their calls. -/
abbrev Walked (rig : Rig σ Bus) (walk : List (Step σ)) (events : List Event) (last : Rig σ Bus) :
    Prop :=
  Course Step.start Step.finish Step.calls rig walk events last

/-- A setting belongs to one of the two configurations of a bus. -/
def Configuration.Wants (primary : Configuration) (setting : Setting) : Prop :=
  setting ∈ primary.settings ∨ setting ∈ primary.secondary.settings

/-- The strides that a bus with a primary configuration takes settle no other settings. -/
def Stride.Due (primary : Configuration) : Stride → Prop
  | settle setting => primary.Wants setting
  | _ => True

/-- On every bus with a primary configuration, an action is walked in strides. -/
def Walks {α : Type} (primary : Configuration) (body : OnBus σ Bus α) : Prop :=
  ∀ rig : Rig σ Bus, rig.bus.primary = primary → ∃ walk : List (Step σ),
    (∀ step ∈ walk, step.stride.Due primary) ∧
      Walked rig walk (body rig).journal.events (body rig).state

section Walking

variable {α β : Type} {primary : Configuration}

theorem walked_primary {rig last : Rig σ Bus} {walk : List (Step σ)} {events : List Event}
    (walked : Walked rig walk events last) : last.bus.primary = rig.bus.primary :=
  walked.1.arrive (fun after => after.bus.primary = rig.bus.primary) rfl
    fun step _ same => step.does.primary.trans same

theorem walks_quiet {body : OnBus σ Bus α} (quiet : Quiet body) : Walks primary body := by
  intro rig _
  rw [(quiet rig).1, (quiet rig).2]
  exact ⟨[], fun _ member => absurd member List.not_mem_nil, course_nil rig⟩

theorem walks_stride (stride : Stride) {body : OnBus σ Bus α} (due : stride.Due primary)
    (same : ∀ rig, (stride.run rig).journal.events = (body rig).journal.events ∧
      (stride.run rig).state = (body rig).state) : Walks primary body := by
  intro rig _
  rw [← (same rig).1, ← (same rig).2]
  exact ⟨[⟨stride, rig⟩], List.forall_mem_singleton.mpr due,
    course_single (⟨stride, rig⟩ : Step σ)⟩

theorem walks_bind {first : OnBus σ Bus α} {next : α → OnBus σ Bus β}
    (walks : Walks primary first) (follow : ∀ value, Walks primary (next value)) :
    Walks primary (first >>= next) := by
  intro rig same
  obtain ⟨walk, due, walked⟩ := walks rig same
  rw [Action.bind_apply]
  cases (first rig).result with
  | error fault => exact ⟨walk, due, walked⟩
  | ok value =>
    obtain ⟨others, also, further⟩ := follow value _ ((walked_primary walked).trans same)
    exact ⟨walk ++ others, List.forall_mem_append.mpr ⟨due, also⟩, walked.append further⟩

theorem walks_ensuring {body : OnBus σ Bus α} {cleanup : OnBus σ Bus Unit}
    (walks : Walks primary body) (follow : Walks primary cleanup) :
    Walks primary (Action.ensuring body cleanup) := by
  intro rig same
  obtain ⟨walk, due, walked⟩ := walks rig same
  obtain ⟨others, also, further⟩ := follow _ ((walked_primary walked).trans same)
  exact ⟨walk ++ others, List.forall_mem_append.mpr ⟨due, also⟩, walked.append further⟩

theorem walks_settleAll (settings : List Setting)
    (due : ∀ setting ∈ settings, primary.Wants setting) :
    Walks primary (settleAll settings : OnBus σ Bus Unit) := by
  induction settings with
  | nil => exact walks_quiet (quiet_pure ())
  | cons setting rest ih =>
    obtain ⟨first, others⟩ := List.forall_mem_cons.mp due
    exact walks_bind (walks_stride (.settle setting) first fun _ => ⟨rfl, rfl⟩)
      fun _ => ih others

theorem walks_switchTo (profile : Profile) :
    Walks primary (switchTo profile : OnBus σ Bus Unit) := by
  rintro rig rfl
  have due : ∀ setting ∈ (rig.bus.configuration profile).settings,
      rig.bus.primary.Wants setting := by
    intro setting member
    cases profile with
    | primary => exact .inl member
    | secondary => exact .inr member
  exact walks_bind (walks_settleAll _ due)
    (fun _ => walks_stride (.enter profile) trivial fun _ => ⟨rfl, rfl⟩) rig rfl

/-- **All that is built from the moves of the bus is walked in strides.** -/
theorem Built.walks {may : Fault → Prop} {body : OnBus σ Bus α} (built : Built may body) :
    Walks primary body := by
  induction built with
  | pure value => exact walks_quiet (quiet_pure value)
  | fail allowed => exact walks_quiet fun _ => ⟨rfl, rfl⟩
  | note severity text => exact walks_quiet fun _ => ⟨rfl, rfl⟩
  | memory => exact walks_quiet fun _ => ⟨rfl, rfl⟩
  | assign address => exact walks_stride (.assign address) trivial fun _ => ⟨rfl, rfl⟩
  | switchTo profile => exact walks_switchTo profile
  | drive line how => exact walks_stride (.drive line how) trivial fun _ => ⟨rfl, rfl⟩
  | exchange sent profile =>
    exact walks_stride (.exchange sent profile) trivial (discarded_apply _)
  | writeRaw data => exact walks_stride (.write data) trivial (discarded_apply _)
  | readRaw length => exact walks_stride (.read length) trivial (discarded_apply _)
  | bind _ _ headIh restIh => exact walks_bind headIh restIh
  | ensuring _ _ innerIh afterIh => exact walks_ensuring innerIh afterIh

theorem Act.walks (act : Act) : Walks primary (act.run : OnBus σ Bus Reply) := by
  cases act with
  | operation command => exact command.built.walks
  | switch profile => exact walks_bind (walks_switchTo profile) fun _ => walks_quiet (quiet_pure _)

end Walking

/-! ### What the bus knows -/

/-- A configuration is made of the fields of a bus's two configurations, which have one speed. -/
structure Configuration.Mixes (holding primary : Configuration) : Prop where
  mode : holding.mode = primary.mode ∨ holding.mode = primary.secondary.mode
  wordSize : holding.wordSize = primary.wordSize ∨ holding.wordSize = primary.secondary.wordSize
  speed : holding.speed = primary.speed

/-- A bus remembers the configuration that the device holds, which is made of its own two, and these
are what they were when it was opened. -/
structure Bus.Knows (bus : Bus) (primary holding : Configuration) : Prop where
  applied : bus.applied = holding
  mixes : holding.Mixes primary
  profiles : ∀ profile, bus.configuration profile = (Bus.fresh primary).configuration profile

section Knowing

variable {primary holding : Configuration} {setting : Setting}

theorem Bus.knows_fresh (primary : Configuration) : (Bus.fresh primary).Knows primary primary :=
  ⟨rfl, ⟨.inl rfl, .inl rfl, rfl⟩, fun _ => rfl⟩

theorem Configuration.Wants.cases (wants : primary.Wants setting) :
    setting = .mode primary.mode ∨ setting = .mode primary.secondary.mode ∨
      setting = .wordSize primary.wordSize ∨ setting = .wordSize primary.secondary.wordSize ∨
        setting = .speed primary.speed := by
  have one : primary.secondary.speed = primary.speed := rfl
  simp only [Wants, settings, List.mem_cons, List.not_mem_nil, or_false, one] at wants
  rcases wants with (rfl | rfl | rfl) | rfl | rfl | rfl <;> simp

theorem Configuration.Mixes.apply (mixes : holding.Mixes primary) (wants : primary.Wants setting) :
    (holding.apply setting).Mixes primary := by
  rcases wants.cases with rfl | rfl | rfl | rfl | rfl
  · exact ⟨.inl rfl, mixes.wordSize, mixes.speed⟩
  · exact ⟨.inr rfl, mixes.wordSize, mixes.speed⟩
  · exact ⟨mixes.mode, .inl rfl, mixes.speed⟩
  · exact ⟨mixes.mode, .inr rfl, mixes.speed⟩
  · exact ⟨mixes.mode, mixes.wordSize, rfl⟩

/-- The speed is held all along, so no setting that is missing is a speed. -/
theorem Configuration.Mixes.not_speed (mixes : holding.Mixes primary)
    (wants : primary.Wants setting) (missing : holding.holds setting = false) (hertz : UInt32) :
    setting ≠ .speed hertz := by
  rintro rfl
  have same : hertz = primary.speed := by
    rcases wants.cases with other | other | other | other | speed
    · cases other
    · cases other
    · cases other
    · cases other
    · exact Setting.speed.inj speed
  rw [same, ← mixes.speed] at missing
  simp [Configuration.holds] at missing

/-- A setting that a call writes belongs to the bus. -/
def Wanted (primary : Configuration) : Event → Prop
  | .configure setting _ => primary.Wants setting
  | _ => True

/-- A setting that a call writes is not held, and it is no speed. -/
def Needed (holding : Configuration) : Event → Prop
  | .configure setting _ => holding.holds setting = false ∧ ∀ hertz, setting ≠ .speed hertz
  | _ => True

variable {bus after : Bus} {stride : Stride} {calls : List Event}

theorem Stride.Does.wanted (does : stride.Does bus calls after) (due : stride.Due primary) :
    ∀ call ∈ calls, Wanted primary call := by
  cases does with
  | written _ => exact List.forall_mem_singleton.mpr due
  | refused _ => exact List.forall_mem_singleton.mpr due
  | @called _ call unwritten =>
    cases call with
    | configure setting failure => cases unwritten
    | _ => exact List.forall_mem_singleton.mpr trivial
  | _ => exact fun _ member => absurd member List.not_mem_nil

/-- **What a stride does to what the bus knows.** -/
theorem Stride.Does.keeps (does : stride.Does bus calls after)
    (wanted : ∀ call ∈ calls, Wanted primary call) (knows : bus.Knows primary holding) :
    after.Knows primary (Serial.held holding calls) ∧ ∀ call ∈ calls, Needed holding call := by
  obtain ⟨applied, mixes, profiles⟩ := knows
  cases does with
  | held => exact ⟨⟨applied, mixes, profiles⟩, fun _ member => absurd member List.not_mem_nil⟩
  | @written setting missing =>
    have wants : primary.Wants setting := wanted _ List.mem_cons_self
    rw [applied] at missing
    refine ⟨⟨congrArg (Configuration.apply · setting) applied, mixes.apply wants, profiles⟩, ?_⟩
    exact List.forall_mem_singleton.mpr ⟨missing, mixes.not_speed wants missing⟩
  | @refused setting cause missing =>
    have wants : primary.Wants setting := wanted _ List.mem_cons_self
    rw [applied] at missing
    exact ⟨⟨applied, mixes, profiles⟩,
      List.forall_mem_singleton.mpr ⟨missing, mixes.not_speed wants missing⟩⟩
  | silent same primary =>
    exact ⟨⟨same.trans applied, mixes, fun profile =>
      (Bus.configuration_congr primary profile).trans (profiles profile)⟩,
      fun _ member => absurd member List.not_mem_nil⟩
  | @called _ call unwritten =>
    cases call with
    | configure setting failure => cases unwritten
    | _ => exact ⟨⟨applied, mixes, profiles⟩, List.forall_mem_singleton.mpr trivial⟩

/-- **A walk on a bus that knows what the device holds**, step by step. -/
theorem walked_keeps {rig last : Rig σ Bus} {walk : List (Step σ)} {events : List Event}
    (walked : Walked rig walk events last) (wanted : ∀ call ∈ events, Wanted primary call)
    (knows : rig.bus.Knows primary holding) :
    last.bus.Knows primary (Serial.held holding events) ∧
      ∀ before step after, walk = before ++ step :: after →
        step.start.bus.Knows primary (Serial.held holding (before.flatMap Step.calls)) ∧
          ∀ call ∈ step.calls, Needed (Serial.held holding (before.flatMap Step.calls)) call := by
  obtain ⟨path, rfl⟩ := walked
  have own : ∀ step ∈ walk, ∀ call ∈ step.calls, Wanted primary call := fun step member call made =>
    wanted call (List.mem_flatMap.mpr ⟨step, member, made⟩)
  have kept : ∀ gone step, step ∈ walk →
      step.start.bus.Knows primary (Serial.held holding (gone.flatMap Step.calls)) →
        step.finish.bus.Knows primary
          (Serial.held holding ((gone ++ [step]).flatMap Step.calls)) := by
    intro gone step member known
    rw [List.flatMap_append, held_append, List.flatMap_singleton]
    exact (step.does.keeps (own step member) known).1
  refine ⟨path.gather
    (fun gone rig => rig.bus.Knows primary (Serial.held holding (gone.flatMap Step.calls)))
    knows kept, ?_⟩
  rintro before step after rfl
  have known := path.reach
    (fun gone rig => rig.bus.Knows primary (Serial.held holding (gone.flatMap Step.calls)))
    knows fun gone passed member => kept gone passed (List.mem_append_left _ member)
  exact ⟨known, (step.does.keeps (own step (by simp)) known).2⟩

/-- A stage is walked in strides, and the settings that its calls write belong to the bus. -/
theorem Stage.walked (stage : Stage σ) (same : stage.start.bus.primary = primary) :
    (∃ walk, Walked stage.start walk stage.events stage.finish) ∧
      ∀ call ∈ stage.events, Wanted primary call := by
  obtain ⟨walk, due, walked⟩ := stage.act.walks stage.start same
  refine ⟨⟨walk, walked⟩, fun call made => ?_⟩
  rw [show stage.events = walk.flatMap Step.calls from walked.2] at made
  obtain ⟨step, member, called⟩ := List.mem_flatMap.mp made
  exact step.does.wanted (due step member) call called

end Knowing

/-! ### Runs -/

section Runs

variable {session : Session σ} {start : Rig σ Bus}

/-- Wherever a stage of a session begins, the bus knows what the device holds. -/
theorem Session.knows (opened : session.start? = some start) (initial : Configuration)
    {earlier later : List (Stage σ)} {stage : Stage σ}
    (split : session.stages start = earlier ++ stage :: later) :
    stage.start.bus.Knows session.primary
      (held initial (session.opening.journal.events ++ trace earlier)) := by
  obtain ⟨path, -⟩ := Script.run_stages session.script start
  rw [show session.script.stages start = _ from split] at path
  refine path.reach (fun gone rig => rig.bus.Knows session.primary
    (held initial (session.opening.journal.events ++ trace gone))) ?_ ?_
  · rw [Session.opening_events opened, Session.start_bus opened]
    exact Bus.knows_fresh session.primary
  · intro gone passed _ knows
    rw [trace, List.flatMap_append, ← List.append_assoc, held_append, List.flatMap_singleton]
    obtain ⟨⟨walk, walked⟩, wanted⟩ := passed.walked (knows.profiles .primary)
    exact (walked_keeps walked wanted knows).1

/-- **The bus remembers what the device holds**, in every script on every bus that could be brought
up, whichever calls fail: wherever a stage begins or ends, and wherever a step of it begins, in
whatever steps it is walked, so whenever a call is about to be made. What the device holds is made of
the fields of the two configurations, which never change. No call writes a setting that the device
holds already, nor ever a speed. -/
theorem remembered_is_held (opened : session.start? = some start) (initial : Configuration) :
    (session.script.run start).journal.events = trace (session.stages start) ∧
      (∀ earlier stage later, session.stages start = earlier ++ stage :: later →
        let gone := session.opening.journal.events ++ trace earlier
        stage.start.bus.Knows session.primary (held initial gone) ∧
          stage.finish.bus.Knows session.primary (held initial (gone ++ stage.events)) ∧
          (∃ walk, Walked stage.start walk stage.events stage.finish) ∧
          ∀ walk, Walked stage.start walk stage.events stage.finish →
            ∀ before step after, walk = before ++ step :: after →
              step.calls.length ≤ 1 ∧ step.start.bus.Knows session.primary
                (held initial (gone ++ before.flatMap Step.calls))) ∧
      ∀ before setting failure after, (session.script.run start).journal.events =
        before ++ .configure setting failure :: after →
          (held initial (session.opening.journal.events ++ before)).holds setting = false ∧
            ∀ hertz, setting ≠ .speed hertz := by
  have calls : (session.script.run start).journal.events = trace (session.stages start) :=
    (Script.run_stages session.script start).2
  refine ⟨calls, ?_, ?_⟩
  · intro earlier stage later split gone
    have knows := Session.knows opened initial split
    obtain ⟨⟨walk, walked⟩, wanted⟩ := stage.walked (knows.profiles .primary)
    refine ⟨knows, ?_, ⟨walk, walked⟩, ?_⟩
    · rw [held_append]
      exact (walked_keeps walked wanted knows).1
    · intro other also before step after parts
      rw [held_append]
      exact ⟨step.does.length_calls, ((walked_keeps also wanted knows).2 before step after parts).1⟩
  · intro before setting failure after made
    rw [calls] at made
    obtain ⟨earlier, stage, later, inside, rest, split, called, rfl, -⟩ := trace_split made
    have knows := Session.knows opened initial split
    obtain ⟨⟨walk, walked⟩, wanted⟩ := stage.walked (knows.profiles .primary)
    rw [show stage.events = walk.flatMap Step.calls from walked.2] at called
    obtain ⟨gone, step, further, begun, ended, parts, single, rfl, -⟩ := flatMap_split called
    have nothing : begun = [] := by
      have one := step.does.length_calls
      rw [single, List.length_append, List.length_cons] at one
      exact List.eq_nil_of_length_eq_zero (by omega)
    have member : .configure setting failure ∈ step.calls := by
      rw [single]
      exact List.mem_append_right _ List.mem_cons_self
    rw [nothing, List.append_nil, ← List.append_assoc, held_append]
    exact ((walked_keeps walked wanted knows).2 gone step further parts).2 _ member

/-- In a troubled session the way back of the first bracket is refused, and the exchange after it
begins with the device in mode 3 and words of 16 bits. The bus knows that, and every step of the
exchange begins with a bus that knows what the device holds by then. -/
theorem troubled_remembered : ∃ start : Rig (Bench.Board Unit) Bus,
    troubled.start? = some start ∧
      ∃ earlier stage later, troubled.stages start = earlier ++ stage :: later ∧
        stage.act = .operation (.transfer [1, 2]) ∧
        stage.start.bus.applied = ⟨⟨3⟩, 16, 500000⟩ ∧
        ∃ walk, Walked stage.start walk stage.events stage.finish ∧
          ∀ before step after, walk = before ++ step :: after →
            step.start.bus.Knows troubled.primary (held .standard
              (troubled.opening.journal.events ++ trace earlier ++ before.flatMap Step.calls)) := by
  obtain ⟨-, known, -⟩ := remembered_is_held (show troubled.start? = some _ from rfl) .standard
  refine ⟨_, rfl, _, _, _, rfl, rfl, by decide, ?_⟩
  obtain ⟨-, -, ⟨walk, walked⟩, steps⟩ := known _ _ _ rfl
  exact ⟨walk, walked, fun before step after parts => (steps walk walked before step after parts).2⟩

end Runs

end SensorCape.Serial
