/-
**The phrases of the bus.**

The calls of a stage come in phrases: a setting is written, bytes are exchanged as they are, bytes
are exchanged between the two edges of the strobe, or chip-select is driven for a raw call and
raised in the end. A failed call can end a stage early, but never in the middle of a phrase.

* `Phrase.calls`: the calls of a phrase.
* `Comprises`: the calls of an action are those of some phrases, one after the other.
* `Stage.phrases`: **every stage is a sequence of phrases of the kinds that belong to its act.**
-/

import SensorCape.Proofs.Serial.RoundTrip

set_option linter.unusedSectionVars false

namespace SensorCape.Serial

/-! ### Phrases -/

/-- What happens to a module that chip-select is being driven for. -/
inductive Touch
  | drive (how : Drive) (failure : Option Fault)
  | write (data : List UInt8) (count : Count)
  | read (length : Nat) (count : Count)

/-- The call of a touch. -/
def Touch.call : Touch → Event
  | drive how failure => .drive .chipSelect how failure
  | write data count => .write data count
  | read length count => .read length count

/-- Calls that belong together. -/
inductive Phrase
  | setting (written : Setting) (failure : Option Cause)
  /-- Bytes are exchanged without a frame. -/
  | plain (sent : List UInt8) (under : Configuration) (failure : Option Cause)
  /-- The strobe could not be lowered. -/
  | unframed (fault : Fault)
  /-- The strobe falls, bytes are exchanged, and the strobe is raised. -/
  | framed (sent : List UInt8) (under : Configuration) (failure : Option Cause)
      (raised : Option Fault)
  /-- A module is touched, and chip-select is raised. -/
  | selected (touches : List Touch) (raised : Option Fault)

/-- The calls of a phrase. -/
def Phrase.calls : Phrase → List Event
  | setting written failure => [.configure written failure]
  | plain sent under failure => [.exchange sent under failure]
  | unframed fault => [.drive .strobe .low (some fault)]
  | framed sent under failure raised =>
    [.drive .strobe .low none, .exchange sent under failure, .drive .strobe .high raised]
  | selected touches raised => touches.map Touch.call ++ [.drive .chipSelect .high raised]

theorem Phrase.mem_selected {touches : List Touch} {raised : Option Fault} {event : Event}
    (member : event ∈ (Phrase.selected touches raised).calls) :
    (∃ touch : Touch, event = touch.call) ∨ event = .drive .chipSelect .high raised := by
  rcases List.mem_append.mp member with touched | last
  · obtain ⟨touch, -, rfl⟩ := List.mem_map.mp touched
    exact .inl ⟨touch, rfl⟩
  · exact .inr (List.mem_singleton.mp last)

/-! ### Actions made of parts -/

section Comprising

variable {ι σ τ α β : Type} {calls : ι → List Event} {allowed weaker : ι → Prop}

/-- The calls of an action are those of some parts, all of them allowed. -/
def Comprises (calls : ι → List Event) (allowed : ι → Prop) (body : OnBus σ τ α) : Prop :=
  ∀ rig, ∃ parts : List ι, (∀ part ∈ parts, allowed part) ∧
    (body rig).journal.events = parts.flatMap calls

theorem comprises_quiet {body : OnBus σ τ α} (quiet : ∀ rig, (body rig).journal.events = []) :
    Comprises calls allowed body := fun rig =>
  ⟨[], fun _ member => absurd member List.not_mem_nil, quiet rig⟩

theorem comprises_ofExcept (result : Except Fault α) :
    Comprises calls allowed (Action.ofExcept result : OnBus σ τ α) := by
  refine comprises_quiet fun rig => ?_
  cases result with
  | ok value => rfl
  | error fault => rfl

theorem comprises_single {body : OnBus σ τ α}
    (single : ∀ rig, ∃ part, allowed part ∧ (body rig).journal.events = calls part) :
    Comprises calls allowed body := by
  intro rig
  obtain ⟨part, allows, made⟩ := single rig
  refine ⟨[part], List.forall_mem_singleton.mpr allows, ?_⟩
  rw [made, List.flatMap_singleton]

theorem comprises_mono {body : OnBus σ τ α} (comprises : Comprises calls allowed body)
    (weaken : ∀ part, allowed part → weaker part) : Comprises calls weaker body := by
  intro rig
  obtain ⟨parts, allows, made⟩ := comprises rig
  exact ⟨parts, fun part member => weaken part (allows part member), made⟩

theorem comprises_bind {first : OnBus σ τ α} {next : α → OnBus σ τ β}
    (comprises : Comprises calls allowed first)
    (follow : ∀ value, Comprises calls allowed (next value)) :
    Comprises calls allowed (first >>= next) := by
  intro rig
  obtain ⟨parts, allows, made⟩ := comprises rig
  rw [Action.bind_apply]
  cases (first rig).result with
  | error fault => exact ⟨parts, allows, made⟩
  | ok value =>
    obtain ⟨others, also, more⟩ := follow value (first rig).state
    refine ⟨parts ++ others, List.forall_mem_append.mpr ⟨allows, also⟩, ?_⟩
    rw [Journal.events_append, made, more, List.flatMap_append]

theorem comprises_ensuring {body : OnBus σ τ α} {cleanup : OnBus σ τ Unit}
    (comprises : Comprises calls allowed body) (follow : Comprises calls allowed cleanup) :
    Comprises calls allowed (Action.ensuring body cleanup) := by
  intro rig
  obtain ⟨parts, allows, made⟩ := comprises rig
  obtain ⟨others, also, more⟩ := follow (body rig).state
  refine ⟨parts ++ others, List.forall_mem_append.mpr ⟨allows, also⟩, ?_⟩
  simp only [Action.ensuring, Journal.events_append, made, more, List.flatMap_append]

/-- All calls of an action are allowed. -/
abbrev Makes (allowed : Event → Prop) (body : OnBus σ τ α) : Prop :=
  Comprises (fun event => [event]) allowed body

theorem makes_iff {allowed : Event → Prop} {body : OnBus σ τ α} :
    Makes allowed body ↔ ∀ rig, ∀ event ∈ (body rig).journal.events, allowed event := by
  constructor
  · intro makes rig event member
    obtain ⟨events, allows, made⟩ := makes rig
    rw [made, List.flatMap_singleton'] at member
    exact allows event member
  · intro all rig
    exact ⟨(body rig).journal.events, all rig, (List.flatMap_singleton' _).symm⟩

/-- The calls of an action are those of its parts. -/
theorem Comprises.makes {kind : Event → Prop} {body : OnBus σ τ α}
    (comprises : Comprises calls allowed body)
    (each : ∀ part, allowed part → ∀ event ∈ calls part, kind event) : Makes kind body := by
  refine makes_iff.mpr fun rig event member => ?_
  obtain ⟨parts, allows, made⟩ := comprises rig
  rw [made] at member
  obtain ⟨part, among, called⟩ := List.mem_flatMap.mp member
  exact each part (allows part among) event called

end Comprising

variable {σ α : Type} [Devices σ]

/-! ### Single calls -/

/-- Driving a line is one call, and fails exactly if the call does. -/
theorem drive_calls {τ : Type} (line : Line) (how : Drive) (rig : Rig σ τ) :
    ∃ failure, (Rig.drive line how rig).journal.events = [.drive line how failure] ∧
      (Rig.drive line how rig).result = failure.elim (.ok ()) .error := by
  refine ⟨(Devices.drive line how rig.devices).1, ?_⟩
  simp only [Rig.drive, Rig.command, Action.bind_apply, Rig.call, Event.fault?]
  cases (Devices.drive line how rig.devices).1 with
  | none => exact ⟨rfl, rfl⟩
  | some fault => exact ⟨rfl, rfl⟩

/-- An exchange is one call. -/
theorem exchange_calls (sent : List UInt8) (profile : Profile) (rig : Rig σ Bus) :
    ∃ under failure, (exchange sent profile rig).journal.events =
      [.exchange sent under failure] := by
  refine ⟨rig.bus.configuration profile, ?_⟩
  simp only [exchange, exchange.exchangeCall, Action.bind_apply, Rig.memory, Rig.call]
  cases (Devices.exchange sent (rig.bus.configuration profile) rig.devices).1 with
  | ok received => exact ⟨none, rfl⟩
  | error cause => exact ⟨some cause, rfl⟩

/-! ### Touches -/

/-- The calls of an action touch a module. -/
def Touches (body : OnBus σ Bus α) : Prop :=
  Comprises (fun touch : Touch => [touch.call]) (fun _ => True) body

theorem touches_drive (how : Drive) :
    Touches (Rig.drive .chipSelect how : OnBus σ Bus Unit) := by
  refine comprises_single fun rig => ?_
  obtain ⟨failure, made, -⟩ := drive_calls .chipSelect how rig
  exact ⟨.drive how failure, trivial, made⟩

theorem touches_writeRaw (data : List UInt8) : Touches (writeRaw data : OnBus σ Bus Nat) :=
  comprises_bind
    (comprises_single fun rig => ⟨.write data (Devices.write data rig.devices).1, trivial, rfl⟩)
    fun _ => comprises_ofExcept _

theorem touches_readRaw (length : Nat) :
    Touches (readRaw length : OnBus σ Bus (List UInt8)) :=
  comprises_bind
    (comprises_single fun rig =>
      ⟨.read length (Devices.read length rig.devices).1.count, trivial, rfl⟩)
    fun _ => comprises_bind (comprises_ofExcept _) fun _ => comprises_quiet fun _ => rfl

/-! ### The phrases of work -/

/-- A phrase of work under a profile: plain exchanges are for the primary profile, frames and
modules for the secondary one, and no setting is written. -/
def Profile.Speaks (profile : Profile) : Phrase → Prop
  | .setting _ _ => False
  | .plain _ _ _ => profile = .primary
  | .unframed _ | .framed _ _ _ _ | .selected _ _ => profile = .secondary

/-- Whatever fails, the calls between the edges of the strobe are one exchange. -/
theorem comprises_strobed (sent : List UInt8) :
    Comprises Phrase.calls Profile.secondary.Speaks (strobed sent : OnBus σ Bus (List UInt8)) := by
  refine comprises_single fun rig => ?_
  obtain ⟨failure, lowered, ended⟩ := drive_calls .strobe .low rig
  rw [strobed, Action.bind_apply, ended]
  cases failure with
  | some fault => exact ⟨.unframed fault, rfl, lowered⟩
  | none =>
    obtain ⟨under, failure, exchanged⟩ :=
      exchange_calls sent .secondary (Rig.drive .strobe .low rig).state
    obtain ⟨raised, last, -⟩ := drive_calls .strobe .high
      (exchange sent .secondary (Rig.drive .strobe .low rig).state).state
    refine ⟨.framed sent under failure raised, rfl, ?_⟩
    simp only [Option.elim, Action.ensuring, Journal.events_append, lowered, exchanged, last]
    rfl

/-- Whatever fails, chip-select is raised after a module was touched. -/
theorem comprises_chipSelected {body : OnBus σ Bus α} (touches : Touches body) :
    Comprises Phrase.calls Profile.secondary.Speaks (chipSelected body) := by
  refine comprises_single fun rig => ?_
  obtain ⟨parts, -, made⟩ := touches rig
  obtain ⟨raised, last, -⟩ := drive_calls .chipSelect .high (body rig).state
  refine ⟨.selected parts raised, rfl, ?_⟩
  simp only [chipSelected, Action.ensuring, Journal.events_append, made, last]
  rw [Phrase.calls, List.map_eq_flatMap]

/-- **Work is a sequence of phrases of its profile.** -/
theorem Work.phrases (work : Work) :
    Comprises Phrase.calls work.profile.Speaks (work.body : OnBus σ Bus work.Yield) := by
  cases work with
  | exchange sent =>
    refine comprises_single fun rig => ?_
    obtain ⟨under, failure, made⟩ := exchange_calls sent .primary rig
    exact ⟨.plain sent under failure, rfl, made⟩
  | strobed sent => exact comprises_strobed sent
  | push address data =>
    exact comprises_bind (comprises_strobed _) fun _ => comprises_chipSelected <|
      comprises_bind (touches_drive _) fun _ => comprises_bind (touches_drive _) fun _ =>
        comprises_bind (touches_drive _) fun _ => touches_writeRaw data
  | pull address =>
    exact comprises_bind (comprises_strobed _) fun _ =>
      comprises_bind (comprises_chipSelected (touches_drive _)) fun _ =>
        comprises_bind (comprises_strobed _) fun _ => comprises_chipSelected <|
          comprises_bind (touches_drive _) fun _ =>
            comprises_bind (touches_readRaw 1) fun _ => comprises_quiet fun _ => rfl

/-! ### The phrases of a stage -/

/-- The profile that an operation works under. -/
def Command.profile : Command → Profile
  | .transfer _ => .primary
  | _ => .secondary

/-- A phrase of an act: settings are written by any, and the rest belongs to the operations of a
profile. -/
def Act.Speaks (act : Act) : Phrase → Prop
  | .setting _ _ => True
  | phrase => ∃ command, act = .operation command ∧ command.profile.Speaks phrase

theorem Act.speaks_of_profile {command : Command} {phrase : Phrase}
    (speaks : command.profile.Speaks phrase) : (Act.operation command).Speaks phrase := by
  cases phrase with
  | setting setting failure => exact trivial
  | _ => exact ⟨command, rfl, speaks⟩

/-- A switch is a sequence of settings. -/
theorem comprises_switchTo {allowed : Phrase → Prop}
    (settings : ∀ setting failure, allowed (.setting setting failure)) (profile : Profile) :
    Comprises Phrase.calls allowed (switchTo profile : OnBus σ Bus Unit) := by
  intro rig
  have written := (switchTo_settings profile rig).1
  generalize (switchTo profile rig).journal.events = events at written ⊢
  induction events with
  | nil => exact ⟨[], fun _ member => absurd member List.not_mem_nil, rfl⟩
  | cons event rest ih =>
    obtain ⟨first, others⟩ := List.forall_mem_cons.mp written
    obtain ⟨parts, allows, made⟩ := ih others
    cases event with
    | configure setting failure =>
      refine ⟨.setting setting failure :: parts,
        List.forall_mem_cons.mpr ⟨settings setting failure, allows⟩, ?_⟩
      rw [List.flatMap_cons, ← made]
      rfl
    | _ => cases first

theorem comprises_withProfile {allowed : Phrase → Prop}
    (settings : ∀ setting failure, allowed (.setting setting failure)) (profile : Profile)
    {body : OnBus σ Bus α} (comprises : Comprises Phrase.calls allowed body) :
    Comprises Phrase.calls allowed (withProfile profile body) :=
  comprises_bind (comprises_quiet fun _ => rfl) fun prior => comprises_ensuring
    (comprises_bind (comprises_switchTo settings profile) fun _ => comprises)
    (comprises_switchTo settings prior.active)

/-- An operation does its work under its profile. -/
theorem Command.work_profile {command : Command} {bus : Bus} {work : Work}
    (found : command.work? bus = some work) : work.profile = command.profile := by
  cases Command.comesTo found <;> rfl

/-- **Every stage is a sequence of phrases of its act**, whichever of its calls fail. -/
theorem Stage.phrases (stage : Stage σ) :
    ∃ phrases : List Phrase, (∀ phrase ∈ phrases, stage.act.Speaks phrase) ∧
      stage.events = phrases.flatMap Phrase.calls := by
  obtain ⟨act, rig⟩ := stage
  cases act with
  | switch profile =>
    rw [Stage.events_switch]
    exact comprises_switchTo (fun _ _ => trivial) profile rig
  | operation command =>
    simp only [Stage.events, Act.run]
    cases found : command.work? rig.bus with
    | none =>
      rw [(Command.run_idle found).1]
      exact ⟨[], fun _ member => absurd member List.not_mem_nil, rfl⟩
    | some work =>
      rw [(Command.run_calls found).1]
      have body : Comprises Phrase.calls (Act.operation command).Speaks
          (work.body : OnBus σ Bus work.Yield) :=
        comprises_mono work.phrases fun phrase speaks =>
          Act.speaks_of_profile (Command.work_profile found ▸ speaks)
      exact comprises_withProfile (fun _ _ => trivial) work.profile body rig

end SensorCape.Serial
