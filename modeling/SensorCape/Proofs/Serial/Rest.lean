/-
**Where the bus rests.**

An operation returns to the profile that it found. If its way back fails, the bus stays in the
profile of its work, and from then on that is the profile that the operations return to: a failed
way back is not made good by the operations after it, however well they go.

* `strands`: the way back from an operation's work failed, read off its calls.
* `restingProfile`: the profile that some stages left the bus in, which is that of the last
  operation that was stranded, and the primary one if none was.
* `rests_where_left`: **after an operation in which no call failed, the bus rests there.**
* `rest_after_stranding`: so it need not rest in the primary profile.
-/

import SensorCape.Proofs.Serial.FirstFault
import SensorCape.Proofs.Serial.Phrases

set_option linter.unusedSectionVars false

namespace SensorCape

/-! ### Stranded operations -/

/-- Whether a call is a setting that was refused. -/
def Event.isRefusal : Event → Bool
  | .configure _ (some _) => true
  | _ => false

theorem noneRefused_iff (events : List Event) :
    NoneRefused events ↔ events.any Event.isRefusal = false := by
  rw [List.any_eq_false]
  constructor
  · rintro taken event member refusal
    cases event with
    | configure setting failure =>
      rw [taken setting failure member] at refusal
      cases refusal
    | _ => cases refusal
  · intro none setting failure member
    cases failure with
    | none => rfl
    | some cause => exact absurd rfl (none _ member)

/-- If no call failed, no setting was refused. -/
theorem noneRefused_of_unfailed {events : List Event}
    (unfailed : ∀ event ∈ events, ∀ fault, ¬ event.Reports fault) : NoneRefused events := by
  intro setting failure member
  cases failure with
  | none => rfl
  | some cause => exact absurd ⟨cause, rfl, rfl⟩ (unfailed _ member (.transferFailed 0 cause))

/-- Whether an operation did not find its way back: a setting was refused after other calls. -/
def strands (events : List Event) : Bool :=
  (events.dropWhile Event.isSetting).any Event.isRefusal

/-- Without a refusal the way back was found. -/
theorem strands_of_noneRefused {events : List Event} (taken : NoneRefused events) :
    strands events = false := by
  rw [strands, List.any_eq_false]
  intro event member
  exact List.any_eq_false.mp ((noneRefused_iff events).mp taken) event
    ((List.dropWhile_sublist _).mem member)

theorem strands_of_settings {events : List Event}
    (settings : ∀ event ∈ events, event.isSetting = true) : strands events = false := by
  rw [strands, ← List.append_nil events, List.dropWhile_append_of_pos settings]
  rfl

/-- Between two switches there is work, so a refusal in the second one is a way back that failed. -/
theorem strands_between {entry inside back : List Event}
    (settings : ∀ event ∈ entry, event.isSetting = true) (busy : inside ≠ [])
    (work : ∀ event ∈ inside, event.isSetting = false) :
    strands (entry ++ inside ++ back) = back.any Event.isRefusal := by
  obtain ⟨first, rest, rfl⟩ := List.exists_cons_of_ne_nil busy
  have unrefused : (first :: rest).any Event.isRefusal = false := by
    rw [List.any_eq_false]
    intro event member refusal
    have other := work event member
    cases event with
    | configure setting failure => cases other
    | _ => cases refusal
  rw [strands, List.append_assoc, List.dropWhile_append_of_pos settings, List.cons_append,
    List.dropWhile_cons_of_neg (Bool.eq_false_iff.mp (work first List.mem_cons_self)),
    ← List.cons_append, List.any_append, unrefused, Bool.false_or]

namespace Serial

variable {σ α β : Type} [Devices σ]

/-! ### The calls of work -/

theorem bind_calls_ne_nil {first : OnBus σ Bus α} {next : α → OnBus σ Bus β} {rig : Rig σ Bus}
    (called : (first rig).journal.events ≠ []) : ((first >>= next) rig).journal.events ≠ [] := by
  rw [Action.bind_apply]
  cases (first rig).result with
  | error fault => exact called
  | ok value => exact List.append_ne_nil_of_left_ne_nil called _

/-- Work makes a call. -/
theorem Work.calls_ne_nil (work : Work) (rig : Rig σ Bus) :
    (work.body rig).journal.events ≠ [] := by
  have framed : ∀ sent, (Serial.strobed sent rig).journal.events ≠ [] := by
    intro sent
    obtain ⟨failure, lowered, -⟩ := drive_calls .strobe .low rig
    refine bind_calls_ne_nil ?_
    rw [lowered]
    exact List.cons_ne_nil _ _
  cases work with
  | exchange sent =>
    obtain ⟨under, failure, made⟩ := exchange_calls sent .primary rig
    rw [Work.body, made]
    exact List.cons_ne_nil _ _
  | strobed sent => exact framed sent
  | push address data => exact bind_calls_ne_nil (framed _)
  | pull address => exact bind_calls_ne_nil (framed _)

/-- A phrase of work writes no setting. -/
theorem Profile.Speaks.no_setting {profile : Profile} {phrase : Phrase}
    (speaks : profile.Speaks phrase) : ∀ event ∈ phrase.calls, event.isSetting = false := by
  intro event member
  cases phrase with
  | setting written failure => cases speaks
  | plain sent under failure =>
    rw [List.mem_singleton.mp member]
    rfl
  | unframed fault =>
    rw [List.mem_singleton.mp member]
    rfl
  | framed sent under failure raised =>
    simp only [Phrase.calls, List.mem_cons, List.not_mem_nil, or_false] at member
    rcases member with rfl | rfl | rfl <;> rfl
  | selected touches raised =>
    rcases Phrase.mem_selected member with ⟨touch, rfl⟩ | rfl
    · cases touch <;> rfl
    · rfl

/-- Work writes no settings of its own. -/
theorem Work.calls_no_setting (work : Work) (rig : Rig σ Bus) :
    ∀ event ∈ (work.body rig).journal.events, event.isSetting = false := by
  obtain ⟨phrases, spoken, made⟩ := work.phrases rig
  rw [made]
  intro event member
  obtain ⟨phrase, among, member⟩ := List.mem_flatMap.mp member
  exact (spoken phrase among).no_setting event member

/-! ### Where an operation ends -/

/-- What work on a bus comes to: if it was stranded the bus ends in the profile of the work, and
otherwise in the one that it found; if no setting was refused, the configuration of that one is
applied. -/
structure EndsIn (work : Profile) (bus : Bus) (events : List Event) (after : Bus) : Prop where
  called : events ≠ []
  active : after.active = if strands events then work else bus.active
  applied : NoneRefused events → after.applied = bus.configuration bus.active

/-- A switch either reaches its profile or leaves the active one as it was. -/
theorem Switches.active {profile : Profile} {bus after : Bus} {events : List Event}
    {result : Except Fault Unit} (switches : Switches profile bus events after result) :
    after.active = if events.any Event.isRefusal then bus.active else profile := by
  cases result with
  | ok done =>
    obtain ⟨taken, rfl⟩ := switches
    rw [(noneRefused_iff events).mp taken]
    rfl
  | error fault =>
    obtain ⟨refused, applied, rfl⟩ := switches
    rw [noneRefused_iff, Bool.not_eq_false] at refused
    rw [refused]
    rfl

/-- **Work strands the bus exactly if its way back fails**, and a work that could not be begun never
does. -/
theorem Work.run_endsIn (work : Work) (rig : Rig σ Bus) :
    EndsIn work.profile rig.bus (work.run rig).journal.events (work.run rig).state.bus := by
  obtain ⟨written, switches⟩ := switchTo_settings work.profile rig
  cases entered : (switchTo work.profile rig).result with
  | error fault =>
    rw [entered] at switches
    obtain ⟨refused, applied, same⟩ := switches
    obtain ⟨restored, back⟩ := switchTo_settings rig.bus.active (switchTo work.profile rig).state
    rw [Work.run, withProfile_refused entered]
    refine ⟨?_, ?_, fun taken => absurd ((noneRefused_append _ _).mp taken).1 refused⟩
    · refine List.append_ne_nil_of_left_ne_nil (fun silent => refused ?_) _
      rw [silent]
      exact noneRefused_nil
    · rw [Journal.events_append,
        strands_of_settings (List.forall_mem_append.mpr ⟨written, restored⟩), back.active, same]
      exact ite_self _
  | ok done =>
    have reached : (work.body (switchTo work.profile rig).state).state.bus =
        rig.bus.switched work.profile := (work.steady _).trans (switchTo_ok entered)
    obtain ⟨-, back⟩ := switchTo_settings rig.bus.active
      (work.body (switchTo work.profile rig).state).state
    rw [Work.run, withProfile_entered entered]
    refine ⟨?_, ?_, fun taken => ?_⟩
    · exact List.append_ne_nil_of_left_ne_nil
        (List.append_ne_nil_of_right_ne_nil _ (work.calls_ne_nil _)) _
    · rw [Journal.events_append, Journal.events_append,
        strands_between written (work.calls_ne_nil _) (work.calls_no_setting _), back.active,
        reached]
      rfl
    · have rests := switchTo_rests ((noneRefused_append _ _).mp taken).2
      rw [reached, Bus.switched_configuration] at rests
      exact rests.applied

/-- **Where an operation leaves the bus.** If it makes no calls at all, the bus is as it was up to
the address of the selector. -/
theorem Command.run_endsIn (command : Command) (rig : Rig σ Bus) :
    EndsIn command.profile rig.bus (command.run rig).journal.events (command.run rig).state.bus ∨
      (command.run rig).journal.events = [] ∧
        ∃ extension, (command.run rig).state.bus = { rig.bus with extension } := by
  cases found : command.work? rig.bus with
  | none =>
    obtain ⟨silent, extension, ended⟩ := Command.run_idle found
    exact .inr ⟨silent, extension, congrArg Rig.bus ended⟩
  | some work =>
    obtain ⟨calls, ended⟩ := Command.run_calls found
    rw [calls, ended, ← Command.work_profile found]
    exact .inl (work.run_endsIn rig)

/-! ### Runs -/

/-- Operations one after the other, whatever becomes of each. -/
def Script.inTurn : List Command → Script
  | [] => .finish
  | command :: rest => .step command true (inTurn rest)

/-- The profile that is active after a stage which began in a profile. -/
def Stage.leaves (profile : Profile) (stage : Stage σ) : Profile :=
  match stage.act with
  | .operation command => if strands stage.events then command.profile else profile
  | .switch _ => profile

/-- The profile that the bus is left in by operations after its opening: the last one that was
stranded leaves it in the profile of its work. -/
def restingProfile (stages : List (Stage σ)) : Profile := stages.foldl Stage.leaves .primary

/-- Without a stranded operation the bus is left in the primary profile. -/
theorem restingProfile_of_none_stranded (stages : List (Stage σ))
    (never : ∀ stage ∈ stages, strands stage.events = false) :
    restingProfile stages = .primary := by
  unfold restingProfile
  induction stages with
  | nil => rfl
  | cons stage rest ih =>
    obtain ⟨first, others⟩ := List.forall_mem_cons.mp never
    have left : Stage.leaves .primary stage = .primary := by
      unfold Stage.leaves
      cases stage.act with
      | operation command => rw [first]; rfl
      | switch profile => rfl
    rw [List.foldl_cons, left]
    exact ih others

/-- The stages of operations in turn are the operations. -/
theorem Script.inTurn_stages (commands : List Command) : ∀ (rig : Rig σ Bus),
    ∀ stage ∈ (Script.inTurn commands).stages rig, ∃ command, stage.act = .operation command := by
  induction commands with
  | nil => exact fun _ _ member => absurd member List.not_mem_nil
  | cons command rest ih =>
    intro rig
    have on : goesOn true (command.run rig).result = true := by
      cases (command.run rig).result <;> rfl
    simp only [inTurn, stages, on, if_true]
    exact List.forall_mem_cons.mpr ⟨⟨command, rfl⟩, ih _⟩

/-- What an operation comes to, said of its stage. -/
theorem Stage.endsIn {stage : Stage σ} {command : Command}
    (operation : stage.act = .operation command) :
    EndsIn command.profile stage.start.bus stage.events stage.finish.bus ∨
      stage.events = [] ∧ ∃ extension, stage.finish.bus = { stage.start.bus with extension } := by
  obtain ⟨act, rig⟩ := stage
  cases operation
  exact command.run_endsIn rig

/-- A stage of an operation leaves the bus in the profile that is read off its calls. -/
theorem Stage.finish_active {stage : Stage σ} {command : Command}
    (operation : stage.act = .operation command) :
    stage.finish.bus.active = Stage.leaves stage.start.bus.active stage := by
  rw [Stage.leaves, operation]
  rcases Stage.endsIn operation with ended | ⟨silent, extension, ended⟩
  · exact ended.active
  · rw [silent, ended]
    rfl

variable {session : Session σ} {start : Rig σ Bus}

/-- Where an operation begins, the bus is in the profile that the ones before it left. -/
theorem Session.begins_where_left (opened : session.start? = some start) {commands : List Command}
    (turns : session.script = .inTurn commands) {earlier later : List (Stage σ)} {stage : Stage σ}
    (split : session.stages start = earlier ++ stage :: later) :
    stage.start.bus.active = restingProfile earlier := by
  have operations := Script.inTurn_stages commands start
  rw [← turns] at operations
  obtain ⟨path, -⟩ := Script.run_stages session.script start
  rw [show session.script.stages start = _ from split] at path operations
  refine path.reach (fun gone rig => rig.bus.active = restingProfile gone) ?_ ?_
  · rw [Session.start_bus opened]
    rfl
  · intro gone passed member began
    obtain ⟨command, operation⟩ := operations passed (List.mem_append_left _ member)
    rw [restingProfile, List.foldl_append, Stage.finish_active operation, began]
    rfl

/-- **After an operation in which no call failed, the bus is in the profile that the operations
before it left it in**, which is the primary one as long as none of them was stranded. If the
operation made any call, the configuration of that profile is the one applied; one that made none
leaves the applied configuration as it was. -/
theorem rests_where_left (opened : session.start? = some start) {commands : List Command}
    (turns : session.script = .inTurn commands) :
    (session.script.run start).journal.events = trace (session.stages start) ∧
      ∀ earlier stage later, session.stages start = earlier ++ stage :: later →
        (∀ event ∈ stage.events, ∀ fault, ¬ event.Reports fault) →
          stage.finish.bus.active = restingProfile earlier ∧
            (stage.events ≠ [] → stage.finish.bus.applied =
              (Bus.fresh session.primary).configuration (restingProfile earlier)) ∧
            (stage.events = [] → stage.finish.bus.applied = stage.start.bus.applied) ∧
            ((∀ gone ∈ earlier, strands gone.events = false) →
              restingProfile earlier = .primary) := by
  refine ⟨(Script.run_stages session.script start).2, ?_⟩
  intro earlier stage later split unfailed
  have began := Session.begins_where_left opened turns split
  have primary : stage.start.bus.primary = session.primary :=
    (Session.knows_held opened session.primary split).2
  have operations := Script.inTurn_stages commands start
  rw [← turns, show session.script.stages start = _ from split] at operations
  obtain ⟨command, operation⟩ := operations stage (by simp)
  have taken : NoneRefused stage.events := noneRefused_of_unfailed unfailed
  have kept : stage.finish.bus.active = stage.start.bus.active := by
    rw [Stage.finish_active operation, Stage.leaves, operation]
    simp only [strands_of_noneRefused taken, Bool.false_eq_true, if_false]
  refine ⟨kept.trans began, fun called => ?_, fun silent => ?_,
    restingProfile_of_none_stranded earlier⟩
  · rcases Stage.endsIn operation with ended | ⟨silent, -⟩
    · rw [ended.applied taken, began]
      exact Bus.configuration_congr primary _
    · exact absurd silent called
  · rcases Stage.endsIn operation with ended | ⟨-, extension, ended⟩
    · exact absurd silent ended.called
    · rw [ended]

/-- A session in which the way back from a framed exchange is refused, and a plain exchange comes
after it. -/
def stranded : Session (Bench.Board Unit) where
  primary := ⟨⟨0⟩, 16, 500000⟩
  devices := (Bench.Board.fresh []).planned [⟨.mode, 2, .cause .timedOut⟩]
  script := .inTurn [.transferSecondary [41], .transfer [1]]

/-- The rig that its script starts on. -/
def strandedStart : Rig (Bench.Board Unit) Bus :=
  ⟨stranded.opening.state.devices, .fresh stranded.primary⟩

/-- The framed exchange, whose way back is refused. -/
def framedStage : Stage (Bench.Board Unit) :=
  ⟨.operation (.transferSecondary [41]), strandedStart⟩

/-- The plain exchange. -/
def plainStage : Stage (Bench.Board Unit) := ⟨.operation (.transfer [1]), framedStage.finish⟩

/-- The calls of the plain exchange. -/
def plainCalls : List Event :=
  [.configure (.mode ⟨0⟩) none, .configure (.wordSize 16) none,
    .exchange [1] ⟨⟨0⟩, 16, 500000⟩ none, .configure (.mode ⟨3⟩) none,
    .configure (.wordSize 8) none]

theorem stranded_start : stranded.start? = some strandedStart := by rfl

theorem stranded_stages : stranded.stages strandedStart = [framedStage] ++ plainStage :: [] := by
  rfl

theorem plainStage_calls : plainStage.events = plainCalls := by decide +kernel

theorem plainCalls_unfailed : ∀ event ∈ plainCalls, ∀ fault, ¬ event.Reports fault := by
  simp [plainCalls, Event.Reports]

/-- A session in which the switch to a framed exchange is refused half-way, and then its way back;
the board is parked after it, but there is none. -/
def halted : Session (Bench.Board Unit) where
  primary := ⟨⟨0⟩, 16, 500000⟩
  devices := (Bench.Board.fresh []).planned
    [⟨.wordSize, 1, .cause .timedOut⟩, ⟨.mode, 2, .cause .timedOut⟩]
  script := .inTurn [.transferSecondary [41], .parkExtension]

/-- The framed exchange that does not come about. -/
def haltedStage : Stage (Bench.Board Unit) :=
  ⟨.operation (.transferSecondary [41]), ⟨halted.opening.state.devices, .fresh halted.primary⟩⟩

/-- The parking that has nothing to do. -/
def idleStage : Stage (Bench.Board Unit) := ⟨.operation .parkExtension, haltedStage.finish⟩

/-- **An earlier way back that failed is not made good.** None of the calls of the plain exchange
fails, and yet the bus does not rest in the primary profile after it, nor is the primary
configuration applied. The parking makes no calls, and the bus keeps the mixed configuration that
was left to it. -/
theorem rest_after_stranding : stranded.start? = some strandedStart ∧
    stranded.stages strandedStart = [framedStage] ++ plainStage :: [] ∧
    plainStage.events = plainCalls ∧ (∀ event ∈ plainCalls, ∀ fault, ¬ event.Reports fault) ∧
    plainStage.finish.bus.active = .secondary ∧
    plainStage.finish.bus.applied = ⟨⟨3⟩, 8, 500000⟩ ∧
    ¬ plainStage.finish.bus.Rests .primary stranded.primary ∧
    halted.start? = some haltedStage.start ∧
    halted.stages haltedStage.start = [haltedStage] ++ idleStage :: [] ∧
    idleStage.events = [] ∧ idleStage.finish.bus.applied = ⟨⟨3⟩, 16, 500000⟩ ∧
    ¬ idleStage.finish.bus.Rests .primary halted.primary := by
  have secondary : plainStage.finish.bus.active = .secondary := by decide +kernel
  have mixed : idleStage.finish.bus.applied = ⟨⟨3⟩, 16, 500000⟩ := by decide +kernel
  refine ⟨stranded_start, stranded_stages, plainStage_calls, plainCalls_unfailed, secondary,
    by decide +kernel, fun rests => ?_, rfl, rfl, by decide +kernel, mixed, fun rests => ?_⟩
  · cases secondary.symm.trans rests.active
  · cases mixed.symm.trans rests.applied

/-- Where the bus of that session rests instead is the secondary profile, in which the refused way
back left it. -/
theorem stranded_rests : stranded.start? = some strandedStart ∧
    stranded.script = .inTurn [.transferSecondary [41], .transfer [1]] ∧
    (stranded.script.run strandedStart).journal.events = trace (stranded.stages strandedStart) ∧
    restingProfile [framedStage] = .secondary ∧
    plainStage.finish.bus.active = restingProfile [framedStage] ∧
    plainStage.finish.bus.applied =
      (Bus.fresh stranded.primary).configuration (restingProfile [framedStage]) := by
  have turns : stranded.script = .inTurn [.transferSecondary [41], .transfer [1]] := rfl
  obtain ⟨calls, rests⟩ := rests_where_left stranded_start turns
  obtain ⟨active, applied, -⟩ := rests [framedStage] plainStage [] stranded_stages
    (by rw [plainStage_calls]; exact plainCalls_unfailed)
  rw [plainStage_calls] at applied
  exact ⟨stranded_start, turns, calls, by decide +kernel, active, applied (List.cons_ne_nil _ _)⟩

end Serial

end SensorCape
