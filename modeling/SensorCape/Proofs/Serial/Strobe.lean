/-
**The strobe.**

Modules take what is exchanged while the strobe is low as a frame, so the strobe must be low for
the exchanges of the secondary profile and for nothing else. It falls right before such an exchange
and is raised right after it, whether the exchange succeeded or not. A raise that fails leaves the
strobe low, and ends its operation before any raw call is made.

* `latest`: the latest successful call on a line.
* `Stage.raw_led`: a raw call comes right after a lead, in which every call succeeded.
* `Act.Strobes`: where a call may stand with regard to the strobe.
* `strobe_brackets_secondary`: **every call of every session stands there.**
-/

import SensorCape.Proofs.Serial.Addressing
import SensorCape.Proofs.Serial.Phrases
import SensorCape.Proofs.Serial.Session

set_option linter.unusedSectionVars false

namespace SensorCape

/-! ### The latest call on a line -/

/-- What a successful call made of a line. -/
def Event.drove? (line : Line) : Event → Option Drive
  | .drive driven how none => if driven = line then some how else none
  | _ => none

/-- The latest successful call on a line. -/
def latest (line : Line) (events : List Event) : Option Drive :=
  (events.filterMap (Event.drove? line)).getLast?

theorem latest_append (line : Line) (events others : List Event) :
    latest line (events ++ others) = (latest line others).or (latest line events) := by
  rw [latest, List.filterMap_append, List.getLast?_append]
  rfl

/-- A line that no call drives has no latest call. -/
theorem latest_eq_none {line : Line} {events : List Event}
    (untouched : ∀ how failure, .drive line how failure ∉ events) : latest line events = none := by
  rw [latest, List.getLast?_eq_none_iff, List.filterMap_eq_nil_iff]
  intro event member
  cases event with
  | drive driven how failure =>
    cases failure with
    | some fault => rfl
    | none =>
      refine if_neg fun same => ?_
      rw [same] at member
      exact untouched how none member
  | _ => rfl

namespace Serial

/-! ### Raw calls and their leads -/

/-- The calls that come right before a raw one. -/
inductive Lead : List Event → Prop
  | write (frame : UInt8) (under : Configuration) : Lead (writeLead frame under)
  | read (ready execute : UInt8) (under : Configuration) : Lead (readLead ready execute under)

/-- A lead leaves the strobe high and chip-select low. -/
theorem Lead.latest {lead : List Event} (leads : Lead lead) (past : List Event) :
    latest .strobe (past ++ lead) = some .high ∧
      latest .chipSelect (past ++ lead) = some .low := by
  rw [latest_append, latest_append]
  cases leads with
  | write frame under => exact ⟨rfl, rfl⟩
  | read ready execute under => exact ⟨rfl, rfl⟩

variable {σ : Type} [Devices σ]

/-- **A raw call comes right after a lead.** -/
theorem Stage.raw_led {stage : Stage σ} {inside rest : List Event} {event : Event}
    (calls : stage.events = inside ++ event :: rest) (raw : IsRaw event) :
    ∃ before lead, inside = before ++ lead ∧ Lead lead := by
  obtain ⟨act, rig⟩ := stage
  cases act with
  | switch profile =>
    exact absurd raw (Stage.switch_not_raw profile rig event (calls ▸ List.mem_append_cons_self))
  | operation command =>
    have admitted := command.raw_traffic rig
    rw [show (command.run rig).journal.events = _ from calls] at admitted
    have addressed := (only_raw admitted raw).1
    cases event with
    | write data count =>
      obtain ⟨address, frame, -, -, before, led⟩ := addressed
      exact ⟨before, _, led.symm, .write _ _⟩
    | read length count =>
      obtain ⟨address, ready, execute, -, -, -, -, before, led⟩ := addressed
      exact ⟨before, _, led.symm, .read _ _ _⟩
    | _ => exact False.elim raw

/-! ### Where a call may stand -/

/-- Where a call may stand with regard to the strobe, after the calls of a `past` and before the
`rest` of its stage. The strobe is lowered by operations under the secondary profile, and if that
succeeds, then for one exchange and the raise. Their exchanges stand right between the two. Raw
calls are made with the strobe high. -/
def Act.Strobes (act : Act) (past rest : List Event) : Event → Prop
  | .drive .strobe .low failure =>
    (∃ command, act = .operation command ∧ command.profile = .secondary) ∧
      (failure = none → ∃ sent under ended raised following,
        rest = .exchange sent under ended :: .drive .strobe .high raised :: following)
  | .exchange _ _ _ => ∃ command, act = .operation command ∧
      (command.profile = .secondary → [.drive .strobe .low none] <:+ past ∧
        ∃ raised following, rest = .drive .strobe .high raised :: following)
  | .write _ _ | .read _ _ => latest .strobe past = some .high
  | _ => True

/-- The only call of a phrase has no calls of the phrase around it. -/
theorem only_call {call event : Event} {inside rest : List Event}
    (calls : [call] = inside ++ event :: rest) : inside = [] ∧ event = call ∧ rest = [] := by
  rcases List.singleton_eq_append_iff.mp calls with ⟨rfl, same⟩ | ⟨-, none⟩
  · obtain ⟨rfl, rfl⟩ := List.cons.inj same
    exact ⟨rfl, rfl, rfl⟩
  · cases none

/-- The calls of a phrase stand where they may, except that its raw calls rely on the phrases before
it. -/
theorem Phrase.strobes {act : Act} {phrase : Phrase} {inside rest : List Event} {event : Event}
    (speaks : act.Speaks phrase) (calls : phrase.calls = inside ++ event :: rest)
    (framed : ¬ IsRaw event) (past following : List Event) :
    act.Strobes (past ++ inside) (rest ++ following) event := by
  cases phrase with
  | setting written failure =>
    obtain ⟨rfl, rfl, rfl⟩ := only_call calls
    exact trivial
  | plain sent under failure =>
    obtain ⟨rfl, rfl, rfl⟩ := only_call calls
    obtain ⟨command, operation, primary⟩ := speaks
    refine ⟨command, operation, fun secondary => ?_⟩
    cases primary.symm.trans secondary
  | unframed fault =>
    obtain ⟨rfl, rfl, rfl⟩ := only_call calls
    exact ⟨speaks, fun succeeded => by cases succeeded⟩
  | framed sent under failure raised =>
    rcases inside with - | ⟨low, - | ⟨exchanged, - | ⟨high, others⟩⟩⟩
    · cases calls
      exact ⟨speaks, fun _ => ⟨sent, under, failure, raised, following, rfl⟩⟩
    · cases calls
      obtain ⟨command, operation, -⟩ := speaks
      exact ⟨command, operation, fun _ => ⟨List.suffix_append past _, raised, following, rfl⟩⟩
    · cases calls
      exact trivial
    · simp [Phrase.calls] at calls
  | selected touches raised =>
    rcases Phrase.mem_selected (calls ▸ List.mem_append_cons_self) with ⟨touch, rfl⟩ | rfl
    · cases touch with
      | drive how failure => exact trivial
      | write data count => exact absurd trivial framed
      | read length count => exact absurd trivial framed
    · exact trivial

/-- **Every call of a stage stands where it may**, whatever happened before the stage. -/
theorem Stage.strobes {stage : Stage σ} {inside rest : List Event} {event : Event}
    (calls : stage.events = inside ++ event :: rest) (past : List Event) :
    stage.act.Strobes (past ++ inside) rest event := by
  by_cases raw : IsRaw event
  · obtain ⟨before, lead, rfl, leads⟩ := Stage.raw_led calls raw
    have high : latest .strobe (past ++ (before ++ lead)) = some .high := by
      rw [← List.append_assoc]
      exact (leads.latest _).1
    cases event with
    | write data count => exact high
    | read length count => exact high
    | _ => exact False.elim raw
  · obtain ⟨phrases, spoken, made⟩ := stage.phrases
    rw [made] at calls
    obtain ⟨earlier, phrase, later, within, after, rfl, said, rfl, rfl⟩ := flatMap_split calls
    rw [← List.append_assoc]
    exact Phrase.strobes (spoken phrase (by simp)) said raw _ _

/-! ### Runs -/

variable {session : Session σ} {start : Rig σ Bus}

/-- **The strobe brackets the exchanges of the secondary profile, and nothing else**, in every
session whose bus could be brought up, whatever its script does and whichever of its calls fail. The
opening never lowers the strobe; from then on the calls are those of the stages, and each of them
stands where it may. -/
theorem strobe_brackets_secondary (opened : session.start? = some start) :
    (∀ failure, Event.drive .strobe .low failure ∉ session.opening.journal.events) ∧
      (session.script.run start).journal.events = trace (session.stages start) ∧
      ∀ earlier stage later, session.stages start = earlier ++ stage :: later →
        ∀ inside event rest, stage.events = inside ++ event :: rest →
          stage.act.Strobes (session.opening.journal.events ++ trace earlier ++ inside) rest
            event := by
  refine ⟨fun failure => ?_, (Script.run_stages session.script start).2, ?_⟩
  · rw [Session.opening_events opened]
    simp [openingCalls]
  · intro earlier stage later _ inside event rest calls
    exact Stage.strobes calls _

/-- A session in which the strobe stays low after the frame of a payload, and a byte is pulled after
it. -/
def unraised : Session (Bench.Board Unit) where
  primary := ⟨⟨0⟩, 16, 500000⟩
  devices := (Bench.Board.fresh []).planned [⟨.drive .strobe .high, 1, .fault .timeout⟩]
  script := .step (.writeModule 3 [7]) true (.step (.readModule 3) false .finish)

/-- The payload, which does not go out. -/
def unraisedStage : Stage (Bench.Board Unit) :=
  ⟨.operation (.writeModule 3 [7]), ⟨unraised.opening.state.devices, .fresh unraised.primary⟩⟩

/-- The byte. -/
def pulledStage : Stage (Bench.Board Unit) := ⟨.operation (.readModule 3), unraisedStage.finish⟩

/-- The payload leaves the strobe low, and yet it is high when the byte is read. -/
theorem unraised_bracketed : unraised.start? = some unraisedStage.start ∧
    latest .strobe (unraised.opening.journal.events ++ trace [unraisedStage]) = some .low ∧
    (unraised.script.run unraisedStage.start).journal.events =
      trace (unraised.stages unraisedStage.start) ∧
    ∃ inside rest, pulledStage.events = inside ++ .read 1 (.moved 1) :: rest ∧
      latest .strobe (unraised.opening.journal.events ++ trace [unraisedStage] ++ inside) =
        some .high := by
  have opened : unraised.start? = some unraisedStage.start := rfl
  have stages : unraised.stages unraisedStage.start = [unraisedStage] ++ pulledStage :: [] := rfl
  have calls : pulledStage.events =
      pulledStage.events.take 11 ++ .read 1 (.moved 1) :: pulledStage.events.drop 12 := by
    decide +kernel
  obtain ⟨-, made, brackets⟩ := strobe_brackets_secondary opened
  exact ⟨opened, by decide +kernel, made, _, _, calls, brackets _ _ _ stages _ _ _ calls⟩

end Serial

end SensorCape
