/-
**Chip-select.**

Modules take raw traffic while chip-select is low, and chip-select idles high: whoever touches it
raises it in the end, and every lead raises it before it lets it fall. So each raw call has a fall of
chip-select to itself, and unless a raise fails, chip-select is high at every exchange and at the end
of every operation.

* `EndsRaised`: the last chip-select call of some calls raises it; `endsRaised_operation`,
  `endsRaised_bracket` — that holds of whatever runs on the bus.
* `latest_phrases`: phrases in which no raise fails leave chip-select high if they find it so.
* `raw_selected`, `raised_between`: raw calls are made with chip-select low, and it is raised between
  any two of them.
* `chip_select_frames_raw_calls`: **all of this in every session.**
-/

import SensorCape.Proofs.Serial.Strobe

set_option linter.unusedSectionVars false

namespace SensorCape

/-- Whether a call is a raise of chip-select that failed. -/
def Event.isFailedRaise : Event → Bool
  | .drive .chipSelect .high (some _) => true
  | _ => false

theorem latest_chipSelect_raised (past before : List Event) {failure : Option Fault}
    (raised : (Event.drive .chipSelect .high failure).isFailedRaise = false) :
    latest .chipSelect (past ++ (before ++ [.drive .chipSelect .high failure])) = some .high := by
  rw [← List.append_assoc, latest_append]
  cases failure with
  | none => rfl
  | some fault => cases raised

namespace Serial

/-! ### Phrases and chip-select -/

/-- The last chip-select call among some calls, if there is any, raises it. -/
def EndsRaised (events : List Event) : Prop :=
  ∀ before how failure rest, events = before ++ .drive .chipSelect how failure :: rest →
    (∀ other outcome, .drive .chipSelect other outcome ∉ rest) → how = .high

theorem Phrase.selected_or_untouched (phrase : Phrase) :
    (∃ touches raised, phrase = .selected touches raised) ∨
      ∀ how failure, .drive .chipSelect how failure ∉ phrase.calls := by
  cases phrase with
  | selected touches raised => exact .inl ⟨touches, raised, rfl⟩
  | _ => exact .inr fun how failure => by simp [calls]

/-- **The last chip-select call of some phrases raises it.** -/
theorem endsRaised_phrases (phrases : List Phrase) :
    EndsRaised (phrases.flatMap Phrase.calls) := by
  intro before how failure rest calls last
  obtain ⟨earlier, phrase, later, inside, after, rfl, said, rfl, rfl⟩ := flatMap_split calls
  rcases phrase.selected_or_untouched with ⟨touches, raised, rfl⟩ | untouched
  · rw [Phrase.calls] at said
    rcases List.eq_nil_or_concat after with rfl | ⟨others, final, rfl⟩
    · cases (List.append_inj' said rfl).2
      rfl
    · rw [List.concat_eq_append, ← List.cons_append, ← List.append_assoc] at said
      cases (List.append_inj' said rfl).2
      exact absurd (by simp) (last .high raised)
  · exact absurd (said ▸ List.mem_append_cons_self) (untouched how failure)

/-- Phrases in which no raise fails leave chip-select high if they find it so. -/
theorem latest_phrases (phrases : List Phrase) {past : List Event}
    (raised : ∀ event ∈ phrases.flatMap Phrase.calls, event.isFailedRaise = false)
    (high : latest .chipSelect past = some .high) :
    latest .chipSelect (past ++ phrases.flatMap Phrase.calls) = some .high := by
  induction phrases generalizing past with
  | nil => rwa [List.flatMap_nil, List.append_nil]
  | cons phrase rest ih =>
    rw [List.flatMap_cons] at raised ⊢
    obtain ⟨first, others⟩ := List.forall_mem_append.mp raised
    rw [← List.append_assoc]
    refine ih others ?_
    rcases phrase.selected_or_untouched with ⟨touches, failure, rfl⟩ | untouched
    · exact latest_chipSelect_raised past _
        (first _ (List.mem_append_right _ (List.mem_singleton.mpr rfl)))
    · rw [latest_append, latest_eq_none untouched]
      exact high

/-- Within a phrase chip-select is left alone before an exchange. -/
theorem Phrase.untouched_before_exchange {phrase : Phrase} {inside rest : List Event}
    {sent : List UInt8} {under : Configuration} {failure : Option Cause}
    (calls : phrase.calls = inside ++ .exchange sent under failure :: rest) :
    latest .chipSelect inside = none := by
  refine latest_eq_none fun how outcome member => ?_
  rcases phrase.selected_or_untouched with ⟨touches, raised, rfl⟩ | untouched
  · rcases Phrase.mem_selected (calls ▸ List.mem_append_cons_self) with ⟨touch, same⟩ | same
    · cases touch <;> cases same
    · cases same
  · refine untouched how outcome ?_
    rw [calls]
    exact List.mem_append_left _ member

variable {σ : Type} [Devices σ]

/-- The calls of some stages are those of some phrases. -/
theorem trace_phrases (stages : List (Stage σ)) :
    ∃ phrases : List Phrase, trace stages = phrases.flatMap Phrase.calls := by
  induction stages with
  | nil => exact ⟨[], rfl⟩
  | cons stage rest ih =>
    obtain ⟨first, -, made⟩ := stage.phrases
    obtain ⟨others, more⟩ := ih
    refine ⟨first ++ others, ?_⟩
    rw [List.flatMap_append, ← made, ← more]
    rfl

/-- **An operation that touches chip-select raises it in the end**, whichever of its calls fail. -/
theorem endsRaised_operation (command : Command) (rig : Rig σ Bus) :
    EndsRaised (command.run rig).journal.events := by
  obtain ⟨phrases, -, made⟩ := Stage.phrases (⟨.operation command, rig⟩ : Stage σ)
  rw [show (command.run rig).journal.events = _ from made]
  exact endsRaised_phrases phrases

theorem endsRaised_bracket (profile : Profile) (body : Script) (rig : Rig σ Bus) :
    EndsRaised (withProfile profile body.run rig).journal.events := by
  obtain ⟨-, made⟩ := staged_bracket profile body rig (Script.run_stages body)
  obtain ⟨phrases, same⟩ := trace_phrases (bracketStages profile body body.stages rig)
  rw [made, show List.flatMap Stage.events _ = _ from same]
  exact endsRaised_phrases phrases

/-! ### Raw calls -/

theorem Lead.not_raw {lead : List Event} (leads : Lead lead) :
    ∀ event ∈ lead, ¬ IsRaw event := by
  cases leads with
  | write frame under => simp [writeLead, IsRaw]
  | read ready execute under => simp [readLead, IsRaw]

theorem Lead.raises {lead : List Event} (leads : Lead lead) :
    Event.drive .chipSelect .high none ∈ lead := by
  cases leads with
  | write frame under => simp [writeLead]
  | read ready execute under => simp [readLead]

/-- Raw calls are made with chip-select low. -/
theorem raw_selected {stages : List (Stage σ)} {before after : List Event} {event : Event}
    (calls : trace stages = before ++ event :: after) (raw : IsRaw event) (past : List Event) :
    latest .chipSelect (past ++ before) = some .low := by
  obtain ⟨earlier, stage, later, inside, rest, -, made, rfl, -⟩ := trace_split calls
  obtain ⟨gone, lead, rfl, leads⟩ := Stage.raw_led made raw
  rw [← List.append_assoc, ← List.append_assoc]
  exact (leads.latest _).2

/-- **Between two raw calls chip-select is raised**, by the lead of the second one. -/
theorem raised_between {stages : List (Stage σ)} {before between after : List Event}
    {first second : Event}
    (calls : trace stages = before ++ first :: (between ++ second :: after))
    (raw : IsRaw first) (again : IsRaw second) : .drive .chipSelect .high none ∈ between := by
  rw [← List.cons_append, ← List.append_assoc] at calls
  obtain ⟨earlier, stage, later, inside, rest, -, made, same, -⟩ := trace_split calls
  obtain ⟨gone, lead, rfl, leads⟩ := Stage.raw_led made again
  rw [← List.append_assoc] at same
  -- the first raw call is not in the lead of the second one, so that lead is all in between
  have outside : first ∉ lead := fun member => leads.not_raw first member raw
  rcases List.append_eq_append_iff.mp same with ⟨held, -, follow⟩ | ⟨held, -, follow⟩
  · cases held with
    | nil =>
      rw [List.nil_append] at follow
      exact absurd (follow ▸ List.mem_cons_self) outside
    | cons head tail =>
      rw [(List.cons.inj follow).2]
      exact List.mem_append_right tail leads.raises
  · exact absurd (follow ▸ List.mem_append_right held List.mem_cons_self) outside

/-! ### Runs -/

variable {session : Session σ} {start : Rig σ Bus}

/-- **Chip-select frames raw calls and idles high**, in every session whose bus could be brought up,
whatever its script does and whichever of its calls fail. Raw calls are made with chip-select low,
and it is raised between any two of them. An operation that touches chip-select raises it in the
end, and so does a bracket. If no raise fails, chip-select is high at every exchange and wherever a
stage ends. -/
theorem chip_select_frames_raw_calls (opened : session.start? = some start) :
    (session.script.run start).journal.events = trace (session.stages start) ∧
      (∀ before event after, trace (session.stages start) = before ++ event :: after →
        IsRaw event →
          latest .chipSelect (session.opening.journal.events ++ before) = some .low) ∧
      (∀ before first between second after,
        trace (session.stages start) = before ++ first :: (between ++ second :: after) →
          IsRaw first → IsRaw second → .drive .chipSelect .high none ∈ between) ∧
      (∀ (command : Command) (rig : Rig σ Bus), EndsRaised (command.run rig).journal.events) ∧
      (∀ profile (body : Script) (rig : Rig σ Bus),
        EndsRaised (withProfile profile body.run rig).journal.events) ∧
      ((∀ event ∈ trace (session.stages start), event.isFailedRaise = false) →
        (∀ before sent under failure after,
          trace (session.stages start) = before ++ .exchange sent under failure :: after →
            latest .chipSelect (session.opening.journal.events ++ before) = some .high) ∧
        ∀ earlier later, session.stages start = earlier ++ later →
          latest .chipSelect (session.opening.journal.events ++ trace earlier) = some .high) := by
  refine ⟨(Script.run_stages session.script start).2,
    fun _ _ _ calls raw => raw_selected calls raw _,
    fun _ _ _ _ _ calls raw again => raised_between calls raw again, endsRaised_operation,
    endsRaised_bracket, fun raised => ?_⟩
  have high : latest .chipSelect session.opening.journal.events = some .high := by
    rw [Session.opening_events opened]
    rfl
  constructor
  · intro before sent under failure after calls
    obtain ⟨phrases, made⟩ := trace_phrases (session.stages start)
    rw [made] at calls raised
    obtain ⟨earlier, phrase, later, inside, rest, rfl, said, rfl, -⟩ := flatMap_split calls
    rw [List.flatMap_append, List.forall_mem_append] at raised
    rw [← List.append_assoc, latest_append, Phrase.untouched_before_exchange said]
    exact latest_phrases earlier raised.1 high
  · intro earlier later split
    rw [split, trace, List.flatMap_append, List.forall_mem_append] at raised
    obtain ⟨phrases, made⟩ := trace_phrases earlier
    rw [made]
    exact latest_phrases phrases (made ▸ raised.1) high

/-- A session in which the device takes one byte of a payload only, and chip-select does not fall to
arm a module after that. -/
def hindered : Session (Bench.Board Unit) where
  primary := ⟨⟨0⟩, 16, 500000⟩
  devices := (Bench.Board.fresh []).planned
    [⟨.write, 0, .count 1⟩, ⟨.drive .chipSelect .low, 2, .fault .timeout⟩]
  script :=
    .bracket .primary
      (.step (.writeModule 3 [7, 8]) true (.step (.readModule 3) false .finish)) true <|
    .step (.transfer [1]) false .finish

/-- The rig that its script starts on. -/
def hinderedStart : Rig (Bench.Board Unit) Bus :=
  ⟨hindered.opening.state.devices, .fresh hindered.primary⟩

/-- The payload goes out with chip-select low, and the plain exchange finds it high, as everything
does after one of these operations. -/
theorem hindered_framed : hindered.start? = some hinderedStart ∧
    (trace (hindered.stages hinderedStart)).countP (·.fault?.isSome) = 2 ∧
    (∀ event ∈ trace (hindered.stages hinderedStart), event.isFailedRaise = false) ∧
    (hindered.script.run hinderedStart).journal.events = trace (hindered.stages hinderedStart) ∧
    (∃ before after, trace (hindered.stages hinderedStart) =
        before ++ .write [7, 8] (.moved 1) :: after ∧
      latest .chipSelect (hindered.opening.journal.events ++ before) = some .low) ∧
    (∃ before after, trace (hindered.stages hinderedStart) =
        before ++ .exchange [1] ⟨⟨0⟩, 16, 500000⟩ none :: after ∧
      latest .chipSelect (hindered.opening.journal.events ++ before) = some .high) ∧
    ∀ earlier later, hindered.stages hinderedStart = earlier ++ later →
      latest .chipSelect (hindered.opening.journal.events ++ trace earlier) = some .high := by
  have opened : hindered.start? = some hinderedStart := rfl
  have raised : ∀ event ∈ trace (hindered.stages hinderedStart), event.isFailedRaise = false := by
    decide +kernel
  obtain ⟨made, selected, -, -, -, idles⟩ := chip_select_frames_raw_calls opened
  obtain ⟨exchanged, ended⟩ := idles raised
  have payload : trace (hindered.stages hinderedStart) =
      (trace (hindered.stages hinderedStart)).take 8 ++ .write [7, 8] (.moved 1) ::
        (trace (hindered.stages hinderedStart)).drop 9 := by decide +kernel
  have plain : trace (hindered.stages hinderedStart) =
      (trace (hindered.stages hinderedStart)).take 21 ++ .exchange [1] ⟨⟨0⟩, 16, 500000⟩ none ::
        (trace (hindered.stages hinderedStart)).drop 22 := by decide +kernel
  exact ⟨opened, by decide +kernel, raised, made,
    ⟨_, _, payload, selected _ _ _ payload trivial⟩,
    ⟨_, _, plain, exchanged _ _ _ _ _ plain⟩, ended⟩

end Serial

end SensorCape
