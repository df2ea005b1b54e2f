/-
**Runs that succeed.**

A sequence of actions succeeds only if each of its parts does, and then its calls are theirs, one
after the other. So what a successful run has done is found by taking it apart along its action.

* `Ran`: an action succeeds with a value, these are its calls, and this is the state that it leaves.
* `Ran.bind`, `Ran.ensuring`, `Ran.drive`: the parts of a run.
-/

import SensorCape.Devices

namespace SensorCape

/-- An action succeeds with a value, makes some calls and leaves a last state. -/
structure Ran {ε S α : Type} (body : Action ε S α) (start : S) (value : α) (events : List ε)
    (last : S) : Prop where
  result : (body start).result = .ok value
  events : (body start).journal.events = events
  state : (body start).state = last

namespace Ran

section Parts

variable {ε S α β : Type} {start last : S} {value : α} {produced : β} {events : List ε}

theorem of_ok {body : Action ε S α} (succeeds : (body start).result = .ok value) :
    Ran body start value (body start).journal.events (body start).state := ⟨succeeds, rfl, rfl⟩

theorem congr {body other : Action ε S α} (same : body start = other start)
    (ran : Ran body start value events last) : Ran other start value events last := by
  obtain ⟨result, made, ended⟩ := ran
  rw [same] at result made ended
  exact ⟨result, made, ended⟩

theorem pure {given : α} (ran : Ran (pure given : Action ε S α) start value events last) :
    given = value ∧ events = [] ∧ start = last := by
  obtain ⟨result, rfl, rfl⟩ := ran
  cases result
  exact ⟨rfl, rfl, rfl⟩

/-- **A sequence that succeeds is its two parts.** -/
theorem bind {first : Action ε S α} {next : α → Action ε S β}
    (ran : Ran (first >>= next) start produced events last) :
    ∃ value before middle after, Ran first start value before middle ∧
      Ran (next value) middle produced after last ∧ events = before ++ after := by
  obtain ⟨result, rfl, rfl⟩ := ran
  rw [Action.bind_apply] at result ⊢
  cases found : (first start).result with
  | error fault =>
    rw [found] at result
    cases result
  | ok value =>
    rw [found] at result
    exact ⟨value, _, _, _, of_ok found, of_ok result, rfl⟩

/-- **A bracket that succeeds is its body and its clean-up.** -/
theorem ensuring {body : Action ε S α} {cleanup : Action ε S Unit}
    (ran : Ran (Action.ensuring body cleanup) start value events last) :
    ∃ before middle after, Ran body start value before middle ∧
      Ran cleanup middle () after last ∧ events = before ++ after := by
  obtain ⟨result, rfl, rfl⟩ := ran
  obtain ⟨inner, outer⟩ := (Action.settled_eq_ok _ _ _).mp result
  exact ⟨_, _, _, of_ok inner, of_ok outer, rfl⟩

end Parts

section Calls

variable {σ τ : Type} {start last : Rig σ τ} {events : List Event}

theorem memory {found : τ} (ran : Ran (Rig.memory : OnBus σ τ τ) start found events last) :
    found = start.bus ∧ events = [] ∧ start = last := by
  obtain ⟨result, rfl, rfl⟩ := ran
  cases result
  exact ⟨rfl, rfl, rfl⟩

theorem remember {change : τ → τ}
    (ran : Ran (Rig.remember change : OnBus σ τ Unit) start () events last) :
    events = [] ∧ last = { start with bus := change start.bus } := by
  obtain ⟨-, rfl, rfl⟩ := ran
  exact ⟨rfl, rfl⟩

/-- A line was driven. -/
theorem drive [Devices σ] {line : Line} {how : Drive}
    (ran : Ran (Rig.drive line how : OnBus σ τ Unit) start () events last) :
    events = [.drive line how none] ∧ last.bus = start.bus := by
  obtain ⟨result, rfl, rfl⟩ := ran
  simp only [Rig.drive, Rig.command, Action.bind_apply, Rig.call, Event.fault?] at result ⊢
  cases answered : (Devices.drive line how start.devices).1 with
  | none => exact ⟨rfl, rfl⟩
  | some fault =>
    rw [answered] at result
    cases result

end Calls

end Ran

end SensorCape
