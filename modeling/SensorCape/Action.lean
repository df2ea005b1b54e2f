/-
**Actions.**

An action works on a state, may fail with a `Fault`, and leaves a `Journal`: the calls it made, the
log records it wrote and the samples it published, each in order. State and journal outlive a
failure, so what a failed action did stays visible. Nothing retries by itself.

* `Action.bind_apply`: an action that fails ends the sequence; the journal keeps what it did.
* `Action.ensuring`: the clean-up always runs; a fault of the body is reported before one of the
  clean-up. Every bracket of the board (profile, strobe, chip-select, park) is one of these.
-/

import SensorCape.Fault
import SensorCape.Telemetry

namespace SensorCape

/-! ### Journals -/

/-- What an action leaves behind besides its result and the state, in order of time. -/
structure Journal (ε : Type) where
  events : List ε
  log : List Record
  samples : List Sample

namespace Journal

variable {ε : Type}

/-- The journal of an action that did nothing. -/
def empty : Journal ε := ⟨[], [], []⟩

/-- One journal after another. -/
def append (first second : Journal ε) : Journal ε :=
  ⟨first.events ++ second.events, first.log ++ second.log, first.samples ++ second.samples⟩

instance : Append (Journal ε) := ⟨append⟩

@[simp] theorem events_append (first second : Journal ε) :
    (first ++ second).events = first.events ++ second.events := rfl

@[simp] theorem log_append (first second : Journal ε) :
    (first ++ second).log = first.log ++ second.log := rfl

@[simp] theorem samples_append (first second : Journal ε) :
    (first ++ second).samples = first.samples ++ second.samples := rfl

@[simp] theorem empty_append (journal : Journal ε) : empty ++ journal = journal := by
  cases journal; rfl

@[simp] theorem append_empty (journal : Journal ε) : journal ++ empty = journal := by
  cases journal with
  | mk events log samples => show append _ _ = _; simp [append, empty]

theorem append_assoc (first second third : Journal ε) :
    first ++ second ++ third = first ++ (second ++ third) := by
  show append (append _ _) _ = append _ (append _ _)
  simp [append, List.append_assoc]

end Journal

/-! ### Actions -/

/-- What became of an action. -/
structure Outcome (ε S α : Type) where
  result : Except Fault α
  journal : Journal ε
  state : S

/-- An action on a state `S` whose calls are recorded as events `ε`. -/
def Action (ε S α : Type) : Type := S → Outcome ε S α

namespace Action

variable {ε S α β : Type}

/-- Does nothing and returns a value. -/
def done (value : α) : Action ε S α := fun state => ⟨.ok value, .empty, state⟩

/-- Runs one action, then the next one on its value, unless the first one failed. -/
def andThen (first : Action ε S α) (next : α → Action ε S β) : Action ε S β := fun state =>
  let before := first state
  match before.result with
  | .ok value =>
    let after := next value before.state
    ⟨after.result, before.journal ++ after.journal, after.state⟩
  | .error fault => ⟨.error fault, before.journal, before.state⟩

instance : Monad (Action ε S) where
  pure := done
  bind := andThen

/-- Fails without doing anything. -/
def fail (fault : Fault) : Action ε S α := fun state => ⟨.error fault, .empty, state⟩

/-- Takes a result that is already there. -/
def ofExcept : Except Fault α → Action ε S α
  | .ok value => done value
  | .error fault => fail fault

/-- The state as it is. -/
def get : Action ε S S := fun state => ⟨.ok state, .empty, state⟩

/-- Changes the state. -/
def modify (change : S → S) : Action ε S Unit := fun state => ⟨.ok (), .empty, change state⟩

/-- Writes a log record. -/
def note (severity : Severity) (text : String) : Action ε S Unit := fun state =>
  ⟨.ok (), ⟨[], [⟨severity, text⟩], []⟩, state⟩

/-- Publishes a sample. -/
def publish (sensor field : String) (value : Value) : Action ε S Unit := fun state =>
  ⟨.ok (), ⟨[], [], [⟨sensor, field, value⟩]⟩, state⟩

/-- Runs an action and hands out its result, be it a fault, as a value. -/
def attempt (body : Action ε S α) : Action ε S (Except Fault α) := fun state =>
  let outcome := body state
  ⟨.ok outcome.result, outcome.journal, outcome.state⟩

/-- The result of a body that was followed by a clean-up: a fault of the body comes first. -/
def settled (body : Except Fault α) (cleanup : Except Fault Unit) : Except Fault α :=
  match body, cleanup with
  | .error fault, _ => .error fault
  | .ok _, .error fault => .error fault
  | .ok value, .ok () => .ok value

/-- Runs a body and then, whether it succeeded or not, a clean-up. -/
def ensuring (body : Action ε S α) (cleanup : Action ε S Unit) : Action ε S α := fun state =>
  let inner := body state
  let after := cleanup inner.state
  ⟨settled inner.result after.result, inner.journal ++ after.journal, after.state⟩

/-- Runs a body and, only if it failed, a clean-up whose own result is dropped. -/
def onFault (body : Action ε S α) (cleanup : Action ε S Unit) : Action ε S α := fun state =>
  let inner := body state
  match inner.result with
  | .ok _ => inner
  | .error fault =>
    let after := cleanup inner.state
    ⟨.error fault, inner.journal ++ after.journal, after.state⟩

/-- Puts a changed fault in the place of a fault. -/
def relabel (change : Fault → Fault) (body : Action ε S α) : Action ε S α := fun state =>
  let outcome := body state
  ⟨outcome.result.mapError change, outcome.journal, outcome.state⟩

/-- Runs an action on a part of a larger state. -/
def within {T : Type} (view : T → S) (put : S → T → T) (body : Action ε S α) : Action ε T α :=
  fun whole =>
    let outcome := body (view whole)
    ⟨outcome.result, outcome.journal, put outcome.state whole⟩

/-! ### How actions run -/

@[simp] theorem pure_apply (value : α) (state : S) :
    (pure value : Action ε S α) state = ⟨.ok value, .empty, state⟩ := rfl

/-- **A failed action ends the sequence, and its journal and state stay.** -/
theorem bind_apply (first : Action ε S α) (next : α → Action ε S β) (state : S) :
    (first >>= next) state =
      match (first state).result with
      | .ok value =>
        ⟨(next value (first state).state).result,
          (first state).journal ++ (next value (first state).state).journal,
          (next value (first state).state).state⟩
      | .error fault => ⟨.error fault, (first state).journal, (first state).state⟩ := rfl

theorem bind_ok {first : Action ε S α} {state : S} {value : α}
    (found : (first state).result = .ok value) (next : α → Action ε S β) :
    (first >>= next) state =
      ⟨(next value (first state).state).result,
        (first state).journal ++ (next value (first state).state).journal,
        (next value (first state).state).state⟩ := by
  rw [bind_apply, found]

theorem bind_error {first : Action ε S α} {state : S} {fault : Fault}
    (found : (first state).result = .error fault) (next : α → Action ε S β) :
    (first >>= next) state = ⟨.error fault, (first state).journal, (first state).state⟩ := by
  rw [bind_apply, found]

@[simp] theorem fail_apply (fault : Fault) (state : S) :
    (fail fault : Action ε S α) state = ⟨.error fault, .empty, state⟩ := rfl

@[simp] theorem ofExcept_ok (value : α) :
    (ofExcept (.ok value) : Action ε S α) = pure value := rfl

@[simp] theorem ofExcept_error (fault : Fault) :
    (ofExcept (.error fault) : Action ε S α) = fail fault := rfl

@[simp] theorem get_apply (state : S) :
    (get : Action ε S S) state = ⟨.ok state, .empty, state⟩ := rfl

@[simp] theorem modify_apply (change : S → S) (state : S) :
    (modify change : Action ε S Unit) state = ⟨.ok (), .empty, change state⟩ := rfl

/-- The result of a bracket is a success only if body and clean-up both succeeded. -/
theorem settled_eq_ok (body : Except Fault α) (cleanup : Except Fault Unit) (value : α) :
    settled body cleanup = .ok value ↔ body = .ok value ∧ cleanup = .ok () := by
  cases body <;> cases cleanup <;> simp [settled]

end Action

end SensorCape
