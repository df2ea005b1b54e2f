/-
**Operations on devices that do not fail.**

If no call fails, a selection and a parking succeed: each reports the fault of a call or none. Only
the selector's missing address is a fault without a call, and a count beyond what was asked for.

* `Unfailed`: calls that went well. `Succeeds`: an action whose calls all went well has succeeded.
* `succeeds_selectRoute`, `succeeds_park`: **a selector with an address obeys if its devices do**,
  so that a transaction begins its work.
-/

import SensorCape.Proofs.Register.Selection

set_option linter.unusedSectionVars false

namespace SensorCape

instance : DecidablePred Event.Modest
  | .write data (.moved bytes) | .writeTarget _ data (.moved bytes) =>
    inferInstanceAs (Decidable (bytes ≤ data.length))
  | .read length (.moved bytes) | .readTarget _ length (.moved bytes) =>
    inferInstanceAs (Decidable (bytes ≤ length))
  | .write _ (.refused _) | .writeTarget _ _ (.refused _) | .read _ (.refused _)
  | .readTarget _ _ (.refused _) | .drive _ _ _ | .configure _ _ | .exchange _ _ _ | .close
  | .openTarget _ _ | .routeBoard _ _ | .parkBoard _ => isTrue trivial

/-- Calls of which none failed, and none claims to have moved more than it was asked to. -/
def Unfailed (events : List Event) : Prop :=
  ∀ event ∈ events, event.fault? = none ∧ event.Modest

instance (events : List Event) : Decidable (Unfailed events) :=
  inferInstanceAs (Decidable (∀ event ∈ events, event.fault? = none ∧ event.Modest))

theorem unfailed_append {events others : List Event} :
    Unfailed (events ++ others) ↔ Unfailed events ∧ Unfailed others := List.forall_mem_append

/-! ### Actions that succeed -/

section Succeeding

variable {σ τ α β : Type} {rig : Rig σ τ}

/-- An action succeeds from a rig if none of its calls fails. -/
def Succeeds (body : OnBus σ τ α) (rig : Rig σ τ) : Prop :=
  Unfailed (body rig).journal.events → ∃ value, (body rig).result = .ok value

/-- An action that reports its first fault has succeeded if there was none. -/
theorem Prompt.succeeds {yields : α → Prop} {body : OnBus σ τ α} (prompt : Prompt yields body)
    (rig : Rig σ τ) : Succeeds body rig := by
  intro unfailed
  obtain ⟨-, reported, -⟩ :=
    Monitor.Leads.run none rig (prompt rig.bus) fun event member => (unfailed event member).2
  rw [(after_eq_none _).mpr fun event member => (unfailed event member).1] at reported
  cases ended : (body rig).result with
  | ok value => exact ⟨value, rfl⟩
  | error fault =>
    rw [ended] at reported
    cases reported

theorem Succeeds.congr {body other : OnBus σ τ α} (succeeds : Succeeds other rig)
    (same : body rig = other rig) : Succeeds body rig := by
  unfold Succeeds
  rw [same]
  exact succeeds

/-- A sequence succeeds if its parts do, the second one wherever the first one leads. -/
theorem succeeds_bind {first : OnBus σ τ α} {next : α → OnBus σ τ β}
    (succeeds : Succeeds first rig)
    (follow : ∀ value events last, Ran first rig value events last →
      Succeeds (next value) last) : Succeeds (first >>= next) rig := by
  intro unfailed
  rw [Action.bind_apply] at unfailed ⊢
  cases found : (first rig).result with
  | error fault =>
    rw [found] at unfailed
    obtain ⟨value, ended⟩ := succeeds unfailed
    rw [found] at ended
    cases ended
  | ok value =>
    rw [found] at unfailed
    exact follow value _ _ (Ran.of_ok found) (unfailed_append.mp unfailed).2

end Succeeding

/-! ### Selections and parkings -/

namespace Register

open Serial (ModuleAddress)

variable {σ α : Type} [Devices σ] {address : ModuleAddress} {rig : Rig σ (Shared Serial.Bus)}

theorem prompt_readyMux : Prompt (fun _ => True) (readyMux : OnBoard σ Unit) := by
  refine prompt_bind cleans_memory.prompt fun shared _ => ?_
  by_cases ready : shared.register.muxReady = true
  · rw [if_pos ready]
    exact prompt_pure trivial
  · rw [if_neg ready]
    exact prompt_bind (prompt_drive _ _) fun _ _ => prompt_bind (prompt_drive _ _) fun _ _ =>
      (cleans_remember _).prompt

theorem prompt_setMux (route : Route) :
    Prompt (fun _ => True) (setMux route : OnBoard σ Unit) :=
  prompt_bind prompt_readyMux fun _ _ => prompt_bind (prompt_drive _ _) fun _ _ =>
    prompt_drive _ _

/-- A code that is written through the selector, and then what the bus makes of it. -/
theorem succeeds_switch {body : OnBus σ Serial.Bus Unit} {code : UInt8}
    {change : Bus → Bus} (writes : body ⟨rig.devices, rig.bus.selector⟩ =
      Serial.writeCode address code ⟨rig.devices, rig.bus.selector⟩) :
    Succeeds (onSelector body >>= fun _ => rememberBus change : OnBoard σ Unit) rig := by
  refine succeeds_bind ?_ fun _ _ _ _ => (cleans_remember _).prompt.succeeds _
  exact ((Serial.prompt_writeCode address code).succeeds ⟨rig.devices, rig.bus.selector⟩).congr
    writes

/-- **A parking succeeds if none of its calls fails.** -/
theorem succeeds_park (configured : rig.bus.selector.extension = some address) :
    Succeeds (park (some .serial) : OnBoard σ Unit) rig :=
  succeeds_switch (Serial.parkExtension_configured configured)

theorem succeeds_setBoard (extension : Option Serial.ExtensionCode)
    (configured : rig.bus.selector.extension = some address) :
    Succeeds (setBoard (some .serial) extension : OnBoard σ Unit) rig := by
  cases extension with
  | some code => exact succeeds_switch (Serial.routeExtension_configured configured)
  | none =>
    refine succeeds_bind (cleans_memory.prompt.succeeds rig) fun shared events last ran => ?_
    obtain ⟨-, -, rfl⟩ := ran.memory
    by_cases chained : shared.register.routed.isSome = true
    · rw [if_pos chained]
      exact succeeds_park configured
    · rw [if_neg chained]
      exact fun _ => ⟨(), rfl⟩

/-- **A selection succeeds if none of its calls fails.** -/
theorem succeeds_selectRoute (route : Route)
    (configured : rig.bus.selector.extension = some address) :
    Succeeds (selectRoute (some .serial) route : OnBoard σ Unit) rig := by
  refine succeeds_bind ((prompt_setMux route).succeeds rig) fun _ _ last ran => ?_
  have still : last.bus.selector.extension = some address := by
    rw [(ran_setMux ran).2]
    exact configured
  exact succeeds_setBoard route.extension still

theorem transaction_selected {route : Route} {work : OnBoard σ α}
    (configured : rig.bus.selector.extension = some address)
    (unfailed : Unfailed (transaction (some .serial) route work rig).journal.events) :
    (selectRoute (some .serial) route rig).result = .ok () := by
  have first : (selectRoute (some .serial) route rig).journal.events <+:
      (transaction (some .serial) route work rig).journal.events :=
    (keeps_after (fun _ => ()) (fun _ _ => rfl) rig).2
  obtain ⟨_, selected⟩ := succeeds_selectRoute route configured fun event member =>
    unfailed event (first.subset member)
  exact selected

end Register

end SensorCape
