/-
**Watching the calls of an action.**

A monitor follows the calls of a run one by one. It remembers what it needs of the calls so far,
takes some things for granted of how calls end, and says which calls may be made. `Monitor.Leads`
says of an action that, from a given past and a given bus and whatever the devices answer, it makes
only calls that may be made, and how it ends.

* `admits_split`: a run that a monitor admits makes every single call at a time it may be made.
* `leads_bind`, `leads_ensuring`, `leads_command` and the rules beside them follow the structure of
  the actions. No rule mentions the devices, so what is shown by them holds for every answer to
  every call.
-/

import SensorCape.Devices

namespace SensorCape

variable {G σ τ α β : Type}

/-- What follows the calls of a run. -/
structure Monitor (G : Type) where
  /-- What is remembered once a call was made. -/
  next : G → Event → G
  /-- What is taken for granted of every call. -/
  assumes : Event → Prop
  /-- Which calls may be made. -/
  allows : G → Event → Prop

namespace Monitor

variable {watch : Monitor G} {past : G} {bus : τ}

/-! ### Runs of calls -/

/-- What is remembered after some calls. -/
def after (watch : Monitor G) (past : G) (events : List Event) : G :=
  events.foldl watch.next past

/-- Every one of some calls may be made when its turn comes. -/
def Admits (watch : Monitor G) : G → List Event → Prop
  | _, [] => True
  | past, event :: rest => watch.allows past event ∧ watch.Admits (watch.next past event) rest

@[simp] theorem after_append (events others : List Event) :
    watch.after past (events ++ others) = watch.after (watch.after past events) others :=
  List.foldl_append

theorem admits_append (events others : List Event) :
    watch.Admits past (events ++ others) ↔
      watch.Admits past events ∧ watch.Admits (watch.after past events) others := by
  induction events generalizing past with
  | nil => simp [Admits, after]
  | cons event rest ih =>
    simp only [List.cons_append, Admits, ih, and_assoc]
    rfl

/-- **Each call of an admitted run may be made when its turn comes.** -/
theorem admits_split {before rest : List Event} {event : Event}
    (admitted : watch.Admits past (before ++ event :: rest)) :
    watch.allows (watch.after past before) event :=
  ((admits_append before (event :: rest)).mp admitted).2.1

/-- What holds of every call that may be made holds of all calls of an admitted run. -/
theorem forall_of_admits {kind : Event → Prop} {events : List Event}
    (allowed : ∀ past event, watch.allows past event → kind event)
    (admitted : watch.Admits past events) : ∀ event ∈ events, kind event := by
  intro event member
  obtain ⟨before, rest, rfl⟩ := List.append_of_mem member
  exact allowed _ event (admits_split admitted)

/-- Remembers every call. -/
def history (allows : List Event → Event → Prop) : Monitor (List Event) :=
  ⟨fun past event => past ++ [event], fun _ => True, allows⟩

@[simp] theorem after_history (allows : List Event → Event → Prop) (past events : List Event) :
    (history allows).after past events = past ++ events := by
  induction events generalizing past with
  | nil => simp [after]
  | cons event rest ih =>
    show (history allows).after (past ++ [event]) rest = past ++ event :: rest
    rw [ih, List.append_assoc]
    rfl

/-! ### What an action leads to -/

/-- From a past and a bus, an action makes only calls that may be made and ends as `post` says,
whatever the devices answer within what is taken for granted. -/
def Leads (watch : Monitor G) (past : G) (bus : τ) (body : OnBus σ τ α)
    (post : Except Fault α → G → τ → Prop) : Prop :=
  ∀ devices : σ, (∀ event ∈ (body ⟨devices, bus⟩).journal.events, watch.assumes event) →
    watch.Admits past (body ⟨devices, bus⟩).journal.events ∧
      post (body ⟨devices, bus⟩).result (watch.after past (body ⟨devices, bus⟩).journal.events)
        (body ⟨devices, bus⟩).state.bus

/-- What an action leads to, said of a rig. -/
theorem Leads.run {body : OnBus σ τ α} {post : Except Fault α → G → τ → Prop} (past : G)
    (rig : Rig σ τ) (leads : watch.Leads past rig.bus body post)
    (assumed : ∀ event ∈ (body rig).journal.events, watch.assumes event) :
    watch.Admits past (body rig).journal.events ∧
      post (body rig).result (watch.after past (body rig).journal.events) (body rig).state.bus :=
  leads rig.devices assumed

theorem leads_mono {body : OnBus σ τ α} {post weaker : Except Fault α → G → τ → Prop}
    (leads : watch.Leads past bus body post)
    (weaken : ∀ result past bus, post result past bus → weaker result past bus) :
    watch.Leads past bus body weaker := fun devices assumed =>
  ⟨(leads devices assumed).1, weaken _ _ _ (leads devices assumed).2⟩

/-- Actions that do the same on a bus lead to the same. -/
theorem leads_congr {body other : OnBus σ τ α} {post : Except Fault α → G → τ → Prop}
    (same : ∀ devices, body ⟨devices, bus⟩ = other ⟨devices, bus⟩)
    (leads : watch.Leads past bus other post) : watch.Leads past bus body post := by
  intro devices assumed
  rw [same devices] at assumed ⊢
  exact leads devices assumed

/-! ### Actions without calls -/

section Quiet

theorem leads_pure {value : α} {post : Except Fault α → G → τ → Prop}
    (holds : post (.ok value) past bus) :
    watch.Leads past bus (pure value : OnBus σ τ α) post := fun _ _ => ⟨trivial, holds⟩

theorem leads_fail {fault : Fault} {post : Except Fault α → G → τ → Prop}
    (holds : post (.error fault) past bus) :
    watch.Leads past bus (Action.fail fault : OnBus σ τ α) post := fun _ _ => ⟨trivial, holds⟩

theorem leads_ofExcept {result : Except Fault α} {post : Except Fault α → G → τ → Prop}
    (holds : post result past bus) :
    watch.Leads past bus (Action.ofExcept result : OnBus σ τ α) post := by
  cases result with
  | ok value => exact leads_pure holds
  | error fault => exact leads_fail holds

theorem leads_note {severity : Severity} {text : String} {post : Except Fault Unit → G → τ → Prop}
    (holds : post (.ok ()) past bus) :
    watch.Leads past bus (Action.note severity text : OnBus σ τ Unit) post :=
  fun _ _ => ⟨trivial, holds⟩

theorem leads_memory {post : Except Fault τ → G → τ → Prop} (holds : post (.ok bus) past bus) :
    watch.Leads past bus (Rig.memory : OnBus σ τ τ) post := fun _ _ => ⟨trivial, holds⟩

theorem leads_remember {change : τ → τ} {post : Except Fault Unit → G → τ → Prop}
    (holds : post (.ok ()) past (change bus)) :
    watch.Leads past bus (Rig.remember change : OnBus σ τ Unit) post := fun _ _ => ⟨trivial, holds⟩

end Quiet

/-! ### Composed actions -/

section Composed

theorem leads_bind {first : OnBus σ τ α} {next : α → OnBus σ τ β}
    {post : Except Fault β → G → τ → Prop}
    (leads : watch.Leads past bus first fun result past bus =>
      match result with
      | .ok value => watch.Leads past bus (next value) post
      | .error fault => post (.error fault) past bus) :
    watch.Leads past bus (first >>= next) post := by
  intro devices assumed
  rw [Action.bind_apply] at assumed ⊢
  cases ended : (first ⟨devices, bus⟩).result with
  | error fault =>
    simp only [ended] at assumed ⊢
    have reached := leads devices assumed
    rw [ended] at reached
    exact reached
  | ok value =>
    simp only [ended, Journal.events_append, List.mem_append] at assumed ⊢
    have reached := leads devices fun event member => assumed event (.inl member)
    rw [ended] at reached
    have finished := reached.2 _ fun event member => assumed event (.inr member)
    rw [admits_append, after_append]
    exact ⟨⟨reached.1, finished.1⟩, finished.2⟩

/-- A bracket is led through its body and then, however that ended, through its clean-up. -/
theorem leads_ensuring {body : OnBus σ τ α} {cleanup : OnBus σ τ Unit}
    {post : Except Fault α → G → τ → Prop}
    (leads : watch.Leads past bus body fun inner past bus =>
      watch.Leads past bus cleanup fun outer past bus =>
        post (Action.settled inner outer) past bus) :
    watch.Leads past bus (Action.ensuring body cleanup) post := by
  intro devices assumed
  simp only [Action.ensuring, Journal.events_append, List.mem_append] at assumed ⊢
  have reached := leads devices fun event member => assumed event (.inl member)
  have finished := reached.2 _ fun event member => assumed event (.inr member)
  rw [admits_append, after_append]
  exact ⟨⟨reached.1, finished.1⟩, finished.2⟩

theorem leads_onFault {body : OnBus σ τ α} {cleanup : OnBus σ τ Unit}
    {post : Except Fault α → G → τ → Prop}
    (leads : watch.Leads past bus body fun result past bus =>
      match result with
      | .ok value => post (.ok value) past bus
      | .error fault =>
        watch.Leads past bus cleanup fun _ past bus => post (.error fault) past bus) :
    watch.Leads past bus (Action.onFault body cleanup) post := by
  intro devices assumed
  simp only [Action.onFault] at assumed ⊢
  cases ended : (body ⟨devices, bus⟩).result with
  | ok value =>
    simp only [ended] at assumed ⊢
    have reached := leads devices assumed
    rw [ended] at reached
    exact reached
  | error fault =>
    simp only [ended, Journal.events_append, List.mem_append] at assumed ⊢
    have reached := leads devices fun event member => assumed event (.inl member)
    rw [ended] at reached
    have finished := reached.2 _ fun event member => assumed event (.inr member)
    rw [admits_append, after_append]
    exact ⟨⟨reached.1, finished.1⟩, finished.2⟩

end Composed

/-! ### Calls -/

section Calls

theorem leads_call {ask : σ → α × σ} {event : α → Event} {post : Except Fault α → G → τ → Prop}
    (answered : ∀ answer, watch.assumes (event answer) →
      watch.allows past (event answer) ∧
        post (.ok answer) (watch.next past (event answer)) bus) :
    watch.Leads past bus (Rig.call ask event) post := by
  intro devices assumed
  have made := answered (ask devices).1 (assumed _ List.mem_cons_self)
  exact ⟨⟨made.1, trivial⟩, made.2⟩

/-- A call without data ends with the fault that its event reports. -/
theorem leads_command {ρ : Type} {ask : σ → ρ × σ} {event : ρ → Event}
    {post : Except Fault Unit → G → τ → Prop}
    (answered : ∀ answer, watch.assumes (event answer) →
      watch.allows past (event answer) ∧
        match (event answer).fault? with
        | none => post (.ok ()) (watch.next past (event answer)) bus
        | some fault => post (.error fault) (watch.next past (event answer)) bus) :
    watch.Leads past bus (Rig.command ask event) post := by
  refine leads_bind (leads_call fun answer assumed => ⟨(answered answer assumed).1, ?_⟩)
  have ended := (answered answer assumed).2
  show watch.Leads _ bus (Rig.expectNone (event answer).fault?) post
  cases failure : (event answer).fault? with
  | none =>
    rw [failure] at ended
    exact leads_pure ended
  | some fault =>
    rw [failure] at ended
    exact leads_fail ended

theorem leads_drive [Devices σ] {line : Line} {how : Drive}
    {post : Except Fault Unit → G → τ → Prop}
    (made : watch.assumes (.drive line how none) →
      watch.allows past (.drive line how none) ∧
        post (.ok ()) (watch.next past (.drive line how none)) bus)
    (refused : ∀ fault, watch.assumes (.drive line how (some fault)) →
      watch.allows past (.drive line how (some fault)) ∧
        post (.error fault) (watch.next past (.drive line how (some fault))) bus) :
    watch.Leads past bus (Rig.drive line how : OnBus σ τ Unit) post := by
  refine leads_command fun failure assumed => ?_
  cases failure with
  | none => exact made assumed
  | some fault => exact refused fault assumed

end Calls

end Monitor

end SensorCape
