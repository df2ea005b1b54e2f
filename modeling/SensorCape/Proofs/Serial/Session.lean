/-
**Sessions.**

A session brings a bus up on some devices and runs a script on it. A bus that could be brought up
has made exactly the calls of its opening, each with success.

* `Session.opening_events`, `Session.start_bus`: what a successful opening leaves behind.
-/

import SensorCape.Proofs.Serial.Stages

namespace SensorCape

namespace Serial

variable {σ : Type} [Devices σ]

/-! ### Opening a bus -/

/-- A bus that is brought up on devices with a primary configuration, and a script for it. -/
structure Session (σ : Type) where
  primary : Configuration
  devices : σ
  script : Script

namespace Session

/-- The opening of a session. -/
def opening (session : Session σ) : Outcome Event (Rig σ Unit) Bus :=
  bringUp session.primary ⟨session.devices, ()⟩

/-- The rig that a session's script starts on, if the bus could be brought up. -/
def start? (session : Session σ) : Option (Rig σ Bus) :=
  match session.opening.result with
  | .ok bus => some ⟨session.opening.state.devices, bus⟩
  | .error _ => none

/-- The stages of a session's script. -/
def stages (session : Session σ) (start : Rig σ Bus) : List (Stage σ) :=
  session.script.stages start

end Session

/-- The calls of an opening in which nothing fails. -/
def openingCalls (primary : Configuration) : List Event :=
  [.configure (.mode primary.mode) none, .configure (.wordSize primary.wordSize) none,
    .configure (.speed primary.speed) none, .drive .chipSelect .output none,
    .drive .chipSelect .high none, .drive .strobe .output none, .drive .strobe .high none]

theorem leads_writeSetting {G τ : Type} {watch : Monitor G} {past : G} {bus : τ} {setting : Setting}
    {post : Except Fault Unit → G → τ → Prop}
    (written : watch.assumes (.configure setting none) →
      watch.allows past (.configure setting none) ∧
        post (.ok ()) (watch.next past (.configure setting none)) bus)
    (refused : ∀ cause, watch.assumes (.configure setting (some cause)) →
      watch.allows past (.configure setting (some cause)) ∧
        post (.error (.transferFailed 0 cause))
          (watch.next past (.configure setting (some cause))) bus) :
    watch.Leads past bus (writeSetting setting : OnBus σ τ Unit) post := by
  refine Monitor.leads_command fun failure assumed => ?_
  cases failure with
  | none => exact written assumed
  | some cause => exact refused cause assumed

/-- **A bus that could be brought up is fresh, and every call of its opening succeeded.** -/
theorem leads_bringUp {τ : Type} {bus : τ} (primary : Configuration) :
    (Monitor.history fun _ _ => True).Leads [] bus (bringUp primary : OnBus σ τ Bus)
      fun result past _ => ∀ opened, result = .ok opened →
        opened = Bus.fresh primary ∧ past = openingCalls primary := by
  have released : ∀ (fault : Fault) (past : List Event) (bus : τ),
      (Monitor.history fun _ _ => True).Leads past bus (release : OnBus σ τ Unit) fun _ past _ =>
        ∀ opened, (.error fault : Except Fault Bus) = .ok opened →
          opened = Bus.fresh primary ∧ past = openingCalls primary :=
    fun _ _ _ _ _ => ⟨⟨trivial, trivial⟩, nofun⟩
  refine Monitor.leads_onFault ?_
  refine Monitor.leads_bind (Monitor.leads_bind
    (leads_writeSetting (fun _ => ⟨trivial, ?_⟩) fun _ _ => ⟨trivial, released _ _ _⟩))
  refine Monitor.leads_bind
    (leads_writeSetting (fun _ => ⟨trivial, ?_⟩) fun _ _ => ⟨trivial, released _ _ _⟩)
  refine Monitor.leads_bind
    (leads_writeSetting (fun _ => ⟨trivial, ?_⟩) fun _ _ => ⟨trivial, released _ _ _⟩)
  refine Monitor.leads_pure ?_
  refine Monitor.leads_bind
    (Monitor.leads_drive (fun _ => ⟨trivial, ?_⟩) fun _ _ => ⟨trivial, released _ _ _⟩)
  refine Monitor.leads_bind
    (Monitor.leads_drive (fun _ => ⟨trivial, ?_⟩) fun _ _ => ⟨trivial, released _ _ _⟩)
  refine Monitor.leads_bind
    (Monitor.leads_drive (fun _ => ⟨trivial, ?_⟩) fun _ _ => ⟨trivial, released _ _ _⟩)
  refine Monitor.leads_bind
    (Monitor.leads_drive (fun _ => ⟨trivial, ?_⟩) fun _ _ => ⟨trivial, released _ _ _⟩)
  refine Monitor.leads_bind (Monitor.leads_note (Monitor.leads_pure fun opened same => ?_))
  cases same
  exact ⟨rfl, rfl⟩

namespace Session

variable {session : Session σ} {start : Rig σ Bus}

theorem opening_result (opened : session.start? = some start) :
    session.opening.result = .ok start.bus := by
  unfold start? at opened
  cases ended : session.opening.result with
  | ok bus =>
    rw [ended] at opened
    cases opened
    rfl
  | error fault =>
    rw [ended] at opened
    cases opened

/-- The bus of a session that was opened is fresh. -/
theorem start_bus (opened : session.start? = some start) : start.bus = Bus.fresh session.primary :=
  ((Monitor.Leads.run [] ⟨session.devices, ()⟩ (leads_bringUp session.primary)
    fun _ _ => trivial).2 _ (opening_result opened)).1

/-- The opening of a session that was opened made its calls, and all of them succeeded. -/
theorem opening_events (opened : session.start? = some start) :
    session.opening.journal.events = openingCalls session.primary := by
  have ended := ((Monitor.Leads.run [] ⟨session.devices, ()⟩ (leads_bringUp session.primary)
    fun _ _ => trivial).2 _ (opening_result opened)).2
  rw [Monitor.after_history, List.nil_append] at ended
  exact ended

end Session

end Serial

end SensorCape
