/-
**Switching profiles.**

What a switch to a profile can do, and what a bracket around a body does to the bus.

* `leads_switchTo`: a switch writes settings of the target that are not applied, one after the
  other; either all of them are applied in the end and the profile is active, or one was refused and
  the profile stays what it was.
* `withProfile_settled`: **on a bus that is in a profile already, a bracket for that profile makes
  no calls of its own.** So brackets inside a bracket for the same profile can be left out
  (`withProfile_congr`).
-/

import SensorCape.Proofs.Monitor
import SensorCape.Serial.Bus

namespace SensorCape

variable {σ τ α β : Type}

/-! ### Actions that leave the bus alone -/

/-- The bus remembers after the action what it remembered before. -/
def Steady (body : OnBus σ τ α) : Prop := ∀ rig, (body rig).state.bus = rig.bus

theorem steady_pure (value : α) : Steady (pure value : OnBus σ τ α) := fun _ => rfl

theorem steady_bind {first : OnBus σ τ α} {next : α → OnBus σ τ β} (steady : Steady first)
    (rest : ∀ value, Steady (next value)) : Steady (first >>= next) := by
  intro rig
  rw [Action.bind_apply]
  split
  · exact (rest _ _).trans (steady rig)
  · exact steady rig

theorem steady_ensuring {body : OnBus σ τ α} {cleanup : OnBus σ τ Unit} (steady : Steady body)
    (after : Steady cleanup) : Steady (Action.ensuring body cleanup) := fun rig =>
  (after _).trans (steady rig)

theorem steady_ofExcept (result : Except Fault α) :
    Steady (Action.ofExcept result : OnBus σ τ α) := by
  cases result with
  | ok value => exact steady_pure value
  | error fault => exact fun _ => rfl

theorem steady_drive [Devices σ] (line : Line) (how : Drive) :
    Steady (Rig.drive line how : OnBus σ τ Unit) := by
  refine steady_bind (fun _ => rfl) fun failure => ?_
  unfold Rig.expectNone
  split
  · exact steady_pure ()
  · exact fun _ => rfl

namespace Action

variable {ε S : Type}

/-- Two sequences agree if their first parts agree and what follows agrees from there on. -/
theorem bind_congr {first other : Action ε S α} {next rest : α → Action ε S β} {state : S}
    (same : first state = other state)
    (follow : ∀ value, (other state).result = .ok value →
      next value (other state).state = rest value (other state).state) :
    (first >>= next) state = (other >>= rest) state := by
  rw [bind_apply, bind_apply, same]
  cases ended : (other state).result with
  | error fault => rfl
  | ok value => simp only [follow value ended]

theorem bind_assoc (first : Action ε S α) {γ : Type} (next : α → Action ε S β)
    (last : β → Action ε S γ) :
    first >>= next >>= last = first >>= fun value => next value >>= last := by
  funext state
  simp only [bind_apply]
  cases (first state).result with
  | error fault => rfl
  | ok value =>
    simp only
    cases (next value (first state).state).result with
    | error fault => rfl
    | ok produced => simp only [Journal.append_assoc]

theorem pure_bind (value : α) (next : α → Action ε S β) : pure value >>= next = next value := by
  funext state
  simp only [bind_apply, pure_apply, Journal.empty_append]

/-- A clean-up that succeeds does not change a result. -/
@[simp] theorem settled_ok (body : Except Fault α) : settled body (.ok ()) = body := by
  cases body <;> rfl

end Action

namespace Serial

/-! ### The bus in a profile -/

namespace Bus

/-- The bus after a successful switch to a profile. -/
def switched (profile : Profile) (bus : Bus) : Bus :=
  { bus with applied := bus.configuration profile, active := profile }

/-- A profile is active and its configuration is the one applied. -/
def Settled (bus : Bus) (profile : Profile) : Prop := bus.switched profile = bus

@[simp] theorem switched_configuration (bus : Bus) (profile other : Profile) :
    (bus.switched profile).configuration other = bus.configuration other := by
  cases other <;> rfl

theorem switched_settled (bus : Bus) (profile : Profile) :
    (bus.switched profile).Settled profile := by
  unfold Settled switched
  cases profile <;> rfl

theorem Settled.active {bus : Bus} {profile : Profile} (settled : bus.Settled profile) :
    bus.active = profile := by
  rw [← settled]
  rfl

theorem Settled.applied {bus : Bus} {profile : Profile} (settled : bus.Settled profile) :
    bus.applied = bus.configuration profile := by
  rw [← settled, switched_configuration]
  rfl

end Bus

/-! ### A switch, watched -/

variable {G : Type} {watch : Monitor G} {past : G} {bus : Bus} [Devices σ]

/-- How a monitor follows the writes of a switch to a target: `during` holds of the past and the
applied configuration as long as every write succeeds, `broken` once one was refused. -/
structure Tracks (watch : Monitor G) (target : Configuration) (during : G → Configuration → Prop)
    (broken : Fault → G → Configuration → Prop) : Prop where
  written : ∀ past applied, ∀ setting ∈ target.settings, during past applied →
    applied.holds setting = false → watch.assumes (.configure setting none) →
      watch.allows past (.configure setting none) ∧
        during (watch.next past (.configure setting none)) (applied.apply setting)
  refused : ∀ past applied cause, ∀ setting ∈ target.settings, during past applied →
    applied.holds setting = false → watch.assumes (.configure setting (some cause)) →
      watch.allows past (.configure setting (some cause)) ∧
        broken (.transferFailed 0 cause) (watch.next past (.configure setting (some cause))) applied

/-- A monitor that cares for no write of a setting follows every switch. -/
theorem Tracks.unwatched {target : Configuration} (during : G → Prop)
    (allowed : ∀ past setting failure, during past → watch.allows past (.configure setting failure))
    (kept : ∀ past setting failure, during past →
      during (watch.next past (.configure setting failure))) :
    Tracks watch target (fun past _ => during past) (fun _ past _ => during past) where
  written _ _ _ _ holds _ _ := ⟨allowed _ _ _ holds, kept _ _ _ holds⟩
  refused _ _ _ _ _ holds _ _ := ⟨allowed _ _ _ holds, kept _ _ _ holds⟩

variable {target : Configuration} {during : G → Configuration → Prop}
  {broken : Fault → G → Configuration → Prop}

/-- A setting is left alone if it is applied, and otherwise written once. -/
theorem leads_settle (tracks : Tracks watch target during broken) (start : during past bus.applied)
    {setting : Setting} (member : setting ∈ target.settings) :
    watch.Leads past bus (settle setting : OnBus σ Bus Unit) fun result past after =>
      match result with
      | .ok () => during past after.applied ∧ after = bus.wrote setting
      | .error fault => broken fault past after.applied ∧ after = bus := by
  refine Monitor.leads_bind (Monitor.leads_memory ?_)
  by_cases held : bus.applied.holds setting = true
  · have same : bus.wrote setting = bus := by
      unfold Bus.wrote
      rw [(Configuration.holds_iff _ _).mp held]
    simp only [held, if_true]
    exact Monitor.leads_pure ⟨start, same.symm⟩
  · have missing : bus.applied.holds setting = false := Bool.eq_false_iff.mpr held
    simp only [missing, Bool.false_eq_true, if_false]
    refine Monitor.leads_bind (Monitor.leads_command fun failure assumed => ?_)
    cases failure with
    | none =>
      have step := tracks.written past bus.applied setting member start missing assumed
      exact ⟨step.1, Monitor.leads_remember ⟨step.2, rfl⟩⟩
    | some cause =>
      have step := tracks.refused past bus.applied cause setting member start missing assumed
      exact ⟨step.1, step.2, rfl⟩

theorem leads_settleAll (tracks : Tracks watch target during broken) (settings : List Setting) :
    ∀ {past : G} {bus : Bus}, during past bus.applied →
      (∀ setting ∈ settings, setting ∈ target.settings) →
      watch.Leads past bus (settleAll settings : OnBus σ Bus Unit) fun result past after =>
        match result with
        | .ok () => during past after.applied ∧
            after = { bus with applied := settings.foldl Configuration.apply bus.applied }
        | .error fault => broken fault past after.applied ∧
            ∃ applied, after = { bus with applied } := by
  induction settings with
  | nil =>
    intro past bus start _
    exact Monitor.leads_pure ⟨start, rfl⟩
  | cons setting rest ih =>
    intro past bus start members
    refine Monitor.leads_bind (Monitor.leads_mono
      (leads_settle tracks start (members setting List.mem_cons_self)) ?_)
    rintro (fault | _) past after reached
    · obtain ⟨holds, rfl⟩ := reached
      exact ⟨holds, _, rfl⟩
    · obtain ⟨holds, rfl⟩ := reached
      refine Monitor.leads_mono (ih holds fun other member =>
        members other (List.mem_cons_of_mem _ member)) ?_
      rintro (fault | _) past after ended
      · obtain ⟨holds, applied, rfl⟩ := ended
        exact ⟨holds, applied, rfl⟩
      · exact ended

omit [Devices σ] in
theorem leads_enter {profile : Profile} {post : Except Fault Unit → G → Bus → Prop}
    (holds : post (.ok ()) past { bus with active := profile }) :
    watch.Leads past bus (enter profile : OnBus σ Bus Unit) post := by
  refine Monitor.leads_bind (Monitor.leads_memory ?_)
  by_cases active : bus.active = profile
  · simp only [active, if_true]
    refine Monitor.leads_pure ?_
    rw [← active] at holds
    exact holds
  · simp only [active, if_false]
    exact Monitor.leads_bind (Monitor.leads_note (Monitor.leads_remember holds))

/-- **What a switch can do.** Either every setting of the profile is applied and it is active, or a
write was refused and the active profile is the one before. -/
theorem leads_switchTo {profile : Profile}
    (tracks : Tracks watch (bus.configuration profile) during broken)
    (start : during past bus.applied) :
    watch.Leads past bus (switchTo profile : OnBus σ Bus Unit) fun result past after =>
      match result with
      | .ok () => during past after.applied ∧ after = bus.switched profile
      | .error fault => broken fault past after.applied ∧
          ∃ applied, after = { bus with applied } := by
  refine Monitor.leads_bind (Monitor.leads_memory (Monitor.leads_bind (Monitor.leads_mono
    (leads_settleAll tracks _ start fun _ member => member) ?_)))
  rintro (fault | _) past after reached
  · exact reached
  · obtain ⟨holds, rfl⟩ := reached
    rw [Configuration.apply_settings] at holds ⊢
    exact leads_enter ⟨holds, rfl⟩

/-! ### A switch that has nothing to do -/

/-- What any successful switch makes of the bus. -/
theorem switchTo_ok {profile : Profile} {rig : Rig σ Bus}
    (entered : (switchTo profile rig).result = .ok ()) :
    (switchTo profile rig).state.bus = rig.bus.switched profile := by
  have tracks : Tracks (⟨fun _ _ => (), fun _ => True, fun _ _ => True⟩ : Monitor Unit)
      (rig.bus.configuration profile) (fun _ _ => True) fun _ _ _ => True :=
    Tracks.unwatched (fun _ => True) (fun _ _ _ _ => trivial) fun _ _ _ _ => trivial
  have reached := Monitor.Leads.run () rig (leads_switchTo tracks trivial) fun _ _ => trivial
  rw [entered] at reached
  exact reached.2.2

/-- **A switch to the profile the bus is in makes no calls.** -/
theorem switchTo_settled {profile : Profile} {rig : Rig σ Bus} (settled : rig.bus.Settled profile) :
    switchTo profile rig = ⟨.ok (), .empty, rig⟩ := by
  have held : ∀ setting ∈ (rig.bus.configuration profile).settings,
      rig.bus.applied.holds setting = true := by
    rw [settled.applied]
    simp [Configuration.settings, Configuration.holds]
  have quiet : ∀ settings : List Setting, (∀ setting ∈ settings,
      rig.bus.applied.holds setting = true) →
      settleAll settings rig = (⟨.ok (), .empty, rig⟩ : Outcome Event (Rig σ Bus) Unit) := by
    intro settings
    induction settings with
    | nil => exact fun _ => rfl
    | cons setting rest ih =>
      intro all
      have first : settle setting rig =
          (⟨.ok (), .empty, rig⟩ : Outcome Event (Rig σ Bus) Unit) := by
        simp only [settle, Action.bind_apply, Rig.memory, all setting List.mem_cons_self, if_true]
        rfl
      simp only [settleAll, Action.bind_apply, first,
        ih fun other member => all other (List.mem_cons_of_mem _ member)]
      rfl
  simp only [switchTo, enter, Action.bind_apply, Rig.memory, quiet _ held, settled.active, if_true]
  rfl

/-! ### Brackets -/

/-- A bracket, with the way back to where it began made explicit. -/
theorem withProfile_apply (profile : Profile) (body : OnBus σ Bus α) (rig : Rig σ Bus) :
    withProfile profile body rig =
      Action.ensuring (do switchTo profile; body) (switchTo rig.bus.active) rig := by
  simp only [withProfile, Action.bind_apply, Rig.memory]
  rfl

/-- A bracket that is entered runs its body and then switches back. -/
theorem withProfile_entered {profile : Profile} {body : OnBus σ Bus α} {rig : Rig σ Bus}
    (entered : (switchTo profile rig).result = .ok ()) :
    withProfile profile body rig =
      let inner := body (switchTo profile rig).state
      let back := switchTo rig.bus.active inner.state
      ⟨Action.settled inner.result back.result,
        (switchTo profile rig).journal ++ inner.journal ++ back.journal, back.state⟩ := by
  simp only [withProfile_apply, Action.ensuring, Action.bind_apply, entered]

/-- A bracket that cannot be entered only switches back. -/
theorem withProfile_refused {profile : Profile} {body : OnBus σ Bus α} {rig : Rig σ Bus}
    {fault : Fault} (refused : (switchTo profile rig).result = .error fault) :
    withProfile profile body rig =
      let back := switchTo rig.bus.active (switchTo profile rig).state
      ⟨.error fault, (switchTo profile rig).journal ++ back.journal, back.state⟩ := by
  simp only [withProfile_apply, Action.ensuring, Action.bind_apply, refused]
  rfl

/-- **A bracket for the profile that the bus is in vanishes.** -/
theorem withProfile_settled {profile : Profile} {body : OnBus σ Bus α} {rig : Rig σ Bus}
    (settled : rig.bus.Settled profile) (steady : Steady body) :
    withProfile profile body rig = body rig := by
  have inside : (do switchTo profile; body : OnBus σ Bus α) rig = body rig := by
    rw [Action.bind_apply, switchTo_settled settled]
    rfl
  have back : switchTo rig.bus.active (body rig).state = ⟨.ok (), .empty, (body rig).state⟩ := by
    refine switchTo_settled ?_
    rw [steady rig, settled.active]
    exact settled
  rw [withProfile_apply]
  simp only [Action.ensuring, inside, back, Action.settled_ok, Journal.append_empty]

/-- Two bodies that agree wherever the profile was just switched to make the same bracket. -/
theorem withProfile_congr {profile : Profile} {body other : OnBus σ Bus α} {rig : Rig σ Bus}
    (agree : ∀ inner : Rig σ Bus, inner.bus = rig.bus.switched profile → body inner = other inner) :
    withProfile profile body rig = withProfile profile other rig := by
  have inside : (do switchTo profile; body : OnBus σ Bus α) rig =
      (do switchTo profile; other) rig :=
    Action.bind_congr rfl fun _ entered => agree _ (switchTo_ok entered)
  rw [withProfile_apply, withProfile_apply]
  simp only [Action.ensuring, inside]

/-- A bracket is led in, then through its body if that could be entered, and always back out. -/
theorem leads_withProfile {profile : Profile} {body : OnBus σ Bus α}
    {post : Except Fault α → G → Bus → Prop}
    (leads : watch.Leads past bus (switchTo profile : OnBus σ Bus Unit) fun entered past inner =>
      match entered with
      | .ok () => watch.Leads past inner body fun result past worked =>
          watch.Leads past worked (switchTo bus.active : OnBus σ Bus Unit)
            fun restored past after =>
            post (Action.settled result restored) past after
      | .error fault =>
          watch.Leads past inner (switchTo bus.active : OnBus σ Bus Unit) fun restored past after =>
            post (Action.settled (.error fault) restored) past after) :
    watch.Leads past bus (withProfile profile body : OnBus σ Bus α) post := by
  refine Monitor.leads_bind (Monitor.leads_memory (Monitor.leads_ensuring (Monitor.leads_bind
    (Monitor.leads_mono leads ?_))))
  rintro (fault | _) past inner reached
  · exact reached
  · exact reached

end Serial

end SensorCape
