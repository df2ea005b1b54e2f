/-
**The neighbours of the extension board.**

The leak detector and the power board are modules on the same serial bus as the board's selector.
Their frames differ from the selector's, and a payload goes to whom the last frame was for, so
nothing that is sent to them is a code. Nor do they change what is remembered of the board.

* `frame_inj`: frames for two modules differ.
* `Spares`: an action on the serial bus sends no code and keeps the selector's address.
* `spares_pollLeak`, `spares_setOutlets`: **the neighbours leave the board alone.** Neither touches
  a target of the register bus.
-/

import SensorCape.Poll.Modules
import SensorCape.Proofs.Register.InForce

set_option linter.unusedSectionVars false

namespace SensorCape

namespace Serial

/-- The frame of a module tells its address. -/
theorem Frames.address {byte address other : UInt8} {intent : Intent}
    (frames : Frames byte address intent) (also : Frames byte other intent)
    (inRange : address ≤ maxModuleAddress) (inside : other ≤ maxModuleAddress) :
    address = other := by
  have small {value : UInt8} (short : value ≤ maxModuleAddress) : value.toNat < 2 ^ 4 :=
    Nat.lt_succ_of_le (UInt8.le_iff_toNat_le.mp short)
  refine UInt8.toNat_inj.mp (Nat.eq_of_testBit_eq fun place => ?_)
  by_cases low : place < 4
  · exact (frames.addressed place low).symm.trans (also.addressed place low)
  · have beyond : 2 ^ 4 ≤ 2 ^ place := Nat.pow_le_pow_right Nat.zero_lt_two (Nat.le_of_not_lt low)
    rw [Nat.testBit_lt_two_pow (Nat.lt_of_lt_of_le (small inRange) beyond),
      Nat.testBit_lt_two_pow (Nat.lt_of_lt_of_le (small inside) beyond)]

/-- **Frames for two modules differ.** -/
theorem frame_inj {address other : ModuleAddress} {intent : Intent}
    (same : Frame.byte ⟨address, intent⟩ = Frame.byte ⟨other, intent⟩) : address = other := by
  have frames := frame_frames address intent
  rw [same] at frames
  have values := frames.address (frame_frames other intent) address.inRange other.inRange
  obtain ⟨value, inRange⟩ := address
  obtain ⟨number, inside⟩ := other
  cases values
  rfl

end Serial

namespace Register

open Serial (Frame ModuleAddress)

variable {σ α β : Type} [Devices σ] {address other : ModuleAddress}

/-! ### Actions that send no code -/

/-- Whatever happened before, an action sends no code to a module and keeps the address of the
selector. -/
def Spares (address : ModuleAddress) (body : OnBus σ Serial.Bus α) : Prop :=
  ∀ (tap : Tap) (bus : Serial.Bus), (tapping address).Leads tap bus body fun _ after last =>
    after.taken = tap.taken ∧ last.extension = bus.extension

section Spares

theorem spares_quiet {body : OnBus σ Serial.Bus α} (quiet : Serial.Quiet body) :
    Spares address body := fun tap bus devices _ => by
  obtain ⟨silent, same⟩ := quiet ⟨devices, bus⟩
  rw [silent, same]
  exact ⟨trivial, rfl, rfl⟩

theorem spares_ofExcept (result : Except Fault α) :
    Spares address (Action.ofExcept result : OnBus σ Serial.Bus α) := fun _ _ =>
  Monitor.leads_ofExcept ⟨rfl, rfl⟩

theorem spares_bind {first : OnBus σ Serial.Bus α} {next : α → OnBus σ Serial.Bus β}
    (spares : Spares address first) (follow : ∀ value, Spares address (next value)) :
    Spares address (first >>= next) := by
  intro tap bus
  refine Monitor.leads_bind (Monitor.leads_mono (spares tap bus) ?_)
  rintro (fault | value) middle inner ⟨same, kept⟩
  · exact ⟨same, kept⟩
  · refine Monitor.leads_mono (follow value middle inner) ?_
    rintro _ _ _ ⟨still, also⟩
    exact ⟨still.trans same, also.trans kept⟩

theorem spares_ensuring {body : OnBus σ Serial.Bus α} {cleanup : OnBus σ Serial.Bus Unit}
    (spares : Spares address body) (follow : Spares address cleanup) :
    Spares address (Action.ensuring body cleanup) := by
  intro tap bus
  refine Monitor.leads_ensuring (Monitor.leads_mono (spares tap bus) ?_)
  rintro inner middle held ⟨same, kept⟩
  refine Monitor.leads_mono (follow middle held) ?_
  rintro _ _ _ ⟨still, also⟩
  exact ⟨still.trans same, also.trans kept⟩

theorem spares_drive (line : Line) (how : Drive) :
    Spares address (Rig.drive line how : OnBus σ Serial.Bus Unit) := fun _ _ =>
  Monitor.leads_mono (leads_drive_tap line how) fun _ _ _ ⟨same, kept⟩ => by
    rw [same, kept]
    exact ⟨rfl, rfl⟩

theorem spares_strobed (sent : List UInt8) :
    Spares address (Serial.strobed sent : OnBus σ Serial.Bus (List UInt8)) := fun _ _ =>
  Monitor.leads_mono (leads_strobed_tap sent) fun _ _ _ ⟨same, kept, _⟩ => ⟨same, by rw [kept]⟩

theorem spares_readRaw (length : Nat) :
    Spares address (Serial.readRaw length : OnBus σ Serial.Bus (List UInt8)) := fun _ _ =>
  Serial.leads_readRaw fun _ _ => ⟨trivial, rfl, rfl⟩

theorem spares_withProfile {profile : Serial.Profile} {body : OnBus σ Serial.Bus α}
    (spares : Spares address body) : Spares address (Serial.withProfile profile body) := by
  have switches (profile : Serial.Profile) :
      Spares address (Serial.switchTo profile : OnBus σ Serial.Bus Unit) := fun _ _ =>
    Monitor.leads_mono (leads_switchTo_tap profile) fun _ _ _ ⟨same, kept⟩ => ⟨by rw [same], kept⟩
  exact spares_bind (spares_quiet fun _ => ⟨rfl, rfl⟩) fun prior => spares_ensuring
    (spares_bind (switches profile) fun _ => spares) (switches prior.active)

/-- Taking a byte from a module sends it frames, and nothing else. -/
theorem spares_pulled (module : ModuleAddress) :
    Spares address (Serial.pulled module : OnBus σ Serial.Bus UInt8) := by
  have selected {body : OnBus σ Serial.Bus UInt8} (spares : Spares address body) :
      Spares address (Serial.chipSelected body) := spares_ensuring spares (spares_drive _ _)
  refine spares_bind (spares_strobed _) fun _ => spares_bind
    (spares_ensuring (spares_drive _ _) (spares_drive _ _)) fun _ => ?_
  refine spares_bind (spares_strobed _) fun _ => selected ?_
  exact spares_bind (spares_drive _ _) fun _ => spares_bind (spares_readRaw 1) fun _ =>
    spares_quiet fun _ => ⟨rfl, rfl⟩

/-- **A payload for another module is no code.** -/
theorem spares_pushed (apart : other ≠ address) (data : List UInt8) :
    Spares address (Serial.pushed other data : OnBus σ Serial.Bus Nat) := by
  intro tap bus
  refine Monitor.leads_bind (Monitor.leads_mono (leads_strobed_tap _) ?_)
  rintro (fault | received) framed middle ⟨same, kept, addressed⟩
  · exact ⟨same, congrArg Serial.Bus.extension kept⟩
  have turned : framed.addressed = false := by
    rw [addressed received rfl, beq_eq_false_iff_ne]
    exact fun frames => apart (Serial.frame_inj (List.singleton_inj.mp frames))
  have raises (past : Tap) (unsent : past.taken = framed.taken) :
      (tapping address).Leads past middle (Rig.drive .chipSelect .high : OnBus σ Serial.Bus Unit)
        fun _ after last => after.taken = tap.taken ∧ last.extension = bus.extension := by
    refine Monitor.leads_mono (leads_drive_tap _ _) ?_
    rintro _ _ _ ⟨rfl, rfl⟩
    exact ⟨unsent.trans same, congrArg Serial.Bus.extension kept⟩
  refine Monitor.leads_ensuring ?_
  refine leads_drive_bind_tap (fun _ => raises framed rfl) ?_
  refine leads_drive_bind_tap (fun _ => raises framed rfl) ?_
  refine leads_drive_bind_tap (fun _ => raises framed rfl) ?_
  refine Serial.leads_writeRaw fun count _ => ⟨trivial, raises _ ?_⟩
  cases count with
  | refused cause => rfl
  | moved bytes => simp [tapping, Tap.next, turned]

theorem spares_readModule (module : UInt8) :
    Spares address (Serial.readModule module : OnBus σ Serial.Bus UInt8) := by
  refine spares_bind (spares_ofExcept _) fun checked => ?_
  rw [Serial.pullByte_eq]
  exact spares_withProfile (spares_pulled checked)

theorem spares_writeModule {module : UInt8} (apart : module ≠ address.value)
    (data : List UInt8) :
    Spares address (Serial.writeModule module data : OnBus σ Serial.Bus Nat) := by
  unfold Serial.writeModule
  by_cases inRange : module ≤ Serial.maxModuleAddress
  · have other : (⟨module, inRange⟩ : ModuleAddress) ≠ address := fun same =>
      apart (congrArg ModuleAddress.value same)
    have pushes : Spares address
        (Serial.pushPayload ⟨module, inRange⟩ data : OnBus σ Serial.Bus Nat) := by
      rw [Serial.pushPayload_eq]
      exact spares_withProfile (spares_pushed other data)
    rw [ModuleAddress.checked, dif_pos inRange]
    exact fun tap bus => Monitor.leads_bind (Monitor.leads_pure (pushes tap bus))
  · rw [ModuleAddress.checked, dif_neg inRange]
    exact spares_quiet fun _ => ⟨rfl, rfl⟩

end Spares

/-! ### On the register bus -/

section Neighbours

theorem leavesBoard_onSelector {body : OnBus σ Serial.Bus α} (spares : Spares address body) :
    LeavesBoard address (onSelector body : OnBoard σ α) := fun rig tap =>
  have left := (Monitor.Leads.run tap ⟨rig.devices, rig.bus.selector⟩
    (spares tap rig.bus.selector) fun _ _ => trivial).2
  ⟨left.1, rfl, left.2⟩

theorem keepsSetup_onSelector {body : OnBus σ Serial.Bus α} (spares : Spares address body) :
    Keeps setup (onSelector body : OnBoard σ α) := fun rig =>
  have kept := (leavesBoard_onSelector spares rig Tap.blank).2.2
  congrArg (Prod.mk rig.bus.register.muxReady) kept

theorem quiet_publishLeak (inputs : UInt8) (places : List Nat) :
    Serial.Quiet (Poll.publishLeak inputs places : OnBus σ Serial.Bus Unit) := by
  induction places with
  | nil => exact fun _ => ⟨rfl, rfl⟩
  | cons place rest ih =>
    intro rig
    obtain ⟨silent, same⟩ := ih rig
    exact ⟨silent, same⟩

/-- **Reading the leak detector sends no code**, whatever its address. -/
theorem spares_pollLeak (module : UInt8) :
    Spares address (Poll.pollLeak module : OnBus σ Serial.Bus Unit) :=
  spares_bind (spares_readModule module) fun _ => spares_quiet (quiet_publishLeak _ _)

/-- **Setting the outlets sends no code**, as long as the power board is not at the address of the
selector. -/
theorem spares_setOutlets {outlets : Outlets} (apart : outlets.address ≠ address.value) :
    Spares address (Poll.setOutlets outlets : OnBus σ Serial.Bus Unit) :=
  spares_bind (spares_writeModule apart _) fun _ => spares_quiet fun _ => ⟨rfl, rfl⟩

theorem offWire_pollLeak (module : UInt8) :
    OffWire (Poll.pollLeak module : OnBus σ Serial.Bus Unit) := by
  refine offWire_bind (offWire_bind (Serial.comprises_ofExcept _) fun checked => ?_) fun inputs =>
    offWire_quiet fun rig => (quiet_publishLeak _ _ rig).1
  rw [Serial.pullByte_eq]
  exact offWire_work (.pull checked)

theorem offWire_setOutlets (outlets : Outlets) :
    OffWire (Poll.setOutlets outlets : OnBus σ Serial.Bus Unit) := by
  refine offWire_bind (offWire_bind (Serial.comprises_ofExcept _) fun checked => ?_) fun written =>
    offWire_quiet fun _ => rfl
  rw [Serial.pushPayload_eq]
  exact offWire_work (.push checked _)

end Neighbours

end Register

end SensorCape
