/-
**Which register sensors can be attached.**

The checks of the settings say nothing about target addresses and framings, and the bus has its own
rules for them: an address has seven bits, and it keeps the framing that it was first opened with.
On devices that open every target these two rules are all that decides.

* `Coherent`: the rules, as a condition on the listed sensors.
* `check_readdressed`: the checks do not see addresses and framings.
* `attachAll_of_check`: **checked settings are attached in full exactly if they are coherent**; else
  the start ends with the first sensor that breaks a rule.
-/

import Mathlib.Data.List.Forall2
import Mathlib.Data.List.Induction
import SensorCape.Daemon.Sensors
import SensorCape.Proofs.Register.Handles
import SensorCape.Proofs.Settings.Accepted

namespace SensorCape.Daemon

open Poll (RegisterSensor)
open Register (Bus Framing Handle Shared TargetAddress handle?_withHandle maxTargetAddress openHandle
  openHandle_known openHandle_opened openHandle_outOfRange)
open Settings (Probe)

/-! ### The rules of the bus -/

/-- A sensor fits in with the sensors listed before it. -/
def Agrees (earlier : List Probe) (probe : Probe) : Prop :=
  probe.address ≤ maxTargetAddress ∧
    ∀ other ∈ earlier, other.address = probe.address → other.framing = probe.framing

instance (earlier : List Probe) (probe : Probe) : Decidable (Agrees earlier probe) :=
  inferInstanceAs (Decidable (_ ∧ _))

/-- All addresses have seven bits, and no address is listed with two framings. -/
def Coherent (probes : List Probe) : Prop :=
  (∀ probe ∈ probes, probe.address ≤ maxTargetAddress) ∧
    ∀ probe ∈ probes, ∀ other ∈ probes, probe.address = other.address →
      probe.framing = other.framing

instance (probes : List Probe) : Decidable (Coherent probes) :=
  inferInstanceAs (Decidable (_ ∧ _))

section Rules

variable {earlier later probes : List Probe} {probe : Probe}

theorem Coherent.of_append (coherent : Coherent (earlier ++ later)) : Coherent earlier :=
  ⟨fun probe member => coherent.1 probe (List.mem_append_left _ member),
    fun probe member other among => coherent.2 probe (List.mem_append_left _ member) other
      (List.mem_append_left _ among)⟩

/-- A list grows coherently by a sensor that fits in. -/
theorem coherent_concat :
    Coherent (earlier ++ [probe]) ↔ Coherent earlier ∧ Agrees earlier probe := by
  have last : probe ∈ earlier ++ [probe] := List.mem_append_right _ List.mem_cons_self
  constructor
  · intro coherent
    refine ⟨coherent.of_append, coherent.1 probe last, fun other among => ?_⟩
    exact coherent.2 other (List.mem_append_left _ among) probe last
  · rintro ⟨⟨ranged, framed⟩, inRange, agrees⟩
    refine ⟨List.forall_mem_append.mpr ⟨ranged, List.forall_mem_singleton.mpr inRange⟩, ?_⟩
    simp only [List.forall_mem_append, List.forall_mem_singleton]
    exact ⟨fun other among => ⟨framed other among, agrees other among⟩,
      fun other among same => (agrees other among same.symm).symm, fun _ => trivial⟩

/-- A list that is not coherent has a first sensor that does not fit in. -/
theorem exists_disagreeing (torn : ¬ Coherent probes) :
    ∃ earlier probe later, probes = earlier ++ probe :: later ∧ Coherent earlier ∧
      ¬ Agrees earlier probe := by
  induction probes using List.reverseRecOn with
  | nil => exact absurd ⟨by simp, by simp⟩ torn
  | append_singleton probes last ih =>
    by_cases whole : Coherent probes
    · exact ⟨probes, last, [], rfl, whole, fun agrees => torn (coherent_concat.mpr ⟨whole, agrees⟩)⟩
    · obtain ⟨earlier, probe, later, rfl, coherent, disagrees⟩ := ih whole
      exact ⟨earlier, probe, later ++ [last], by simp, coherent, disagrees⟩

end Rules

/-! ### Opening handles -/

section Handles

variable {σ τ : Type} [Devices σ] {rig : Rig σ (Shared τ)} {gone : List Probe} {probe : Probe}
  {address : TargetAddress} {handle : Handle} {framing : Framing}

/-- The handles of a bus are those of some sensors, of which the first one with an address decided
its framing. -/
def Serves (bus : Bus) (gone : List Probe) : Prop :=
  ∀ address : TargetAddress, (bus.handle? address).map Handle.framing =
    (gone.find? (·.address = address.value)).map Probe.framing

/-- The devices open every target, whatever targets were opened before. -/
def OpensAll (devices : σ) : Prop :=
  ∀ (before : List UInt8) (address : UInt8), (Devices.openTarget address
    (before.foldl (fun devices address => (Devices.openTarget address devices).2) devices)).1 = none

/-- What is there when some sensors have been attached. -/
structure Ready (rig : Rig σ (Shared τ)) (gone : List Probe) : Prop where
  serves : Serves rig.bus.register gone
  opens : OpensAll rig.devices

theorem openHandle_new (opens : OpensAll rig.devices) (framing : Framing)
    (new : rig.bus.register.handle? address = none) :
    (openHandle address.value framing rig).result =
        .ok ⟨address, framing, rig.bus.register.handles.length⟩ ∧
      (openHandle address.value framing rig).state.bus.register =
        rig.bus.register.withHandle ⟨address, framing, rig.bus.register.handles.length⟩ ∧
      (openHandle address.value framing rig).state.devices =
        (Devices.openTarget address.value rig.devices).2 := by
  obtain ⟨result, -, state⟩ := openHandle_opened framing new (opens [] address.value)
  rw [state]
  exact ⟨result, rfl, rfl⟩

theorem serves_nil {bus : Bus} (fresh : bus.handles = []) : Serves bus [] := fun address => by
  rw [Bus.handle?, fresh]
  rfl

theorem Serves.again {bus : Bus} (serves : Serves bus gone)
    (listed : (gone.find? (·.address = probe.address)).isSome) : Serves bus (gone ++ [probe]) := by
  intro address
  rw [serves address, List.find?_append]
  by_cases same : probe.address = address.value
  · rw [same] at listed
    obtain ⟨first, found⟩ := Option.isSome_iff_exists.mp listed
    rw [found, Option.some_or]
  · simp [same]

theorem Serves.withHandle {bus : Bus} (serves : Serves bus gone)
    (new : bus.handle? handle.address = none) (place : handle.address.value = probe.address)
    (same : handle.framing = probe.framing) :
    Serves (bus.withHandle handle) (gone ++ [probe]) := by
  intro address
  have others := serves address
  rw [handle?_withHandle new, List.find?_append]
  by_cases here : handle.address = address
  · subst here
    rw [new, Option.map_none, eq_comm, Option.map_eq_none_iff, place] at others
    simp [others, place, same]
  · have apart : probe.address ≠ address.value := fun also =>
      here (TargetAddress.eq_of_value (place.trans also))
    simp [here, apart, others]

/-- A sensor that fits in with those served so far gets a handle, and the bus serves it too. -/
theorem openHandle_agreeing (ready : Ready rig gone) (agrees : Agrees gone probe) :
    ∃ handle, (openHandle probe.address probe.framing rig).result = .ok handle ∧
      handle.address.value = probe.address ∧ handle.framing = probe.framing ∧
      Ready (openHandle probe.address probe.framing rig).state (gone ++ [probe]) := by
  obtain ⟨serves, opens⟩ := ready
  obtain ⟨inRange, framed⟩ := agrees
  have decided := serves ⟨probe.address, inRange⟩
  cases known : rig.bus.register.handle? ⟨probe.address, inRange⟩ with
  | some handle =>
    rw [known] at decided
    obtain ⟨first, found, same⟩ := Option.map_eq_some_iff.mp decided.symm
    have alike : handle.framing = probe.framing := same.symm.trans
      (framed first (List.mem_of_find?_eq_some found) (by simpa using List.find?_some found))
    have place : handle.address = ⟨probe.address, inRange⟩ := by
      simpa using List.find?_some known
    have opened := openHandle_known probe.framing known
    rw [if_pos alike] at opened
    refine ⟨handle, by rw [opened], by rw [place], alike, ?_⟩
    rw [opened]
    exact ⟨serves.again (Option.isSome_iff_exists.mpr ⟨first, found⟩), opens⟩
  | none =>
    obtain ⟨result, served, devices⟩ := openHandle_new opens probe.framing known
    refine ⟨_, result, rfl, rfl, ?_, ?_⟩
    · rw [served]
      exact serves.withHandle known rfl rfl
    · rw [devices]
      exact fun before => opens (probe.address :: before)

/-- Why a sensor that does not fit in gets no handle. -/
def clash (probe : Probe) : Breach :=
  if probe.address ≤ maxTargetAddress then .framingMismatch else .targetAddressRange

/-- A sensor that does not fit in gets no handle. -/
theorem openHandle_disagreeing (ready : Ready rig gone) (coherent : Coherent gone)
    (disagrees : ¬ Agrees gone probe) :
    (openHandle probe.address probe.framing rig).result =
      .error (.contractViolation (clash probe)) := by
  by_cases inRange : probe.address ≤ maxTargetAddress
  · simp only [Agrees, inRange, true_and, not_forall] at disagrees
    obtain ⟨other, among, same, differs⟩ := disagrees
    have decided := ready.serves ⟨probe.address, inRange⟩
    obtain ⟨first, found⟩ := Option.isSome_iff_exists.mp
      (List.find?_isSome.mpr ⟨other, among, by simpa using same⟩ :
        (gone.find? (·.address = probe.address)).isSome)
    have place : first.address = probe.address := by simpa using List.find?_some found
    have framed := coherent.2 first (List.mem_of_find?_eq_some found) other among
      (place.trans same.symm)
    rw [found] at decided
    obtain ⟨handle, known, alike⟩ := Option.map_eq_some_iff.mp decided
    have opened := openHandle_known probe.framing known
    rw [if_neg (by rw [alike, framed]; exact differs)] at opened
    rw [opened, clash, if_pos inRange]
  · rw [openHandle_outOfRange _ inRange, clash, if_neg inRange]

end Handles

/-! ### Checked settings -/

section Checks

variable {settings : Settings} {probe : Probe}

/-- A sensor with another address and another framing. -/
def readdressed (change : Probe → UInt8 × Framing) (probe : Probe) : Probe :=
  { probe with address := (change probe).1, framing := (change probe).2 }

/-- **The checks do not see the addresses and framings of the sensors.** -/
theorem check_readdressed (settings : Settings) (change : Probe → UInt8 × Framing) :
    { settings with probes := settings.probes.map (readdressed change) }.check =
      settings.check := by
  have probes (extended : Bool) (listed : List Probe) :
      (listed.map (readdressed change)).forM (Probe.check extended) =
        listed.forM (Probe.check extended) := by
    induction listed with
    | nil => rfl
    | cons probe rest ih => exact congrArg (Probe.check extended probe >>= fun _ => ·) ih
  simp only [Settings.check, List.isEmpty_map, probes]
  rfl

end Checks

/-! ### Attaching -/

section Attaching

variable {σ τ : Type} [Devices σ] {rig : Rig σ (Shared τ)} {gone earlier later : List Probe}
  {probe : Probe}

/-- A sensor is the one that an entry of the settings describes. -/
structure Attached (probe : Probe) (sensor : RegisterSensor) : Prop where
  name : sensor.name = probe.name
  route : probe.route = .ok sensor.route
  address : sensor.handle.address.value = probe.address
  framing : sensor.handle.framing = probe.framing
  register : sensor.register = probe.register
  length : sensor.length = probe.length

/-- A sensor with a route that fits in is attached. -/
theorem attach_agreeing (ready : Ready rig gone) (routed : ∃ route, probe.route = .ok route)
    (agrees : Agrees gone probe) :
    ∃ sensor, (attach probe rig).result = .ok (.ok sensor) ∧ Attached probe sensor ∧
      Ready (attach probe rig).state (gone ++ [probe]) := by
  obtain ⟨route, routed⟩ := routed
  obtain ⟨handle, result, place, framing, further⟩ := openHandle_agreeing ready agrees
  refine ⟨⟨probe.name, route, handle, probe.register, probe.length⟩, ?_,
    ⟨rfl, routed, place, framing, rfl, rfl⟩, ?_⟩
  · simp [attach, Action.bind_apply, Action.attempt, result, routed]
  · simpa [attach, Action.bind_apply, Action.attempt, result, routed] using further

/-- A sensor that does not fit in is not attached. -/
theorem attach_disagreeing (ready : Ready rig gone) (coherent : Coherent gone)
    (disagrees : ¬ Agrees gone probe) :
    (attach probe rig).result =
      .ok (.error (.handle probe.name (.contractViolation (clash probe)))) := by
  have result := openHandle_disagreeing ready coherent disagrees
  simp [attach, Action.bind_apply, Action.attempt, result]

theorem attachAll_cons {sensor : RegisterSensor} (rest : List Probe)
    (attached : (attach probe rig).result = .ok (.ok sensor)) :
    (attachAll (probe :: rest) rig).result =
      (attachAll rest (attach probe rig).state).result.map (·.map (sensor :: ·)) := by
  rw [attachAll, Action.bind_apply, attached]
  simp only [Action.bind_apply]
  cases (attachAll rest (attach probe rig).state).result <;> rfl

/-- A coherent continuation of the sensors served so far is attached in full. -/
theorem attachAll_coherent {probes : List Probe} (ready : Ready rig gone)
    (routed : ∀ probe ∈ probes, ∃ route, probe.route = .ok route)
    (coherent : Coherent (gone ++ probes)) :
    ∃ sensors, (attachAll probes rig).result = .ok (.ok sensors) ∧
      List.Forall₂ Attached probes sensors := by
  induction probes generalizing rig gone with
  | nil => exact ⟨[], rfl, .nil⟩
  | cons probe rest ih =>
    obtain ⟨first, others⟩ := List.forall_mem_cons.mp routed
    rw [← List.singleton_append, ← List.append_assoc] at coherent
    obtain ⟨sensor, attached, described, further⟩ :=
      attach_agreeing ready first (coherent_concat.mp coherent.of_append).2
    obtain ⟨sensors, all, describe⟩ := ih further others coherent
    exact ⟨sensor :: sensors, by rw [attachAll_cons rest attached, all]; rfl,
      .cons described describe⟩

/-- The first sensor that does not fit in ends the start. -/
theorem attachAll_disagreeing (ready : Ready rig gone)
    (routed : ∀ probe ∈ earlier, ∃ route, probe.route = .ok route)
    (coherent : Coherent (gone ++ earlier)) (disagrees : ¬ Agrees (gone ++ earlier) probe) :
    (attachAll (earlier ++ probe :: later) rig).result =
      .ok (.error (.handle probe.name (.contractViolation (clash probe)))) := by
  induction earlier generalizing rig gone with
  | nil =>
    rw [List.append_nil] at coherent disagrees
    have failed := attach_disagreeing ready coherent disagrees
    rw [List.nil_append, attachAll, Action.bind_apply, failed]
    rfl
  | cons other rest ih =>
    obtain ⟨first, others⟩ := List.forall_mem_cons.mp routed
    rw [← List.singleton_append, ← List.append_assoc] at coherent disagrees
    obtain ⟨sensor, attached, -, further⟩ :=
      attach_agreeing ready first (coherent_concat.mp coherent.of_append).2
    rw [List.cons_append, attachAll_cons _ attached, ih further others coherent disagrees]
    rfl

/-- **Checked settings are attached in full if they are coherent. If not, the start ends with the
first sensor that does not fit in with those before it.** -/
theorem attachAll_of_check (settings : Settings) (accepted : settings.check = .ok ())
    (fresh : rig.bus.register.handles = []) (opens : OpensAll rig.devices) :
    (Coherent settings.probes →
      ∃ sensors, (attachAll settings.probes rig).result = .ok (.ok sensors) ∧
        List.Forall₂ Attached settings.probes sensors) ∧
    (¬ Coherent settings.probes →
      ∃ earlier probe later, settings.probes = earlier ++ probe :: later ∧ Coherent earlier ∧
        ¬ Agrees earlier probe ∧ (attachAll settings.probes rig).result =
          .ok (.error (.handle probe.name (.contractViolation (clash probe))))) := by
  have routed : ∀ probe ∈ settings.probes, ∃ route, probe.route = .ok route :=
    fun probe listed => ((Settings.check_eq_ok.mp accepted).probes probe listed).route
  have ready : Ready rig [] := ⟨serves_nil fresh, opens⟩
  constructor
  · intro coherent
    exact attachAll_coherent ready routed coherent
  · intro torn
    obtain ⟨earlier, probe, later, split, coherent, disagrees⟩ := exists_disagreeing torn
    rw [split] at routed ⊢
    exact ⟨earlier, probe, later, rfl, coherent, disagrees,
      attachAll_disagreeing ready (fun other among => routed other (List.mem_append_left _ among))
        coherent disagrees⟩

end Attaching

/-! ### A board that opens every target -/

section Board

open Bench

/-- A simulated board without planned mishaps opens every target. -/
theorem opensAll_of_unplanned {board : Board Unit} (unplanned : board.plan = []) :
    OpensAll board := by
  intro before
  induction before generalizing board with
  | nil =>
    intro address
    show (board.openTarget address).1 = none
    simp [Board.openTarget, Board.plain, Board.struck, unplanned, strike_nil]
  | cons address rest ih =>
    refine @ih (board.openTarget address).2 ?_
    simp [Board.openTarget, Board.plain, Board.struck, unplanned, strike_nil, Board.pointed]

/-- Settings with sensors on the local channels and no extension board. -/
def onLocalChannels (probes : List Probe) : Settings :=
  { Settings.empty with registerBus := some ⟨"/dev/i2c-1", none⟩, probes }

/-- A sensor that is read with register zero. -/
def listed (name : String) (address : UInt8) (framing : Framing) : Probe :=
  ⟨name, 0, none, address, framing, 0, 1, 30⟩

/-- A rig with a simulated board and a fresh register bus. -/
def freshRig : Rig (Board Unit) (Shared Unit) :=
  ⟨.fresh [], .fresh, ()⟩

/-- **Accepted settings that cannot be attached:** one with an address of eight bits, one with an
address under two framings. -/
theorem accepted_but_torn :
    (onLocalChannels [listed "far" 200 .register]).check = .ok () ∧
      (attachAll [listed "far" 200 .register] freshRig).result =
        .ok (.error (.handle "far" (.contractViolation .targetAddressRange))) ∧
      (onLocalChannels [listed "first" 0x76 .register, listed "second" 0x76 .bare]).check = .ok () ∧
      (attachAll [listed "first" 0x76 .register, listed "second" 0x76 .bare] freshRig).result =
        .ok (.error (.handle "second" (.contractViolation .framingMismatch))) :=
  ⟨rfl, rfl, rfl, rfl⟩

/-- Two sensors with one address and one framing are attached, and with two framings they are
not. -/
theorem attachAll_shared_address :
    (∃ sensors, (attachAll [listed "first" 0x76 .register, listed "second" 0x76 .register]
        freshRig).result = .ok (.ok sensors)) ∧
      ∃ probe : Probe, (attachAll [listed "first" 0x76 .register, listed "second" 0x76 .bare]
        freshRig).result =
          .ok (.error (.handle probe.name (.contractViolation (clash probe)))) := by
  have opens : OpensAll freshRig.devices := opensAll_of_unplanned rfl
  constructor
  · obtain ⟨sensors, attached, -⟩ := (attachAll_of_check (onLocalChannels
      [listed "first" 0x76 .register, listed "second" 0x76 .register]) rfl rfl opens).1 (by decide)
    exact ⟨sensors, attached⟩
  · obtain ⟨_, probe, _, -, -, -, failed⟩ := (attachAll_of_check (onLocalChannels
      [listed "first" 0x76 .register, listed "second" 0x76 .bare]) rfl rfl opens).2 (by decide)
    exact ⟨probe, failed⟩

end Board

end SensorCape.Daemon
