/-
**What accepted settings are good for.**

The checks look at settings in their own way, one complaint after the other; the buses have their own
ways of turning things down when the daemon is at work. What the first let pass the second do not
turn down: module addresses, routes, pins, kinds, and outlets that fit the command byte.

* `check_eq_ok`: **the checks pass exactly if the settings are `Sound`**, a condition for every entry
  of every list.
* `selectExtension_lawful`: a channel of the extension board is selected without a breach of contract
  if the bus has an address for the board.
* `resolve_valid`: a line of the four banks is resolved unless the memory refuses.
* `outletBits_testBit`: the bits of the command byte.
* `usable_of_check`: **what accepted settings promise**, all of it together.
-/

import Mathlib.Data.Nat.Bitwise
import SensorCape.Bench.Board
import SensorCape.Proofs.Gpio.Window
import SensorCape.Proofs.Pin.Names
import SensorCape.Proofs.Serial.Built
import SensorCape.Settings.Check

set_option linter.unusedSectionVars false

namespace SensorCape.Settings

/-! ### Checks one after the other -/

theorem bind_eq_ok {ε α β : Type} {first : Except ε α} {next : α → Except ε β} {value : β} :
    first >>= next = .ok value ↔ ∃ found, first = .ok found ∧ next found = .ok value := by
  cases first with
  | error fault => exact ⟨nofun, nofun⟩
  | ok found => exact ⟨fun run => ⟨found, rfl, run⟩, fun ⟨_, same, run⟩ => by cases same; exact run⟩

theorem then_eq_ok {ε β : Type} {first : Except ε Unit} {next : Unit → Except ε β} {value : β} :
    first >>= next = .ok value ↔ first = .ok () ∧ next () = .ok value :=
  bind_eq_ok.trans ⟨fun ⟨_, passed, run⟩ => ⟨passed, run⟩, fun ⟨passed, run⟩ => ⟨(), passed, run⟩⟩

theorem forM_eq_ok {ε α : Type} {check : α → Except ε Unit} {items : List α} :
    items.forM check = .ok () ↔ ∀ item ∈ items, check item = .ok () := by
  induction items with
  | nil => exact ⟨fun _ _ member => absurd member List.not_mem_nil, fun _ => rfl⟩
  | cons item rest ih =>
    rw [List.forall_mem_cons, ← ih]
    exact then_eq_ok

@[simp] theorem complainIf_eq_ok {condition : Bool} {complaint : Complaint} :
    complainIf condition complaint = .ok () ↔ condition = false := by
  cases condition <;> simp [complainIf]

/-! ### Sound settings -/

/-- The module addresses in settings. -/
def addresses (settings : Settings) : List UInt8 :=
  (settings.leak.map LeakSection.address).toList ++
    (settings.outlets.map Outlets.address).toList ++ settings.extension.toList

/-- A climate sensor has a pin, a kind and a pause. -/
structure Climate.Sound (sensor : Climate) : Prop where
  pin : ∃ pin, sensor.pin = .ok pin
  kind : ∃ kind, sensor.kind = .ok kind
  interval : sensor.interval ≠ 0

/-- A register sensor has a route and a pause, and whatever its route needs. -/
structure Probe.Sound (extended : Bool) (sensor : Probe) : Prop where
  route : ∃ route, sensor.route = .ok route
  interval : sensor.interval ≠ 0
  extension : sensor.extension.isSome → extended

/-- Nothing in the settings is wrong by itself or lacks what it needs. -/
structure Sound (settings : Settings) : Prop where
  serial : settings.addresses ≠ [] → settings.serial.isSome
  modules : ∀ address ∈ settings.addresses, address ≤ Serial.maxModuleAddress
  leak : ∀ leak ∈ settings.leak, leak.interval ≠ 0
  climate : ∀ sensor ∈ settings.climate, sensor.Sound
  registerBus : settings.probes ≠ [] → settings.registerBus.isSome
  probes : ∀ sensor ∈ settings.probes, sensor.Sound settings.extension.isSome
  outlets : ∀ outlets ∈ settings.outlets, outlets.states.length ≤ maxOutlets

section Checks

variable {settings : Settings}

theorem Climate.check_eq_ok {sensor : Climate} : sensor.check = .ok () ↔ sensor.Sound := by
  simp only [Climate.check, bind_eq_ok, complainIf_eq_ok, beq_eq_false_iff_ne]
  exact ⟨fun ⟨pin, onPin, kind, ofKind, paused⟩ => ⟨⟨pin, onPin⟩, ⟨kind, ofKind⟩, paused⟩,
    fun ⟨⟨pin, onPin⟩, ⟨kind, ofKind⟩, paused⟩ => ⟨pin, onPin, kind, ofKind, paused⟩⟩

theorem Probe.check_eq_ok {extended : Bool} {sensor : Probe} :
    sensor.check extended = .ok () ↔ sensor.Sound extended := by
  rw [Probe.check, bind_eq_ok]
  simp only [then_eq_ok, complainIf_eq_ok, beq_eq_false_iff_ne, Bool.and_eq_false_iff,
    Bool.not_eq_false']
  constructor
  · rintro ⟨route, routed, paused, covered⟩
    refine ⟨⟨route, routed⟩, paused, fun extended => ?_⟩
    exact covered.resolve_left (by rw [extended]; exact nofun)
  · rintro ⟨⟨route, routed⟩, paused, covered⟩
    refine ⟨route, routed, paused, ?_⟩
    cases reaches : sensor.extension.isSome with
    | false => exact .inl rfl
    | true => exact .inr (covered reaches)

theorem checkModule_eq_ok {item : AddressItem} {address : Option UInt8} :
    checkModule item address = .ok () ↔ ∀ byte ∈ address.toList, byte ≤ Serial.maxModuleAddress := by
  cases address with
  | none => simp [checkModule]
  | some byte => simp [checkModule]

theorem checkModules_eq_ok : settings.checkModules = .ok () ↔
    ∀ address ∈ settings.addresses, address ≤ Serial.maxModuleAddress := by
  simp only [checkModules, then_eq_ok, checkModule_eq_ok, addresses, List.forall_mem_append,
    and_assoc]

theorem serial_eq_ok : (settings.needsSerial && settings.serial.isNone) = false ↔
    (settings.addresses ≠ [] → settings.serial.isSome) := by
  rw [needsSerial, addresses]
  cases settings.leak <;> cases settings.outlets <;> cases settings.extension <;>
    cases settings.serial <;> simp

theorem registerBus_eq_ok : (!settings.probes.isEmpty && settings.registerBus.isNone) = false ↔
    (settings.probes ≠ [] → settings.registerBus.isSome) := by
  cases settings.probes <;> cases settings.registerBus <;> simp

theorem any_eq_ok {α : Type} {bad : α → Bool} {entry : Option α} :
    entry.any bad = false ↔ ∀ value ∈ entry, bad value = false := by
  cases entry <;> simp

/-- **The checks pass exactly if the settings are sound.** -/
theorem check_eq_ok : settings.check = .ok () ↔ settings.Sound := by
  simp only [check, then_eq_ok, complainIf_eq_ok, checkModules_eq_ok, forM_eq_ok,
    Climate.check_eq_ok, Probe.check_eq_ok, serial_eq_ok, registerBus_eq_ok, any_eq_ok,
    beq_eq_false_iff_ne, decide_eq_false_iff_not, Nat.not_lt]
  exact ⟨fun ⟨serial, modules, leak, climate, bus, probes, outlets⟩ =>
      ⟨serial, modules, leak, climate, bus, probes, outlets⟩,
    fun ⟨serial, modules, leak, climate, bus, probes, outlets⟩ =>
      ⟨serial, modules, leak, climate, bus, probes, outlets⟩⟩

end Checks

/-! ### The extension board -/

section Extension

open Serial (Bus ExtensionCode ModuleAddress Lawful)

variable {σ : Type} [Devices σ] {selector : ModuleAddress}

theorem frame_checked {address : UInt8} (inRange : address ≤ Serial.maxModuleAddress)
    (intent : Serial.Intent) : ∃ frame, Serial.Frame.checked address intent = .ok frame := by
  rw [Serial.Frame.checked, ModuleAddress.checked, dif_pos inRange]
  exact ⟨_, rfl⟩

theorem assignExtension_inRange {address : UInt8} (inRange : address ≤ Serial.maxModuleAddress)
    (rig : Rig σ Bus) :
    (Serial.assignExtension address rig).result = .ok () ∧
      (Serial.assignExtension address rig).state.bus.extension = some ⟨address, inRange⟩ := by
  rw [Serial.assignExtension, ModuleAddress.checked, dif_pos inRange]
  exact ⟨rfl, rfl⟩

/-- A channel that can be selected is selected without a breach of contract, if the bus has an
address for the board and no call reports a breach. -/
theorem selectExtension_lawful {channel : UInt8} {code : ExtensionCode}
    (live : ExtensionCode.checked channel = .ok code) (rig : Rig σ Bus)
    (assigned : rig.bus.extension = some selector)
    (lawful : ∀ event ∈ (Serial.selectExtension channel rig).journal.events, ∀ fault,
      event.fault? = some fault → Lawful fault) (breach : Breach) :
    (Serial.selectExtension channel rig).result ≠ .error (.contractViolation breach) := by
  have same : Serial.selectExtension channel rig = Serial.writeCode selector code.value rig := by
    simp only [Serial.selectExtension, live, Serial.routeExtension, Action.ofExcept_ok,
      Action.bind_apply, Action.pure_apply, Rig.memory, assigned, Journal.empty_append]
  rw [same] at lawful ⊢
  intro breached
  have zero : Lawful (.writeFailed 1 .writeZero) := by
    intro breach same
    cases same
  have built : Serial.Built Lawful (Serial.writeCode selector code.value : OnBus σ Bus Unit) :=
    Serial.built_writeCode zero selector code.value
  exact ((built.lawful rig.bus).run () rig lawful).2 _ breached breach rfl

theorem Probe.extension_live {sensor : Probe} {route : Register.Route} {channel : UInt8}
    (routed : sensor.route = .ok route) (reaches : sensor.extension = some channel) :
    ∃ code, ExtensionCode.checked channel = .ok code := by
  cases live : ExtensionCode.checked channel with
  | ok code => exact ⟨code, rfl⟩
  | error fault =>
    simp only [Probe.route, reaches, Register.Route.checked, live] at routed
    split at routed <;> cases routed

end Extension

/-! ### Lines -/

section Lines

open Gpio (Controller MemoryDevice OnBanks)

variable {σ : Type} [MemoryDevice σ] {pin : Pin}

/-- Every pin of the header is on one of the four banks. -/
theorem Climate.pin_bank_lt {sensor : Climate} (onPin : sensor.pin = .ok pin) :
    pin.bank < bankCount := by
  rw [Climate.pin] at onPin
  cases named : Pin.named? sensor.pinName with
  | none =>
    rw [named] at onPin
    cases onPin
  | some found =>
    rw [named] at onPin
    cases onPin
    exact Pin.bank_lt_of_named named

/-- The line of a pin on one of the banks is resolved, unless the memory refuses. -/
theorem resolve_valid (onBank : pin.bank < bankCount) (controller : Controller σ)
    (number : UInt8) : (Gpio.resolve pin controller).result ≠ .error (.invalidPin number) := by
  intro failed
  rcases Gpio.resolve_fault onBank failed with ⟨_, same⟩ | ⟨_, same⟩
  · cases same
  · cases same

end Lines

/-! ### Outlets -/

/-- The bits of the command byte, if all outlets from a place on fit. -/
theorem outletBits_testBit (states : List Bool) (place bit : Nat)
    (fits : place + states.length ≤ 8) :
    (outletBits (.ofNat place) states).toNat.testBit bit =
      (decide (place ≤ bit) && states.getD (bit - place) false) := by
  induction states generalizing place with
  | nil => simp [outletBits]
  | cons state rest ih =>
    have first : ∀ place < 8, ((1 : UInt8) <<< UInt8.ofNat place).toNat = 2 ^ place := by decide
    have next : UInt8.ofNat place + 1 = .ofNat (place + 1) := (UInt8.ofNat_add place 1).symm
    rw [List.length_cons] at fits
    rw [outletBits, next, UInt8.toNat_or, Nat.testBit_or, ih (place + 1) (by omega)]
    have own : (if state then (1 : UInt8) <<< UInt8.ofNat place else 0).toNat.testBit bit =
        (decide (place = bit) && state) := by
      cases state with
      | false => simp
      | true => rw [if_pos rfl, first place (by omega), Nat.testBit_two_pow, Bool.and_true]
    rw [own]
    rcases Nat.lt_trichotomy place bit with above | rfl | below
    · obtain ⟨further, rfl⟩ := Nat.exists_eq_add_of_lt above
      have here : place + further + 1 - place = further + 1 := by omega
      have there : place + further + 1 - (place + 1) = further := by omega
      rw [here, there]
      simp [show place ≠ place + further + 1 by omega, show place ≤ place + further + 1 by omega,
        show place + 1 ≤ place + further + 1 by omega]
    · simp
    · simp [Nat.ne_of_gt below, Nat.not_le.mpr below, Nat.not_le.mpr (Nat.lt_succ_of_lt below)]

/-! ### Accepted settings -/

/-- The pauses between cycles, in seconds. -/
def intervals (settings : Settings) : List UInt64 :=
  (settings.leak.map LeakSection.interval).toList ++ settings.climate.map Climate.interval ++
    settings.probes.map Probe.interval

/-- Settings that nothing turns down when the daemon works by them. -/
structure Usable (settings : Settings) : Prop where
  /-- A module address goes into frames and to the selector, and there is a serial bus for it. -/
  address : ∀ address ∈ settings.addresses, settings.serial.isSome ∧
    (∀ intent, ∃ frame, Serial.Frame.checked address intent = .ok frame) ∧
      ∀ {σ : Type} [Devices σ] (rig : Rig σ Serial.Bus),
        (Serial.assignExtension address rig).result = .ok () ∧
          (Serial.assignExtension address rig).state.bus.extension.map (·.value) = some address
  route : ∀ sensor ∈ settings.probes, ∃ route, sensor.route = .ok route
  /-- A channel of the extension board has a board, and a serial bus with the board's address selects
  it without a breach of contract, unless one of its calls reports such a breach. -/
  board : ∀ sensor ∈ settings.probes, ∀ channel, sensor.extension = some channel →
    settings.serial.isSome ∧ ∃ selector : Serial.ModuleAddress,
      settings.extension = some selector.value ∧
        ∀ {σ : Type} [Devices σ] (rig : Rig σ Serial.Bus), rig.bus.extension = some selector →
          (∀ event ∈ (Serial.selectExtension channel rig).journal.events, ∀ fault,
            event.fault? = some fault → Serial.Lawful fault) →
              ∀ breach, (Serial.selectExtension channel rig).result ≠
                .error (.contractViolation breach)
  /-- A climate sensor is on a line of one of the four banks. -/
  line : ∀ sensor ∈ settings.climate, ∃ pin, sensor.pin = .ok pin ∧ pin.bank < bankCount ∧
    ∀ {σ : Type} [Gpio.MemoryDevice σ] (controller : Gpio.Controller σ) (number : UInt8),
      (Gpio.resolve pin controller).result ≠ .error (.invalidPin number)
  kind : ∀ sensor ∈ settings.climate, ∃ kind, sensor.kind = .ok kind
  /-- Every outlet has a bit of its own in the command byte, next to the lowest, which is clear. -/
  outlets : ∀ outlets ∈ settings.outlets, (∀ place < outlets.states.length, place + 1 ≤ 7) ∧
    outlets.mask.toNat.testBit 0 = false ∧
      ∀ place, outlets.mask.toNat.testBit (place + 1) = outlets.states.getD place false
  interval : ∀ seconds ∈ settings.intervals, 1 ≤ seconds

section Accepting

variable {settings : Settings}

/-- **Accepted settings can be used.** -/
theorem usable_of_check (accepted : settings.check = .ok ()) : settings.Usable := by
  obtain ⟨serial, modules, leak, climate, -, probes, outlets⟩ := check_eq_ok.mp accepted
  have served {address : UInt8} (member : address ∈ settings.addresses) : settings.serial.isSome :=
    serial (List.ne_nil_of_mem member)
  constructor
  case address =>
    intro address member
    have inRange := modules address member
    refine ⟨served member, frame_checked inRange, fun rig => ?_⟩
    obtain ⟨done, assigned⟩ := assignExtension_inRange inRange rig
    exact ⟨done, by rw [assigned]; rfl⟩
  case route => exact fun sensor listed => (probes sensor listed).route
  case board =>
    intro sensor listed channel reaches
    obtain ⟨⟨route, routed⟩, -, extended⟩ := probes sensor listed
    obtain ⟨address, configured⟩ :=
      Option.isSome_iff_exists.mp (extended (by rw [reaches]; rfl))
    have member : address ∈ settings.addresses := by simp [addresses, configured]
    obtain ⟨code, live⟩ := Probe.extension_live routed reaches
    exact ⟨served member, ⟨address, modules address member⟩, configured,
      fun rig assigned lawful => selectExtension_lawful live rig assigned lawful⟩
  case line =>
    intro sensor listed
    obtain ⟨pin, onPin⟩ := (climate sensor listed).pin
    exact ⟨pin, onPin, Climate.pin_bank_lt onPin, resolve_valid (Climate.pin_bank_lt onPin)⟩
  case kind => exact fun sensor listed => (climate sensor listed).kind
  case outlets =>
    intro board present
    have fits : board.states.length ≤ 7 := outlets board present
    have bits (bit : Nat) := outletBits_testBit board.states 1 bit (by omega)
    refine ⟨fun place listed => by omega, bits 0, fun place => ?_⟩
    have shifted := bits (place + 1)
    rwa [decide_eq_true (Nat.le_add_left 1 place), Bool.true_and, Nat.add_sub_cancel] at shifted
  case interval =>
    have pause {seconds : UInt64} (paused : seconds ≠ 0) : 1 ≤ seconds := by
      have positive : seconds.toNat ≠ 0 := fun zero => paused (UInt64.toNat_inj.mp zero)
      exact UInt64.le_iff_toNat_le.mpr (Nat.one_le_iff_ne_zero.mpr positive)
    simp only [intervals, List.forall_mem_append, List.forall_mem_map]
    refine ⟨⟨?_, fun sensor listed => pause (climate sensor listed).interval⟩,
      fun sensor listed => pause (probes sensor listed).interval⟩
    intro seconds member
    obtain ⟨detector, present, rfl⟩ := Option.map_eq_some_iff.mp (Option.mem_toList.mp member)
    exact pause (leak detector present)

/-- Settings with everything in them are accepted, and usable. The channel of their first register
sensor is selected without a breach of contract on a board whose strobe line fails. -/
theorem usable_full :
    let settings : Settings :=
      { serial := some ⟨"/dev/spidev0.0", 0, 8, 500000⟩
        registerBus := some ⟨"/dev/i2c-1", some 7⟩
        climate := [⟨"attic", "P8_11", "dht22", 10⟩, ⟨"cellar", " p9.25", "DHT11", 60⟩]
        leak := some ⟨3, 1⟩
        outlets := some ⟨15, [true, false, true, true, false, false, true]⟩
        probes := [⟨"tank", 2, some 0b0101, 0x76, .register, 0, 2, 30⟩,
          ⟨"door", 0, none, 0x20, .bare, 0, 1, 5⟩] }
    let board : Bench.Board Unit :=
      (Bench.Board.fresh []).planned [⟨.drive .strobe .low, 0, .fault .timeout⟩]
    let bus : Serial.Bus := .withExtension ⟨7, by decide⟩ (.fresh ⟨⟨0⟩, 8, 500000⟩)
    let outcome := Serial.selectExtension 0b0101 ⟨board, bus⟩
    settings.check = .ok () ∧ settings.Usable ∧
      .drive .strobe .low (some .timeout) ∈ outcome.journal.events ∧
        ∀ breach, outcome.result ≠ .error (.contractViolation breach) := by
  intro settings board bus outcome
  have accepted : settings.check = .ok () := by decide +kernel
  have usable := usable_of_check accepted
  refine ⟨accepted, usable, by decide +kernel, ?_⟩
  obtain ⟨-, selector, configured, selected⟩ :=
    usable.board ⟨"tank", 2, some 0b0101, 0x76, .register, 0, 2, 30⟩ List.mem_cons_self 0b0101 rfl
  have own : bus.extension = some selector := by
    cases selector
    cases configured
    rfl
  refine selected ⟨board, bus⟩ own fun event made fault failed => ?_
  have answers : ∀ event ∈ outcome.journal.events, event.fault? ∈ [none, some .timeout] := by
    decide +kernel
  have timeout : fault = .timeout := by simpa [failed] using answers event made
  rw [timeout]
  exact fun _ => nofun

end Accepting

end SensorCape.Settings
