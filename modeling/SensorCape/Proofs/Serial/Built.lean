/-
**What the operations are built from.**

Every operation of the serial bus is put together from a few moves: it looks at what the bus
remembers, switches to a profile, drives a line, exchanges bytes, moves raw bytes, or takes an
address for the selector. It does one after the other, stops at a fault, and cleans up in brackets.

* `Built`: an action that is put together in this way; `Command.built` — every operation is.
* `Built.lawful`: **a built action reports a breach of contract only if it makes one of its own or a
  line reported one**, since the serial device has faults of its own.
-/

import SensorCape.Proofs.Serial.FirstFault

set_option linter.unusedSectionVars false

namespace SensorCape.Serial

variable {σ : Type} [Devices σ]

/-! ### Built actions -/

/-- An action put together from the moves of the bus, in sequences and in brackets. The faults of
its own, which no call reported, are among those it may have. -/
inductive Built (may : Fault → Prop) : {α : Type} → OnBus σ Bus α → Prop
  | pure {α : Type} (value : α) : Built may (Pure.pure value)
  | fail {α : Type} {fault : Fault} (allowed : may fault) :
      Built may (Action.fail fault : OnBus σ Bus α)
  | note (severity : Severity) (text : String) : Built may (Action.note severity text)
  | memory : Built may Rig.memory
  | assign (address : ModuleAddress) : Built may (Rig.remember (Bus.withExtension address))
  | switchTo (profile : Profile) : Built may (Serial.switchTo profile)
  | drive (line : Line) (how : Drive) : Built may (Rig.drive line how)
  | exchange (sent : List UInt8) (profile : Profile) : Built may (Serial.exchange sent profile)
  | writeRaw (data : List UInt8) : Built may (Serial.writeRaw data)
  | readRaw (length : Nat) : Built may (Serial.readRaw length)
  | bind {α β : Type} {first : OnBus σ Bus α} {next : α → OnBus σ Bus β}
      (head : Built may first) (rest : ∀ value, Built may (next value)) :
      Built may (first >>= next)
  | ensuring {α : Type} {body : OnBus σ Bus α} {cleanup : OnBus σ Bus Unit}
      (inner : Built may body) (after : Built may cleanup) :
      Built may (Action.ensuring body cleanup)

section Operations

variable {α : Type} {may : Fault → Prop}

theorem built_ofExcept {result : Except Fault α}
    (allowed : ∀ fault, result = .error fault → may fault) :
    Built may (Action.ofExcept result : OnBus σ Bus α) := by
  cases result with
  | ok value => exact .pure value
  | error fault => exact .fail (allowed fault rfl)

theorem built_withProfile (profile : Profile) {body : OnBus σ Bus α} (built : Built may body) :
    Built may (withProfile profile body) :=
  .bind .memory fun prior =>
    .ensuring (.bind (.switchTo profile) fun _ => built) (.switchTo prior.active)

theorem built_transferSecondary (sent : List UInt8) :
    Built may (transferSecondary sent : OnBus σ Bus (List UInt8)) :=
  built_withProfile .secondary <|
    .bind (.drive _ _) fun _ => .ensuring (.exchange _ _) (.drive _ _)

theorem built_sendFrame (frame : Frame) : Built may (sendFrame frame : OnBus σ Bus Unit) :=
  .bind (built_transferSecondary _) fun _ => .pure ()

theorem built_chipSelected {body : OnBus σ Bus α} (built : Built may body) :
    Built may (chipSelected body) := .ensuring built (.drive _ _)

theorem built_pushPayload (address : ModuleAddress) (data : List UInt8) :
    Built may (pushPayload address data : OnBus σ Bus Nat) :=
  built_withProfile .secondary <| .bind (built_sendFrame _) fun _ => built_chipSelected <|
    .bind (.drive _ _) fun _ => .bind (.drive _ _) fun _ => .bind (.drive _ _) fun _ =>
      .writeRaw data

theorem built_pullByte (address : ModuleAddress) :
    Built may (pullByte address : OnBus σ Bus UInt8) :=
  built_withProfile .secondary <| .bind (built_sendFrame _) fun _ =>
    .bind (built_chipSelected (.drive _ _)) fun _ => .bind (built_sendFrame _) fun _ =>
      built_chipSelected <| .bind (.drive _ _) fun _ => .bind (.readRaw 1) fun _ => .pure _

theorem built_writeCode (zero : may (.writeFailed 1 .writeZero)) (selector : ModuleAddress)
    (code : UInt8) : Built may (writeCode selector code : OnBus σ Bus Unit) := by
  refine .bind (built_pushPayload selector [code]) fun written => ?_
  by_cases one : written = 1
  · rw [if_pos one]
    exact .note _ _
  · rw [if_neg one]
    exact .fail zero

/-- **Every operation is built from the moves of the bus.** -/
theorem Command.built (command : Command) :
    Built (fun _ => True) (command.run : OnBus σ Bus Reply) := by
  have checked {α : Type} (result : Except Fault α) :
      Built (fun _ => True) (Action.ofExcept result : OnBus σ Bus α) :=
    built_ofExcept fun _ _ => trivial
  cases command with
  | transfer data =>
    exact .bind (built_withProfile .primary (.exchange data .primary)) fun _ => .pure _
  | transferSecondary data => exact .bind (built_transferSecondary data) fun _ => .pure _
  | select address intent =>
    exact .bind (.bind (checked _) fun _ => built_sendFrame _) fun _ => .pure _
  | writeModule address data =>
    exact .bind (.bind (checked _) fun _ => built_pushPayload _ data) fun _ => .pure _
  | readModule address =>
    exact .bind (.bind (checked _) fun _ => built_pullByte _) fun _ => .pure _
  | assignExtension address =>
    exact .bind (.bind (checked _) fun _ => .bind (.note _ _) fun _ => .assign _) fun _ => .pure _
  | selectExtension channel =>
    refine .bind (.bind (checked _) fun code => .bind .memory fun bus => ?_) fun _ => .pure _
    cases bus.extension with
    | some selector => exact built_writeCode trivial selector code.value
    | none => exact .fail trivial
  | parkExtension =>
    refine .bind (.bind .memory fun bus => ?_) fun _ => .pure _
    cases bus.extension with
    | some selector => exact built_writeCode trivial selector parkedCode
    | none => exact .pure ()

end Operations

/-! ### Breaches of contract -/

/-- A fault that is no breach of contract. -/
def Lawful (fault : Fault) : Prop := ∀ breach, fault ≠ .contractViolation breach

/-- Takes for granted that no call reports a breach of contract. -/
def lawfully : Monitor Unit := ⟨fun _ _ => (), fun event => ∀ fault, event.fault? = some fault →
  Lawful fault, fun _ _ => True⟩

section Breaches

variable {α : Type} {bus : Bus}

theorem leads_switchTo_lawful (profile : Profile) :
    lawfully.Leads () bus (switchTo profile : OnBus σ Bus Unit)
      fun result _ _ => ∀ fault, result = .error fault → Lawful fault := by
  have tracks : Tracks lawfully (bus.configuration profile) (fun _ _ => True)
      fun fault _ _ => Lawful fault :=
    { written := fun _ _ _ _ _ _ _ => ⟨trivial, trivial⟩
      refused := fun _ _ _ _ _ _ _ _ => ⟨trivial, nofun⟩ }
  refine Monitor.leads_mono (leads_switchTo tracks trivial) ?_
  rintro (fault | _) _ _ ended
  · rintro _ ⟨⟩
    exact ended.1
  · exact nofun

/-- **A built action breaks no contract** unless a call reports that one was broken. -/
theorem Built.lawful {body : OnBus σ Bus α} (built : Built Lawful body) :
    ∀ bus, lawfully.Leads () bus body
      fun result _ _ => ∀ fault, result = .error fault → Lawful fault := by
  induction built with
  | pure value => exact fun _ => Monitor.leads_pure nofun
  | fail allowed => exact fun _ => Monitor.leads_fail fun _ same => Except.error.inj same ▸ allowed
  | note severity text => exact fun _ => Monitor.leads_note nofun
  | memory => exact fun _ => Monitor.leads_memory nofun
  | assign address => exact fun _ => Monitor.leads_remember nofun
  | switchTo profile => exact fun _ => leads_switchTo_lawful profile
  | drive line how =>
    refine fun _ => Monitor.leads_drive (fun _ => ⟨trivial, nofun⟩) fun refusal assumed => ⟨trivial, ?_⟩
    rintro _ ⟨⟩
    exact assumed refusal rfl
  | exchange sent profile =>
    refine fun _ => leads_exchange (fun _ _ => ⟨trivial, nofun⟩) fun cause _ => ⟨trivial, ?_⟩
    rintro _ ⟨⟩
    exact nofun
  | writeRaw data =>
    refine fun _ => leads_writeRaw fun count _ => ⟨trivial, fun fault failed => ?_⟩
    rcases (checkWritten_eq_error _ _ _).mp failed with ⟨cause, -, rfl⟩ | ⟨moved, -, -, rfl⟩
    · exact nofun
    · exact nofun
  | readRaw length =>
    refine fun _ => leads_readRaw fun filling _ => ⟨trivial, fun fault failed => ?_⟩
    cases checked : checkRead length filling.count with
    | ok count =>
      rw [checked] at failed
      cases failed
    | error refusal =>
      rw [checked] at failed
      cases failed
      rcases (checkRead_eq_error _ _ _).mp checked with ⟨cause, -, rfl⟩ | ⟨moved, -, -, rfl⟩
      · exact nofun
      · exact nofun
  | bind _ _ headIh restIh =>
    refine fun bus => Monitor.leads_bind (Monitor.leads_mono (headIh bus) ?_)
    rintro (fault | value) _ after ended
    · exact fun _ same => ended _ (Except.error.inj same ▸ rfl)
    · exact restIh value after
  | ensuring _ _ innerIh afterIh =>
    refine fun bus => Monitor.leads_ensuring (Monitor.leads_mono (innerIh bus) ?_)
    intro inner _ middle first
    refine Monitor.leads_mono (afterIh middle) ?_
    rintro outer _ _ second fault failed
    cases inner with
    | error refusal =>
      cases failed
      exact first _ rfl
    | ok value =>
      cases outer with
      | ok done => cases failed
      | error refusal =>
        cases failed
        exact second _ rfl

end Breaches

end SensorCape.Serial
