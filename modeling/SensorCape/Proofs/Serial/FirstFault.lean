/-
**The first fault.**

A failed call reports a fault (`Event.Reports`). The brackets of an operation always run their
clean-up, and clean-up may fail as well, so a run can see many failed calls. It is always the first
one that the caller hears of.

* `Event.IsCleanUp`: what may still be called once something failed.
* `Command.result_of_first_fault`: **an operation succeeds exactly if no call of its run failed, and
  otherwise it ends with the fault of the first failed call and only cleans up after it.**
-/

import SensorCape.Bench.Board
import SensorCape.Proofs.Serial.Work

set_option linter.unusedSectionVars false

namespace SensorCape

/-! ### Failed calls -/

namespace Event

/-- A call failed, and this is the fault that its caller is to hear of: a call without data has a
fault of its own, a refused setting is a transfer of length zero, and raw traffic that moved fewer
bytes than asked for has failed. -/
def Reports : Event → Fault → Prop
  | .drive _ _ failure, fault | .openTarget _ failure, fault | .routeBoard _ failure, fault
  | .parkBoard failure, fault => failure = some fault
  | .configure _ failure, fault => ∃ cause, failure = some cause ∧ fault = .transferFailed 0 cause
  | .exchange sent _ failure, fault =>
    ∃ cause, failure = some cause ∧ fault = .transferFailed sent.length cause
  | .write data count, fault | .writeTarget _ data count, fault =>
    (∃ cause, count = .refused cause ∧ fault = .writeFailed data.length cause) ∨
      ∃ moved, count = .moved moved ∧ moved < data.length ∧
        fault = .writeFailed data.length (.shortWrite moved data.length)
  | .read length count, fault | .readTarget _ length count, fault =>
    (∃ cause, count = .refused cause ∧ fault = .readFailed length cause) ∨
      ∃ moved, count = .moved moved ∧ moved < length ∧
        fault = .readFailed length (.shortRead moved length)
  | .close, _ => False

/-- A call does not claim to have moved more bytes than it was asked to. -/
def Modest : Event → Prop
  | .write data (.moved bytes) | .writeTarget _ data (.moved bytes) => bytes ≤ data.length
  | .read length (.moved bytes) | .readTarget _ length (.moved bytes) => bytes ≤ length
  | _ => True

/-- The calls of a clean-up: a framing line is raised, or a setting is written back. -/
def IsCleanUp : Event → Prop
  | .drive .strobe .high _ | .drive .chipSelect .high _ | .configure _ _ => True
  | _ => False

end Event

/-- A count below what was asked for fails a write, with what was moved as its cause. -/
theorem checkWritten_eq_error (expected : Nat) (count : Count) (fault : Fault) :
    checkWritten expected count = .error fault ↔
      (∃ cause, count = .refused cause ∧ fault = .writeFailed expected cause) ∨
        ∃ moved, count = .moved moved ∧ moved < expected ∧
          fault = .writeFailed expected (.shortWrite moved expected) := by
  cases count with
  | refused cause => simp [checkWritten, eq_comm]
  | moved bytes =>
    by_cases enough : expected ≤ bytes
    · simp [checkWritten, enough, Nat.not_lt.mpr enough]
    · simp [checkWritten, enough, Nat.not_le.mp enough, eq_comm]

theorem checkRead_eq_error (expected : Nat) (count : Count) (fault : Fault) :
    checkRead expected count = .error fault ↔
      (∃ cause, count = .refused cause ∧ fault = .readFailed expected cause) ∨
        ∃ moved, count = .moved moved ∧ moved < expected ∧
          fault = .readFailed expected (.shortRead moved expected) := by
  cases count with
  | refused cause => simp [checkRead, eq_comm]
  | moved bytes =>
    by_cases enough : expected ≤ bytes
    · simp [checkRead, enough, Nat.not_lt.mpr enough]
    · simp [checkRead, enough, Nat.not_le.mp enough, eq_comm]

/-- The fault of a result. -/
def faultOf {α : Type} : Except Fault α → Option Fault
  | .ok _ => none
  | .error fault => some fault

theorem faultOf_eq_some {α : Type} (result : Except Fault α) (fault : Fault) :
    faultOf result = some fault ↔ result = .error fault := by
  cases result <;> simp [faultOf]

theorem faultOf_eq_none (result : Except Fault Unit) :
    faultOf result = none ↔ result = .ok () := by
  cases result <;> simp [faultOf]

theorem Event.fault?_write (data : List UInt8) (count : Count) :
    (Event.write data count).fault? = faultOf (checkWritten data.length count) := by
  simp only [fault?]
  cases checkWritten data.length count with
  | ok _ => rfl
  | error fault => rfl

theorem Event.fault?_read (length : Nat) (count : Count) :
    (Event.read length count).fault? = faultOf (checkRead length count) := by
  simp only [fault?]
  cases checkRead length count with
  | ok _ => rfl
  | error fault => rfl

/-- **The fault of a call is the one that it reports.** -/
theorem Event.fault?_eq_some (event : Event) (fault : Fault) :
    event.fault? = some fault ↔ event.Reports fault := by
  cases event with
  | drive line how failure => exact Iff.rfl
  | openTarget address failure => exact Iff.rfl
  | routeBoard code failure => exact Iff.rfl
  | parkBoard failure => exact Iff.rfl
  | close => simp [fault?, Reports]
  | configure setting failure => cases failure <;> simp [fault?, Reports, eq_comm]
  | exchange sent under failure => cases failure <;> simp [fault?, Reports, eq_comm]
  | write data count =>
    rw [fault?_write]
    exact (faultOf_eq_some _ fault).trans (checkWritten_eq_error data.length count fault)
  | writeTarget address data count =>
    rw [show (writeTarget address data count).fault? = _ from fault?_write data count]
    exact (faultOf_eq_some _ fault).trans (checkWritten_eq_error data.length count fault)
  | read length count =>
    rw [fault?_read]
    exact (faultOf_eq_some _ fault).trans (checkRead_eq_error length count fault)
  | readTarget address length count =>
    rw [show (readTarget address length count).fault? = _ from fault?_read length count]
    exact (faultOf_eq_some _ fault).trans (checkRead_eq_error length count fault)

/-! ### The first fault of a run -/

/-- Remembers the first fault, and from then on lets only clean-up pass. No call is to claim more
than it was asked for. -/
def firstFault : Monitor (Option Fault) where
  next past event := past.or event.fault?
  assumes := Event.Modest
  allows past event := past ≠ none → event.IsCleanUp

theorem after_fault (fault : Fault) (events : List Event) :
    firstFault.after (some fault) events = some fault := by
  induction events with
  | nil => rfl
  | cons event rest ih => exact ih

/-- Nothing is remembered exactly if no call failed. -/
theorem after_eq_none (events : List Event) :
    firstFault.after none events = none ↔ ∀ event ∈ events, event.fault? = none := by
  induction events with
  | nil => simp [Monitor.after]
  | cons event rest ih =>
    rw [List.forall_mem_cons, ← ih]
    show firstFault.after (Option.or none event.fault?) rest = none ↔ _
    rw [Option.none_or]
    cases failed : event.fault? with
    | none => simp
    | some fault => simp [after_fault]

/-- Once something failed, all that follows is clean-up. -/
theorem cleanUp_of_admits {fault : Fault} {events : List Event}
    (admitted : firstFault.Admits (some fault) events) :
    ∀ event ∈ events, event.IsCleanUp := by
  induction events with
  | nil => exact fun _ member => absurd member List.not_mem_nil
  | cons event rest ih =>
    obtain ⟨first, others⟩ := admitted
    exact List.forall_mem_cons.mpr ⟨first (Option.some_ne_none _), ih others⟩

/-! ### Actions that report their first fault -/

section Prompt

variable {σ τ α β : Type}

/-- An action for clean-up: its calls may follow a fault, and a fault of its own counts only if
there was none before. -/
def Cleans (body : OnBus σ τ α) : Prop :=
  ∀ past bus, firstFault.Leads past bus body fun result after _ => after = past.or (faultOf result)

/-- Begun with no fault so far, an action ends with the first fault, and otherwise with a value
that `yields` holds of. -/
def Prompt (yields : α → Prop) (body : OnBus σ τ α) : Prop :=
  ∀ bus, firstFault.Leads none bus body fun result after _ =>
    after = faultOf result ∧ ∀ value, result = .ok value → yields value

theorem cleans_pure (value : α) : Cleans (pure value : OnBus σ τ α) := fun _ _ =>
  Monitor.leads_pure (Option.or_none).symm

theorem cleans_memory : Cleans (Rig.memory : OnBus σ τ τ) := fun _ _ =>
  Monitor.leads_memory (Option.or_none).symm

theorem cleans_remember (change : τ → τ) : Cleans (Rig.remember change : OnBus σ τ Unit) :=
  fun _ _ => Monitor.leads_remember (Option.or_none).symm

theorem cleans_note (severity : Severity) (text : String) :
    Cleans (Action.note severity text : OnBus σ τ Unit) := fun _ _ =>
  Monitor.leads_note (Option.or_none).symm

theorem cleans_bind {first : OnBus σ τ α} {next : α → OnBus σ τ β} (cleans : Cleans first)
    (follow : ∀ value, Cleans (next value)) : Cleans (first >>= next) := by
  intro past bus
  refine Monitor.leads_bind (Monitor.leads_mono (cleans past bus) ?_)
  rintro (fault | value) after inner reached
  · exact reached
  · rw [show after = past from reached.trans Option.or_none]
    exact follow value past inner

/-- A call whose event is clean-up whatever the answer. -/
theorem cleans_command {ρ : Type} {ask : σ → ρ × σ} {event : ρ → Event}
    (cleanUp : ∀ answer, (event answer).IsCleanUp) :
    Cleans (Rig.command ask event : OnBus σ τ Unit) := by
  intro past bus
  refine Monitor.leads_command fun answer _ => ⟨fun _ => cleanUp answer, ?_⟩
  have remembered : firstFault.next past (event answer) = past.or (event answer).fault? := rfl
  rw [remembered]
  cases (event answer).fault? with
  | none => rfl
  | some fault => rfl

theorem Cleans.prompt {body : OnBus σ τ α} (cleans : Cleans body) :
    Prompt (fun _ => True) body := fun bus =>
  Monitor.leads_mono (cleans none bus) fun _ _ _ reached =>
    ⟨reached.trans Option.none_or, fun _ _ => trivial⟩

theorem prompt_pure {yields : α → Prop} {value : α} (holds : yields value) :
    Prompt yields (pure value : OnBus σ τ α) := fun _ =>
  Monitor.leads_pure ⟨rfl, fun _ same => Except.ok.inj same ▸ holds⟩

theorem prompt_bind {yields : α → Prop} {produces : β → Prop} {first : OnBus σ τ α}
    {next : α → OnBus σ τ β} (prompt : Prompt yields first)
    (follow : ∀ value, yields value → Prompt produces (next value)) :
    Prompt produces (first >>= next) := by
  intro bus
  refine Monitor.leads_bind (Monitor.leads_mono (prompt bus) ?_)
  rintro (fault | value) after inner ⟨reported, holds⟩
  · exact ⟨reported, nofun⟩
  · rw [show after = none from reported]
    exact follow value (holds value rfl) inner

/-- **A bracket reports its first fault**, be it one of the body or one of the clean-up. -/
theorem prompt_ensuring {yields : α → Prop} {body : OnBus σ τ α} {cleanup : OnBus σ τ Unit}
    (prompt : Prompt yields body) (cleans : Cleans cleanup) :
    Prompt yields (Action.ensuring body cleanup) := by
  intro bus
  refine Monitor.leads_ensuring (Monitor.leads_mono (prompt bus) ?_)
  rintro inner after middle ⟨reported, holds⟩
  refine Monitor.leads_mono (cleans after middle) ?_
  rintro outer past last ended
  rw [ended, reported]
  refine ⟨?_, fun value finished => holds value ?_⟩
  · cases inner <;> cases outer <;> rfl
  · exact ((Action.settled_eq_ok inner outer value).mp finished).1

theorem prompt_drive [Devices σ] (line : Line) (how : Drive) :
    Prompt (fun _ => True) (Rig.drive line how : OnBus σ τ Unit) := fun _ =>
  Monitor.leads_drive (fun _ => ⟨fun failed => absurd rfl failed, rfl, fun _ _ => trivial⟩)
    fun _ _ => ⟨fun failed => absurd rfl failed, rfl, nofun⟩

end Prompt

/-! ### Operations -/

namespace Serial

variable {σ α : Type} [Devices σ]

section Switches

theorem cleans_settle (setting : Setting) : Cleans (settle setting : OnBus σ Bus Unit) := by
  refine cleans_bind cleans_memory fun bus => ?_
  by_cases applied : bus.applied.holds setting = true
  · rw [if_pos applied]
    exact cleans_pure ()
  · rw [if_neg applied]
    exact cleans_bind (cleans_command fun _ => trivial) fun _ => cleans_remember _

theorem cleans_settleAll (settings : List Setting) :
    Cleans (settleAll settings : OnBus σ Bus Unit) := by
  induction settings with
  | nil => exact cleans_pure ()
  | cons setting rest ih => exact cleans_bind (cleans_settle setting) fun _ => ih

theorem cleans_enter (profile : Profile) : Cleans (enter profile : OnBus σ Bus Unit) := by
  refine cleans_bind cleans_memory fun bus => ?_
  by_cases active : bus.active = profile
  · rw [if_pos active]
    exact cleans_pure ()
  · rw [if_neg active]
    exact cleans_bind (cleans_note _ _) fun _ => cleans_remember _

/-- A switch writes settings and does nothing else, so it can clean up. -/
theorem cleans_switchTo (profile : Profile) : Cleans (switchTo profile : OnBus σ Bus Unit) :=
  cleans_bind cleans_memory fun _ => cleans_bind (cleans_settleAll _) fun _ => cleans_enter _

theorem prompt_withProfile {yields : α → Prop} {profile : Profile} {body : OnBus σ Bus α}
    (prompt : Prompt yields body) : Prompt yields (withProfile profile body) :=
  prompt_bind cleans_memory.prompt fun _ _ => prompt_ensuring
    (prompt_bind (cleans_switchTo _).prompt fun _ _ => prompt) (cleans_switchTo _)

end Switches

section Traffic

theorem cleans_raise {line : Line} (framing : line = .strobe ∨ line = .chipSelect) :
    Cleans (Rig.drive line .high : OnBus σ Bus Unit) := by
  refine cleans_command fun _ => ?_
  rcases framing with rfl | rfl
  · exact trivial
  · exact trivial

theorem prompt_chipSelected {yields : α → Prop} {body : OnBus σ Bus α}
    (prompt : Prompt yields body) : Prompt yields (chipSelected body) :=
  prompt_ensuring prompt (cleans_raise (.inr rfl))

theorem prompt_exchange (sent : List UInt8) (profile : Profile) :
    Prompt (fun _ => True) (exchange sent profile : OnBus σ Bus (List UInt8)) := fun _ =>
  leads_exchange (fun _ _ => ⟨fun failed => absurd rfl failed, rfl, fun _ _ => trivial⟩)
    fun _ _ => ⟨fun failed => absurd rfl failed, rfl, nofun⟩

/-- A raw write that went well wrote exactly the data. -/
theorem prompt_writeRaw (data : List UInt8) :
    Prompt (· = data.length) (writeRaw data : OnBus σ Bus Nat) := by
  refine fun _ => leads_writeRaw fun count modest =>
    ⟨fun failed => absurd rfl failed, Event.fault?_write data count, fun written checked => ?_⟩
  cases count with
  | refused cause => cases checked
  | moved bytes =>
    have atMost : bytes ≤ data.length := modest
    by_cases enough : data.length ≤ bytes
    · rw [checkWritten, if_pos enough] at checked
      cases checked
      omega
    · rw [checkWritten, if_neg enough] at checked
      cases checked

theorem prompt_readRaw (length : Nat) :
    Prompt (fun _ => True) (readRaw length : OnBus σ Bus (List UInt8)) := by
  refine fun _ => leads_readRaw fun filling _ =>
    ⟨fun failed => absurd rfl failed, ?_, fun _ _ => trivial⟩
  show Option.or none (Event.read length filling.count).fault? = _
  rw [Option.none_or, Event.fault?_read]
  cases checkRead length filling.count with
  | ok _ => rfl
  | error fault => rfl

theorem prompt_transfer (sent : List UInt8) :
    Prompt (fun _ => True) (transfer sent : OnBus σ Bus (List UInt8)) :=
  prompt_withProfile (prompt_exchange sent .primary)

theorem prompt_transferSecondary (sent : List UInt8) :
    Prompt (fun _ => True) (transferSecondary sent : OnBus σ Bus (List UInt8)) :=
  prompt_withProfile <| prompt_bind (prompt_drive _ _) fun _ _ =>
    prompt_ensuring (prompt_exchange sent .secondary) (cleans_raise (.inl rfl))

theorem prompt_sendFrame (frame : Frame) :
    Prompt (fun _ => True) (sendFrame frame : OnBus σ Bus Unit) :=
  prompt_bind (prompt_transferSecondary _) fun _ _ => prompt_pure trivial

/-- A payload that went out well went out whole. -/
theorem prompt_pushPayload (address : ModuleAddress) (data : List UInt8) :
    Prompt (· = data.length) (pushPayload address data : OnBus σ Bus Nat) :=
  prompt_withProfile <| prompt_bind (prompt_sendFrame _) fun _ _ => prompt_chipSelected <|
    prompt_bind (prompt_drive _ _) fun _ _ => prompt_bind (prompt_drive _ _) fun _ _ =>
      prompt_bind (prompt_drive _ _) fun _ _ => prompt_writeRaw data

theorem prompt_pullByte (address : ModuleAddress) :
    Prompt (fun _ => True) (pullByte address : OnBus σ Bus UInt8) :=
  prompt_withProfile <| prompt_bind (prompt_sendFrame _) fun _ _ =>
    prompt_bind (prompt_chipSelected (prompt_drive _ _)) fun _ _ =>
      prompt_bind (prompt_sendFrame _) fun _ _ => prompt_chipSelected <|
        prompt_bind (prompt_drive _ _) fun _ _ =>
          prompt_bind (prompt_readRaw 1) fun _ _ => prompt_pure trivial

/-- The one byte of a code goes out or its write has failed, so the count is right whenever it is
looked at. -/
theorem prompt_writeCode (selector : ModuleAddress) (code : UInt8) :
    Prompt (fun _ => True) (writeCode selector code : OnBus σ Bus Unit) := by
  refine prompt_bind (prompt_pushPayload selector [code]) fun written whole => ?_
  rw [if_pos (show written = 1 from whole)]
  exact (cleans_note _ _).prompt

end Traffic

/-- What the arguments of an operation have to be: module addresses fit four bits, and a code of the
extension board switches both of its sides on and needs a selector. -/
def Command.Valid (bus : Bus) : Command → Prop
  | .transfer _ | .transferSecondary _ | .parkExtension => True
  | .select address _ | .writeModule address _ | .readModule address | .assignExtension address =>
    address ≤ 15
  | .selectExtension channel =>
    channel < 16 ∧ channel &&& 3 ≠ 0 ∧ channel &&& 12 ≠ 0 ∧ bus.extension ≠ none

theorem moduleAddress_checked {address : UInt8} (inRange : address ≤ 15) :
    ModuleAddress.checked address = .ok ⟨address, inRange⟩ :=
  ModuleAddress.checked_value ⟨address, inRange⟩

theorem extensionCode_checked {channel : UInt8} (inRange : channel < 16) (low : channel &&& 3 ≠ 0)
    (high : channel &&& 12 ≠ 0) : ∃ code, ExtensionCode.checked channel = .ok code := by
  have live : joinsBothSides channel = true := by
    unfold joinsBothSides
    rw [Bool.and_eq_true, bne_iff_ne, bne_iff_ne]
    exact ⟨low, high⟩
  exact ⟨⟨channel, inRange, live⟩, (ExtensionCode.checked_eq_ok channel _).mpr rfl⟩

/-- On a bus that has a selector, a channel of the board is selected by writing its code. -/
theorem leads_selectExtension {channel : UInt8} {bus : Bus} (inRange : channel < 16)
    (low : channel &&& 3 ≠ 0) (high : channel &&& 12 ≠ 0) (configured : bus.extension ≠ none) :
    firstFault.Leads none bus (Serial.selectExtension channel : OnBus σ Bus Unit)
      fun result after _ => after = faultOf result ∧ ∀ value, result = .ok value → True := by
  obtain ⟨code, checked⟩ := extensionCode_checked inRange low high
  obtain ⟨selector, same⟩ := Option.ne_none_iff_exists'.mp configured
  unfold Serial.selectExtension routeExtension
  rw [checked]
  refine Monitor.leads_bind (Monitor.leads_pure (Monitor.leads_bind (Monitor.leads_memory ?_)))
  simp only [same]
  exact prompt_writeCode selector code.value bus

theorem prompt_parkExtension : Prompt (fun _ => True) (parkExtension : OnBus σ Bus Unit) := by
  refine prompt_bind cleans_memory.prompt fun bus _ => ?_
  cases bus.extension with
  | none => exact prompt_pure trivial
  | some selector => exact prompt_writeCode selector parkedCode

theorem prompt_assignExtension {address : UInt8} (inRange : address ≤ 15) :
    Prompt (fun _ => True) (assignExtension address : OnBus σ Bus Unit) := by
  unfold assignExtension
  rw [moduleAddress_checked inRange]
  exact prompt_bind (cleans_pure _).prompt fun _ _ =>
    prompt_bind (cleans_note _ _).prompt fun _ _ => (cleans_remember _).prompt

theorem prompt_select {address : UInt8} (inRange : address ≤ 15) (intent : Intent) :
    Prompt (fun _ => True) (Serial.select address intent : OnBus σ Bus Unit) := by
  unfold Serial.select Frame.checked
  rw [moduleAddress_checked inRange]
  exact prompt_bind (cleans_pure _).prompt fun _ _ => prompt_sendFrame _

theorem prompt_writeModule {address : UInt8} (inRange : address ≤ 15) (data : List UInt8) :
    Prompt (· = data.length) (Serial.writeModule address data : OnBus σ Bus Nat) := by
  unfold Serial.writeModule
  rw [moduleAddress_checked inRange]
  exact prompt_bind (cleans_pure _).prompt fun _ _ => prompt_pushPayload _ _

theorem prompt_readModule {address : UInt8} (inRange : address ≤ 15) :
    Prompt (fun _ => True) (Serial.readModule address : OnBus σ Bus UInt8) := by
  unfold Serial.readModule
  rw [moduleAddress_checked inRange]
  exact prompt_bind (cleans_pure _).prompt fun _ _ => prompt_pullByte _

/-- Turning a value into a reply makes no calls. -/
theorem leads_reply {body : OnBus σ Bus α} {yields : α → Prop} {bus : Bus}
    (leads : firstFault.Leads none bus body fun result after _ =>
      after = faultOf result ∧ ∀ value, result = .ok value → yields value) (reply : α → Reply) :
    firstFault.Leads none bus (body >>= fun value => (pure (reply value) : OnBus σ Bus Reply))
      fun result after _ => after = faultOf result := by
  refine Monitor.leads_bind (Monitor.leads_mono leads ?_)
  rintro (fault | value) after inner ⟨reported, -⟩
  · exact reported
  · exact Monitor.leads_pure reported

/-- **An operation with valid arguments reports its first fault.** -/
theorem Command.leads_firstFault {command : Command} {bus : Bus} (valid : command.Valid bus) :
    firstFault.Leads none bus (command.run : OnBus σ Bus Reply) fun result after _ =>
      after = faultOf result := by
  cases command with
  | transfer data => exact leads_reply (prompt_transfer data bus) _
  | transferSecondary data => exact leads_reply (prompt_transferSecondary data bus) _
  | select address intent => exact leads_reply (prompt_select valid intent bus) fun _ => .nothing
  | writeModule address data => exact leads_reply (prompt_writeModule valid data bus) _
  | readModule address => exact leads_reply (prompt_readModule valid bus) _
  | assignExtension address =>
    exact leads_reply (prompt_assignExtension valid bus) fun _ => .nothing
  | selectExtension channel =>
    obtain ⟨inRange, low, high, configured⟩ := valid
    exact leads_reply (leads_selectExtension inRange low high configured) fun _ => .nothing
  | parkExtension => exact leads_reply (prompt_parkExtension bus) fun _ => .nothing

/-- **An operation reports the first call that failed.** With valid arguments, from any state of
the bus and whatever the devices answer, it succeeds exactly if none of its calls failed. Otherwise
it ends with the fault that the first failed call reports, and every call after that one is
clean-up. -/
theorem Command.result_of_first_fault {command : Command} {rig : Rig σ Bus}
    (valid : command.Valid rig.bus)
    (modest : ∀ event ∈ (command.run rig).journal.events, event.Modest) :
    ((∃ reply, (command.run rig).result = .ok reply) ↔
        ∀ event ∈ (command.run rig).journal.events, ∀ fault, ¬ event.Reports fault) ∧
      ∀ before event after fault, (command.run rig).journal.events = before ++ event :: after →
        (∀ earlier ∈ before, ∀ fault, ¬ earlier.Reports fault) → event.Reports fault →
          (command.run rig).result = .error fault ∧ ∀ later ∈ after, later.IsCleanUp := by
  obtain ⟨admitted, reported⟩ :=
    Monitor.Leads.run none rig (Command.leads_firstFault valid) modest
  have unfailed : ∀ event : Event, (∀ fault, ¬ event.Reports fault) ↔ event.fault? = none := by
    intro event
    simp only [← Event.fault?_eq_some, Option.eq_none_iff_forall_ne_some]
  simp only [unfailed]
  constructor
  · rw [← after_eq_none, reported]
    cases (command.run rig).result with
    | ok reply => simp [faultOf]
    | error fault => simp [faultOf]
  · intro before event after fault split clean failed
    have first : firstFault.after none (before ++ [event]) = some fault := by
      rw [Monitor.after_append, (after_eq_none before).mpr clean]
      exact (Event.fault?_eq_some event fault).mpr failed
    rw [split, List.append_cons] at admitted reported
    rw [Monitor.admits_append, first] at admitted
    rw [Monitor.after_append, first, after_fault] at reported
    exact ⟨(faultOf_eq_some _ fault).mp reported.symm, cleanUp_of_admits admitted.2⟩

/-- A bus whose device takes only one byte of a raw write, and whose chip-select line then cannot be
raised again. -/
def stuck : Rig (Bench.Board Unit) Bus where
  devices := (Bench.Board.fresh []).planned
    [⟨.write, 0, .count 1⟩, ⟨.drive .chipSelect .high, 1, .fault .timeout⟩]
  bus := .fresh ⟨⟨0⟩, 16, 500000⟩

/-- The calls that a payload makes there. -/
def stuckCalls : List Event :=
  [.configure (.mode ⟨3⟩) none, .configure (.wordSize 8) none, .drive .strobe .low none,
    .exchange [41] ⟨⟨3⟩, 8, 500000⟩ none, .drive .strobe .high none, .drive .chipSelect .high none,
    .drive .chipSelect .low none, .drive .chipSelect .low none] ++
  .write [7, 8] (.moved 1) ::
  [.drive .chipSelect .high (some .timeout), .configure (.mode ⟨0⟩) none,
    .configure (.wordSize 16) none]

/-- The short write is what the caller hears of, and not the line that failed after it. -/
theorem result_of_short_write :
    (Command.writeModule 5 [7, 8]).Valid stuck.bus ∧
      ((Command.writeModule 5 [7, 8]).run stuck).journal.events = stuckCalls ∧
      (∀ event ∈ stuckCalls, event.Modest) ∧
      ((Command.writeModule 5 [7, 8]).run stuck).result =
        .error (.writeFailed 2 (.shortWrite 1 2)) := by
  have valid : (Command.writeModule 5 [7, 8]).Valid stuck.bus := by
    show (5 : UInt8) ≤ 15
    decide
  have calls : ((Command.writeModule 5 [7, 8]).run stuck).journal.events = stuckCalls := by decide
  have modest : ∀ event ∈ stuckCalls, event.Modest := by
    simp [stuckCalls, Event.Modest]
  have reported := (Command.result_of_first_fault valid (by rw [calls]; exact modest)).2 _ _ _
    (.writeFailed 2 (.shortWrite 1 2)) calls
  refine ⟨valid, calls, modest, (reported ?_ ?_).1⟩
  · simp [Event.Reports]
  · exact .inr ⟨1, rfl, by decide, rfl⟩

end Serial

end SensorCape
