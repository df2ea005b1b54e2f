/-
**What a selection has done.**

A route that was selected leaves its traces: both multiplexer lines have been driven to the bits of
its local channel, and the code that the extension board needs was the last payload on the serial
device. The lines are made outputs before that, but only by a selection that finds them not ready,
and they count as ready only once both have taken it.

* `WroteCode`: the calls of a code that was written in full.
* `Selected`: the calls of a route that was selected; `ran_selectRoute` — **a selection that
  succeeds makes exactly these**, so that none of them failed.
* `selectRoute_ready`: lines that are ready were ready before or were made outputs.
* `transaction_refused`: a call of the selection that fails ends the transaction.
-/

import SensorCape.Proofs.Ran
import SensorCape.Proofs.Register.Tap
import SensorCape.Proofs.Serial.FirstFault
import SensorCape.Proofs.Serial.Strobe

set_option linter.unusedSectionVars false

namespace SensorCape

/-! ### Codes -/

namespace Serial

/-- A setting was written, and taken. -/
def Sets (event : Event) : Prop := ∃ setting, event = .configure setting none

/-- The calls of a code that was written: the bus switches over, the code goes out right after the
frame of its module and is taken in full, and the bus switches back. -/
def WroteCode (address : ModuleAddress) (code : UInt8) (events : List Event) : Prop :=
  ∃ into frame under back,
    events = into ++ writeLead frame under ++
        .write [code] (.moved 1) :: .drive .chipSelect .high none :: back ∧
      Frames frame address.value .write ∧ (∀ event ∈ into, Sets event) ∧ ∀ event ∈ back, Sets event

/-- What holds of the calls that a written code is made of holds of all of them. -/
theorem WroteCode.forall {address : ModuleAddress} {code : UInt8} {events : List Event}
    {kind : Event → Prop} (wrote : WroteCode address code events)
    (sets : ∀ setting, kind (.configure setting none))
    (leads : ∀ frame under, ∀ event ∈ writeLead frame under, kind event)
    (sends : kind (.write [code] (.moved 1))) (raises : kind (.drive .chipSelect .high none)) :
    ∀ event ∈ events, kind event := by
  obtain ⟨into, frame, under, back, rfl, -, entered, left⟩ := wrote
  have switches {calls : List Event} (settings : ∀ event ∈ calls, Sets event) :
      ∀ event ∈ calls, kind event := by
    intro event member
    obtain ⟨setting, rfl⟩ := settings event member
    exact sets setting
  simp only [List.forall_mem_append, List.forall_mem_cons]
  exact ⟨⟨switches entered, leads frame under⟩, sends, raises, switches left⟩

variable {σ α : Type} [Devices σ] {start last : Rig σ Bus} {events : List Event}
  {address : ModuleAddress} {code : UInt8}

theorem ran_emits {body : OnBus σ Bus α} {value : α} {made : List Event}
    (emits : Emits (fun _ _ => True) [] start.bus body made)
    (ran : Ran body start value events last) : events = made ∧ last.bus = start.bus := by
  obtain ⟨result, rfl, rfl⟩ := ran
  have ended := (Monitor.Leads.run [] start emits fun _ _ => trivial).2 value result
  rwa [addressing, Monitor.after_history, List.nil_append, List.nil_append] at ended

theorem ran_switchTo {profile : Profile}
    (ran : Ran (switchTo profile : OnBus σ Bus Unit) start () events last) :
    (∀ event ∈ events, Sets event) ∧ last.bus = start.bus.switched profile := by
  obtain ⟨result, rfl, rfl⟩ := ran
  obtain ⟨settings, ended⟩ := switchTo_settings profile start
  rw [result] at ended
  obtain ⟨unrefused, reached⟩ := ended
  refine ⟨fun event member => ?_, reached⟩
  have written := settings event member
  cases event with
  | configure setting failure => exact ⟨setting, by rw [unrefused setting failure member]⟩
  | _ => cases written

theorem ran_writeRaw {data : List UInt8} {written : Nat}
    (ran : Ran (writeRaw data : OnBus σ Bus Nat) start written events last) :
    events = [.write data (.moved written)] ∧ last.bus = start.bus := by
  obtain ⟨result, rfl, rfl⟩ := ran
  simp only [writeRaw, Action.bind_apply, Rig.call] at result ⊢
  cases answered : (Devices.write data start.devices).1 with
  | refused cause =>
    rw [answered] at result
    cases result
  | moved bytes =>
    rw [answered, checkWritten] at result
    by_cases enough : data.length ≤ bytes
    · rw [if_pos enough] at result
      cases result
      rw [checkWritten, if_pos enough]
      exact ⟨rfl, rfl⟩
    · rw [if_neg enough] at result
      cases result

theorem ran_pushed {data : List UInt8} {written : Nat}
    (ran : Ran (pushed address data : OnBus σ Bus Nat) start written events last) :
    events = writeLead (Frame.byte ⟨address, .write⟩) (start.bus.configuration .secondary) ++
      [.write data (.moved written), .drive .chipSelect .high none] := by
  obtain ⟨_, _, _, _, strobed, selected, rfl⟩ := ran.bind
  obtain ⟨_, _, _, touched, raised, rfl⟩ := selected.ensuring
  obtain ⟨_, _, _, _, high, falling, rfl⟩ := touched.bind
  obtain ⟨_, _, _, _, low, fallen, rfl⟩ := falling.bind
  obtain ⟨_, _, _, _, again, sent, rfl⟩ := fallen.bind
  obtain ⟨rfl, -⟩ := ran_emits (emits_strobed _) strobed
  obtain ⟨rfl, -⟩ := high.drive
  obtain ⟨rfl, -⟩ := low.drive
  obtain ⟨rfl, -⟩ := again.drive
  obtain ⟨rfl, -⟩ := ran_writeRaw sent
  obtain ⟨rfl, -⟩ := raised.drive
  rfl

/-- Only a count of one lets a code pass. -/
theorem ran_codeWritten {written : Nat}
    (ran : Ran (codeWritten code written : OnBus σ Bus Unit) start () events last) :
    written = 1 ∧ events = [] := by
  obtain ⟨result, rfl, -⟩ := ran
  unfold codeWritten at result ⊢
  by_cases one : written = 1
  · exact ⟨one, by rw [if_pos one]; rfl⟩
  · rw [if_neg one] at result
    cases result

/-- **A code that was written went out in full**, and right after its frame. -/
theorem ran_writeCode
    (ran : Ran (writeCode address code : OnBus σ Bus Unit) start () events last) :
    WroteCode address code events := by
  rw [writeCode_eq] at ran
  obtain ⟨written, _, _, _, work, finish, rfl⟩ := ran.bind
  obtain ⟨one, rfl⟩ := ran_codeWritten finish
  obtain ⟨prior, _, _, _, remembered, bracket, rfl⟩ := work.bind
  obtain ⟨_, rfl, _⟩ := remembered.memory
  obtain ⟨_, _, back, inside, returned, rfl⟩ := bracket.ensuring
  obtain ⟨_, into, inner, _, entered, pushed, rfl⟩ := inside.bind
  have calls := ran_pushed pushed
  rw [one] at calls
  refine ⟨into, _, inner.bus.configuration .secondary, back, ?_, frame_frames address .write,
    (ran_switchTo entered).1, (ran_switchTo returned).1⟩
  simp only [calls, List.nil_append, List.append_nil, List.append_assoc, List.cons_append]

end Serial

namespace Register

open Serial (ModuleAddress WroteCode)

variable {σ α : Type} [Devices σ] {start last : Rig σ (Shared Serial.Bus)} {events : List Event}
  {address : ModuleAddress} {route : Route}

/-! ### Selections that succeed -/

/-- The multiplexer lines are made outputs. -/
def outputs : List Event :=
  [.drive .muxLow .output none, .drive .muxHigh .output none]

/-- The multiplexer lines are driven to the local channel of a route. -/
def levels (route : Route) : List Event :=
  [.drive .muxLow (.toLevel route.lowLevel) none, .drive .muxHigh (.toLevel route.highLevel) none]

/-- The calls for the extension board when a route is selected, on a bus that remembers a channel or
none. -/
def Switches (address : ModuleAddress) (route : Route) (routed : Option Serial.ExtensionCode)
    (events : List Event) : Prop :=
  match route.extension with
  | some code => WroteCode address code.value events
  | none => if routed.isSome then WroteCode address Serial.parkedCode events else events = []

/-- The calls of a route that was selected. -/
def Selected (address : ModuleAddress) (route : Route) (bus : Bus) (events : List Event) : Prop :=
  ∃ board, events = (if bus.muxReady then [] else outputs) ++ levels route ++ board ∧
    Switches address route bus.routed board

theorem ran_onSelector {body : OnBus σ Serial.Bus α} {value : α}
    (ran : Ran (onSelector body : OnBoard σ α) start value events last) :
    ∃ inner, Ran body ⟨start.devices, start.bus.selector⟩ value events inner ∧
      last = ⟨inner.devices, { start.bus with selector := inner.bus }⟩ := by
  obtain ⟨result, rfl, rfl⟩ := ran
  exact ⟨_, Ran.of_ok result, rfl⟩

theorem ran_readyMux (ran : Ran (readyMux : OnBoard σ Unit) start () events last) :
    events = (if start.bus.register.muxReady then [] else outputs) ∧
      last.bus = { start.bus with register := { start.bus.register with muxReady := true } } := by
  obtain ⟨shared, _, _, _, remembered, rest, rfl⟩ := ran.bind
  obtain ⟨rfl, rfl, rfl⟩ := remembered.memory
  by_cases ready : start.bus.register.muxReady = true
  · rw [if_pos ready] at rest ⊢
    obtain ⟨-, rfl, rfl⟩ := rest.pure
    refine ⟨rfl, ?_⟩
    rw [← ready]
  · rw [if_neg ready] at rest ⊢
    obtain ⟨_, _, _, _, low, others, rfl⟩ := rest.bind
    obtain ⟨_, _, _, _, high, set, rfl⟩ := others.bind
    obtain ⟨rfl, same⟩ := low.drive
    obtain ⟨rfl, also⟩ := high.drive
    obtain ⟨rfl, rfl⟩ := set.remember
    exact ⟨rfl, by rw [also, same]⟩

theorem ran_setMux (ran : Ran (setMux route : OnBoard σ Unit) start () events last) :
    events = (if start.bus.register.muxReady then [] else outputs) ++ levels route ∧
      last.bus = { start.bus with register := { start.bus.register with muxReady := true } } := by
  obtain ⟨_, _, _, _, readied, rest, rfl⟩ := ran.bind
  obtain ⟨_, _, _, _, low, high, rfl⟩ := rest.bind
  obtain ⟨rfl, ready⟩ := ran_readyMux readied
  obtain ⟨rfl, same⟩ := low.drive
  obtain ⟨rfl, also⟩ := high.drive
  exact ⟨rfl, by rw [also, same, ready]⟩

theorem ran_park (configured : start.bus.selector.extension = some address)
    (ran : Ran (park (some .serial) : OnBoard σ Unit) start () events last) :
    WroteCode address Serial.parkedCode events := by
  obtain ⟨_, _, _, _, parked, set, rfl⟩ := ran.bind
  obtain ⟨rfl, -⟩ := set.remember
  obtain ⟨inner, wrote, -⟩ := ran_onSelector parked
  rw [List.append_nil]
  exact Serial.ran_writeCode (wrote.congr (Serial.parkExtension_configured configured))

theorem ran_setBoard (configured : start.bus.selector.extension = some address)
    (ran : Ran (setBoard (some .serial) route.extension : OnBoard σ Unit) start () events last) :
    Switches address route start.bus.register.routed events := by
  unfold Switches
  unfold setBoard at ran
  cases extension : route.extension with
  | some code =>
    rw [extension] at ran
    obtain ⟨_, _, _, _, routed, set, rfl⟩ := ran.bind
    obtain ⟨rfl, -⟩ := set.remember
    obtain ⟨inner, wrote, -⟩ := ran_onSelector routed
    rw [List.append_nil]
    exact Serial.ran_writeCode (wrote.congr (Serial.routeExtension_configured configured))
  | none =>
    rw [extension] at ran
    obtain ⟨shared, _, _, _, remembered, rest, rfl⟩ := ran.bind
    obtain ⟨rfl, rfl, rfl⟩ := remembered.memory
    by_cases chained : start.bus.register.routed.isSome = true
    · simp only [chained, if_true, List.nil_append] at rest ⊢
      exact ran_park configured rest
    · simp only [chained, Bool.false_eq_true, if_false] at rest ⊢
      exact rest.pure.2.1

/-- **A selection that succeeds has driven the lines and switched the board.** -/
theorem ran_selectRoute (configured : start.bus.selector.extension = some address)
    (ran : Ran (selectRoute (some .serial) route : OnBoard σ Unit) start () events last) :
    Selected address route start.bus.register events := by
  obtain ⟨_, _, middle, board, muxed, switched, rfl⟩ := ran.bind
  obtain ⟨rfl, same⟩ := ran_setMux muxed
  have still : middle.bus.selector.extension = some address := by rw [same]; exact configured
  have switches := ran_setBoard still switched
  rw [same] at switches
  exact ⟨board, rfl, switches⟩

/-! ### What a selected route looks like -/

section Selected

variable {bus : Bus}

/-- A board that was switched, or left alone, has no failed calls and none on the multiplexer. -/
theorem Switches.forall {kind : Event → Prop} {routed : Option Serial.ExtensionCode}
    (switches : Switches address route routed events)
    (wrote : ∀ code, WroteCode address code events → ∀ event ∈ events, kind event) :
    ∀ event ∈ events, kind event := by
  unfold Switches at switches
  cases extension : route.extension with
  | some code =>
    rw [extension] at switches
    exact wrote _ switches
  | none =>
    rw [extension] at switches
    by_cases chained : routed.isSome = true
    · rw [if_pos chained] at switches
      exact wrote _ switches
    · rw [if_neg chained] at switches
      rw [switches]
      exact fun _ member => absurd member List.not_mem_nil

/-- **No call of a selection that succeeded failed.** -/
theorem Selected.unfailed (selected : Selected address route bus events) :
    ∀ event ∈ events, event.fault? = none := by
  obtain ⟨board, rfl, switches⟩ := selected
  have switched : ∀ event ∈ board, event.fault? = none :=
    switches.forall fun code wrote => wrote.forall (fun _ => rfl)
      (by simp [Serial.writeLead, Event.fault?]) rfl rfl
  simp only [List.forall_mem_append]
  refine ⟨⟨?_, by simp [levels, Event.fault?]⟩, switched⟩
  split
  · exact fun _ member => absurd member List.not_mem_nil
  · simp [outputs, Event.fault?]

theorem Switches.untouched {routed : Option Serial.ExtensionCode}
    (switches : Switches address route routed events) :
    latest .muxLow events = none ∧ latest .muxHigh events = none := by
  have elsewhere : ∀ event ∈ events, ∀ how failure,
      event ≠ .drive .muxLow how failure ∧ event ≠ .drive .muxHigh how failure :=
    switches.forall fun code wrote => wrote.forall (by simp) (by simp [Serial.writeLead])
      (by simp) (by simp)
  exact ⟨latest_eq_none fun how failure member => (elsewhere _ member how failure).1 rfl,
    latest_eq_none fun how failure member => (elsewhere _ member how failure).2 rfl⟩

/-- The select lines of a route are the two bits of its local channel. -/
theorem Route.level_bits (route : Route) :
    route.lowLevel = .ofBool (route.channel.toNat.testBit 0) ∧
      route.highLevel = .ofBool (route.channel.toNat.testBit 1) := by
  obtain ⟨channel, inRange, extension⟩ := route
  have all : ∀ number : Fin 256,
      (UInt8.ofNat number &&& 1 != 0) = (UInt8.ofNat number).toNat.testBit 0 ∧
        (UInt8.ofNat number &&& 2 != 0) = (UInt8.ofNat number).toNat.testBit 1 := by decide +kernel
  obtain ⟨low, high⟩ := all ⟨channel.toNat, channel.toNat_lt⟩
  rw [UInt8.ofNat_toNat] at low high
  exact ⟨congrArg Level.ofBool low, congrArg Level.ofBool high⟩

/-- The multiplexer stands at the local channel of a route: both lines are outputs, and the latest
call on each has driven it to its bit of the channel. -/
structure MuxAt (route : Route) (events : List Event) : Prop where
  outputs : ∀ event ∈ outputs, event ∈ events
  low : latest .muxLow events = some (.toLevel (.ofBool (route.channel.toNat.testBit 0)))
  high : latest .muxHigh events = some (.toLevel (.ofBool (route.channel.toNat.testBit 1)))

/-- **A route that was selected has the multiplexer stand at its local channel.** -/
theorem Selected.muxAt {past : List Event} (selected : Selected address route bus events)
    (ready : bus.muxReady = true → ∀ event ∈ outputs, event ∈ past) :
    MuxAt route (past ++ events) := by
  obtain ⟨board, rfl, switches⟩ := selected
  obtain ⟨low, high⟩ := switches.untouched
  obtain ⟨lowBit, highBit⟩ := route.level_bits
  have drivenLow : latest .muxLow (levels route) = some (.toLevel route.lowLevel) := rfl
  have drivenHigh : latest .muxHigh (levels route) = some (.toLevel route.highLevel) := rfl
  refine ⟨?_, ?_, ?_⟩
  · intro event member
    by_cases already : bus.muxReady = true
    · exact List.mem_append_left _ (ready already event member)
    · simp only [already, Bool.false_eq_true, if_false, List.mem_append]
      exact .inr (.inl (.inl member))
  · rw [← List.append_assoc, ← List.append_assoc, latest_append, low, latest_append, drivenLow,
      lowBit, Option.none_or, Option.some_or]
  · rw [← List.append_assoc, ← List.append_assoc, latest_append, high, latest_append, drivenHigh,
      highBit, Option.none_or, Option.some_or]

/-- The last payload on the serial device is one byte for a module, right after a write frame for
it, and taken in full. -/
def LastPayload (address : ModuleAddress) (code : UInt8) (events : List Event) : Prop :=
  ∃ before frame under after,
    events = before ++ Serial.writeLead frame under ++ .write [code] (.moved 1) :: after ∧
      Serial.Frames frame address.value .write ∧ ∀ event ∈ after, ¬ Serial.IsRaw event

/-- **The code of a route that was selected is the last payload.** -/
theorem Selected.lastPayload {code : Serial.ExtensionCode} {past : List Event}
    (selected : Selected address route bus events) (extension : route.extension = some code) :
    LastPayload address code.value (past ++ events) := by
  obtain ⟨board, rfl, switches⟩ := selected
  unfold Switches at switches
  rw [extension] at switches
  obtain ⟨into, frame, under, back, rfl, frames, -, left⟩ := switches
  refine ⟨past ++ ((if bus.muxReady then [] else outputs) ++ levels route ++ into), frame, under,
    .drive .chipSelect .high none :: back, ?_, frames, ?_⟩
  · simp only [List.append_assoc]
  · refine List.forall_mem_cons.mpr ⟨id, fun event member => ?_⟩
    obtain ⟨setting, rfl⟩ := left event member
    exact id

end Selected

/-! ### What actions keep -/

section Keeping

variable {τ γ β : Type} {view : τ → γ}

/-- An action keeps what a view shows of the bus, however it ends. -/
def Keeps (view : τ → γ) (body : OnBus σ τ α) : Prop :=
  ∀ rig, view (body rig).state.bus = view rig.bus

theorem keeps_of_steady {body : OnBus σ τ α} (steady : Steady body) : Keeps view body :=
  fun rig => congrArg view (steady rig)

theorem keeps_remember {change : τ → τ} (same : ∀ bus, view (change bus) = view bus) :
    Keeps view (Rig.remember change : OnBus σ τ Unit) := fun rig => same rig.bus

/-- Parts that come later keep what the first part left, and its calls come first. -/
theorem keeps_after (view : τ → γ) {first : OnBus σ τ α} {next : α → OnBus σ τ β}
    (keeps : ∀ value, Keeps view (next value)) (rig : Rig σ τ) :
    view ((first >>= next) rig).state.bus = view (first rig).state.bus ∧
      (first rig).journal.events <+: ((first >>= next) rig).journal.events := by
  rw [Action.bind_apply]
  cases (first rig).result with
  | error fault => exact ⟨rfl, List.prefix_rfl⟩
  | ok value => exact ⟨keeps value _, List.prefix_append _ _⟩

theorem keeps_bind {first : OnBus σ τ α} {next : α → OnBus σ τ β} (keeps : Keeps view first)
    (follow : ∀ value, Keeps view (next value)) : Keeps view (first >>= next) :=
  fun rig => (keeps_after view follow rig).1.trans (keeps rig)

end Keeping

/-! ### Lines that are ready -/

theorem keeps_muxReady_park :
    Keeps (·.register.muxReady) (park (some .serial) : OnBoard σ Unit) :=
  keeps_bind (fun _ => rfl) fun _ => keeps_remember fun _ => rfl

theorem keeps_muxReady_setBoard :
    ∀ extension, Keeps (·.register.muxReady) (setBoard (some .serial) extension : OnBoard σ Unit)
  | some _ => keeps_bind (fun _ => rfl) fun _ => keeps_remember fun _ => rfl
  | none => by
    refine keeps_bind (fun _ => rfl) fun shared => ?_
    split
    · exact keeps_muxReady_park
    · exact fun _ => rfl

/-- The flag is raised only after both lines have become outputs. -/
theorem readyMux_ready {rig : Rig σ (Shared Serial.Bus)}
    (ready : (readyMux rig).state.bus.register.muxReady = true) :
    rig.bus.register.muxReady = true ∨ (readyMux rig).journal.events = outputs := by
  have leads : (Monitor.history fun _ _ => True).Leads [] rig.bus (readyMux : OnBoard σ Unit)
      fun _ past last => last.register.muxReady = true →
        rig.bus.register.muxReady = true ∨ past = outputs := by
    refine Monitor.leads_bind (Monitor.leads_memory ?_)
    by_cases already : rig.bus.register.muxReady = true
    · simp only [already, if_true]
      exact Monitor.leads_pure fun _ => .inl trivial
    · simp only [already, Bool.false_eq_true, if_false]
      refine Monitor.leads_bind (Monitor.leads_drive (fun _ => ⟨trivial, ?_⟩)
        fun _ _ => ⟨trivial, fun set => absurd set already⟩)
      refine Monitor.leads_bind (Monitor.leads_drive (fun _ => ⟨trivial, ?_⟩)
        fun _ _ => ⟨trivial, fun set => absurd set already⟩)
      exact Monitor.leads_remember fun _ => .inr rfl
  have ended := (Monitor.Leads.run [] rig leads fun _ _ => trivial).2 ready
  rwa [Monitor.after_history, List.nil_append] at ended

/-- **Lines that are ready after a selection were ready before, or it has made them outputs**,
however it ended. -/
theorem selectRoute_ready {rig : Rig σ (Shared Serial.Bus)}
    (ready : (selectRoute (some .serial) route rig).state.bus.register.muxReady = true) :
    rig.bus.register.muxReady = true ∨
      ∀ event ∈ outputs, event ∈ (selectRoute (some .serial) route rig).journal.events := by
  have selected : (selectRoute (some .serial) route rig).state.bus.register.muxReady =
      (setMux route rig).state.bus.register.muxReady ∧ (setMux route rig).journal.events <+:
        (selectRoute (some .serial) route rig).journal.events :=
    keeps_after (·.register.muxReady) (fun _ => keeps_muxReady_setBoard route.extension) rig
  have muxed : (setMux route rig).state.bus.register.muxReady =
      (readyMux rig).state.bus.register.muxReady ∧
        (readyMux rig).journal.events <+: (setMux route rig).journal.events :=
    keeps_after (·.register.muxReady) (fun _ => keeps_bind (keeps_of_steady (steady_drive _ _))
      fun _ => keeps_of_steady (steady_drive _ _)) rig
  rcases readyMux_ready ((selected.1.trans muxed.1).symm.trans ready) with already | made
  · exact .inl already
  · refine .inr fun event member => (muxed.2.trans selected.2).subset ?_
    rw [made]
    exact member

/-! ### The two-wire bus -/

section TwoWire

variable {β : Type}

/-- A call on a target of the register bus. -/
def IsTwoWire : Event → Prop
  | .openTarget _ _ | .writeTarget _ _ _ | .readTarget _ _ _ => True
  | _ => False

/-- An action makes no call on a target. -/
abbrev OffWire {τ : Type} (body : OnBus σ τ α) : Prop :=
  Serial.Makes (fun event => ¬ IsTwoWire event) body

theorem offWire_quiet {τ : Type} {body : OnBus σ τ α}
    (quiet : ∀ rig, (body rig).journal.events = []) : OffWire body := Serial.comprises_quiet quiet

theorem offWire_bind {τ : Type} {first : OnBus σ τ α} {next : α → OnBus σ τ β}
    (off : OffWire first) (follow : ∀ value, OffWire (next value)) : OffWire (first >>= next) :=
  Serial.comprises_bind off follow

theorem offWire_drive {τ : Type} (line : Line) (how : Drive) :
    OffWire (Rig.drive line how : OnBus σ τ Unit) := by
  refine Serial.makes_iff.mpr fun rig event member => ?_
  obtain ⟨failure, made, -⟩ := Serial.drive_calls line how rig
  rw [made] at member
  rw [List.mem_singleton.mp member]
  exact id

theorem offWire_onSelector {body : OnBus σ Serial.Bus α} (off : OffWire body) :
    OffWire (onSelector body : OnBoard σ α) := fun rig => off ⟨rig.devices, rig.bus.selector⟩

/-- **Nothing that is done on the serial bus touches a target.** -/
theorem offWire_work (work : Serial.Work) : OffWire (work.run : OnBus σ Serial.Bus work.Yield) := by
  have phrases : Serial.Comprises Serial.Phrase.calls (fun _ => True)
      (work.run : OnBus σ Serial.Bus work.Yield) :=
    Serial.comprises_withProfile (fun _ _ => trivial) work.profile
      (Serial.comprises_mono work.phrases fun _ _ => trivial)
  refine phrases.makes fun phrase _ event member => ?_
  cases phrase with
  | selected touches raised =>
    rcases Serial.Phrase.mem_selected member with ⟨touch, rfl⟩ | rfl
    · cases touch <;> exact id
    · exact id
  | setting written failure => rw [List.mem_singleton.mp member]; exact id
  | plain sent under failure => rw [List.mem_singleton.mp member]; exact id
  | unframed fault => rw [List.mem_singleton.mp member]; exact id
  | framed sent under failure raised =>
    have each : ∀ event ∈ (Serial.Phrase.framed sent under failure raised).calls,
        ¬ IsTwoWire event := by simp [Serial.Phrase.calls, IsTwoWire]
    exact each event member

theorem offWire_writeCode (code : UInt8) :
    OffWire (Serial.writeCode address code : OnBus σ Serial.Bus Unit) := by
  rw [Serial.writeCode_eq]
  refine offWire_bind (offWire_work _) fun written => offWire_quiet fun rig => ?_
  unfold Serial.codeWritten
  split <;> rfl

theorem offWire_park : OffWire (park (some .serial) : OnBoard σ Unit) := by
  refine offWire_bind (offWire_onSelector ?_) fun _ => offWire_quiet fun _ => rfl
  refine offWire_bind (offWire_quiet fun _ => rfl) fun bus => ?_
  split
  · exact offWire_writeCode _
  · exact offWire_quiet fun _ => rfl

theorem offWire_setBoard :
    ∀ extension, OffWire (setBoard (some .serial) extension : OnBoard σ Unit)
  | some code => by
    refine offWire_bind (offWire_onSelector ?_) fun _ => offWire_quiet fun _ => rfl
    refine offWire_bind (offWire_quiet fun _ => rfl) fun bus => ?_
    split
    · exact offWire_writeCode _
    · exact offWire_quiet fun _ => rfl
  | none => by
    refine offWire_bind (offWire_quiet fun _ => rfl) fun shared => ?_
    split
    · exact offWire_park
    · exact offWire_quiet fun _ => rfl

theorem offWire_setMux (route : Route) : OffWire (setMux route : OnBoard σ Unit) := by
  refine offWire_bind (offWire_bind (offWire_quiet fun _ => rfl) fun shared => ?_) fun _ =>
    offWire_bind (offWire_drive _ _) fun _ => offWire_drive _ _
  split
  · exact offWire_quiet fun _ => rfl
  · exact offWire_bind (offWire_drive _ _) fun _ => offWire_bind (offWire_drive _ _) fun _ =>
      offWire_quiet fun _ => rfl

/-- **Selecting a route touches no target**, however it ends. -/
theorem offWire_selectRoute (route : Route) :
    OffWire (selectRoute (some .serial) route : OnBoard σ Unit) :=
  offWire_bind (offWire_setMux route) fun _ => offWire_setBoard route.extension

/-- Once its route is selected, a transaction goes on with its work. -/
theorem transaction_begun {rig : Rig σ (Shared Serial.Bus)}
    (selected : (selectRoute (some .serial) route rig).result = .ok ()) (work : OnBoard σ α) :
    transaction (some .serial) route work rig =
      let selection := selectRoute (some .serial) route rig
      ⟨(work selection.state).result, selection.journal ++ (work selection.state).journal,
        (work selection.state).state⟩ := by
  rw [transaction, Action.bind_apply, selected]

/-- **A call of the selection that fails ends the transaction:** it reports a fault, the work is not
begun, and no target is touched. -/
theorem transaction_refused {rig : Rig σ (Shared Serial.Bus)}
    (configured : rig.bus.selector.extension = some address) {event : Event} {fault : Fault}
    (made : event ∈ (selectRoute (some .serial) route rig).journal.events)
    (failed : event.Reports fault) (work : OnBoard σ α) :
    (∃ reported, transaction (some .serial) route work rig =
        ⟨.error reported, (selectRoute (some .serial) route rig).journal,
          (selectRoute (some .serial) route rig).state⟩) ∧
      ∀ event ∈ (transaction (some .serial) route work rig).journal.events, ¬ IsTwoWire event := by
  have refused : ∃ reported, (selectRoute (some .serial) route rig).result = .error reported := by
    cases ended : (selectRoute (some .serial) route rig).result with
    | error reported => exact ⟨reported, rfl⟩
    | ok done =>
      have unfailed := (ran_selectRoute configured (Ran.of_ok ended)).unfailed event made
      rw [(Event.fault?_eq_some event fault).mpr failed] at unfailed
      cases unfailed
  obtain ⟨reported, refused⟩ := refused
  have same : transaction (some .serial) route work rig =
      ⟨.error reported, (selectRoute (some .serial) route rig).journal,
        (selectRoute (some .serial) route rig).state⟩ := by
    rw [transaction, Action.bind_apply, refused]
  refine ⟨⟨reported, same⟩, ?_⟩
  rw [same]
  exact Serial.makes_iff.mp (offWire_selectRoute route) rig

end TwoWire

end Register

end SensorCape
