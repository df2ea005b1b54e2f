/-
**One cycle of a register sensor.**

A cycle is a read on the sensor's route and then, if the route uses the extension board, parking it.
The read can fail at any of its calls, the parking as well, and each is carried out whatever became
of the other. Bytes that were read are published before the outcome of the parking is looked at, and
a fault of the read comes first.

* `poll_apply`: a cycle in terms of its read and its parking.
* `Silent`: a selector publishes nothing; neither of the two selectors does.
* `poll_is_exact`: **what a cycle publishes, asks of the selector, logs and returns**, whichever of
  the calls fail.
-/

import SensorCape.Proofs.Register.Parking
import SensorCape.Proofs.Register.Recorded
import SensorCape.Proofs.Serial.Built

set_option linter.unusedSectionVars false

namespace SensorCape.Register

open Poll (RegisterSensor)
open Serial (Built ExtensionCode ModuleAddress)

variable {σ τ α β : Type} [Devices σ]

/-! ### Actions that publish nothing -/

/-- An action publishes no samples. -/
def Mute (body : OnBus σ τ α) : Prop := ∀ rig, (body rig).journal.samples = []

section Mute

theorem mute_ofExcept (result : Except Fault α) :
    Mute (Action.ofExcept result : OnBus σ τ α) := by
  cases result with
  | ok value => exact fun _ => rfl
  | error fault => exact fun _ => rfl

theorem mute_bind {first : OnBus σ τ α} {next : α → OnBus σ τ β} (mute : Mute first)
    (follow : ∀ value, Mute (next value)) : Mute (first >>= next) := by
  intro rig
  rw [Action.bind_apply]
  cases (first rig).result with
  | error fault => exact mute rig
  | ok value => rw [Journal.samples_append, mute rig, follow value, List.append_nil]

theorem mute_ensuring {body : OnBus σ τ α} {cleanup : OnBus σ τ Unit} (mute : Mute body)
    (follow : Mute cleanup) : Mute (Action.ensuring body cleanup) := by
  intro rig
  show ((body rig).journal ++ (cleanup (body rig).state).journal).samples = []
  rw [Journal.samples_append, mute rig, follow, List.append_nil]

theorem mute_command {ρ : Type} (ask : σ → ρ × σ) (event : ρ → Event) :
    Mute (Rig.command ask event : OnBus σ τ Unit) := by
  refine mute_bind (fun _ => rfl) fun answer => ?_
  cases (event answer).fault? with
  | none => exact fun _ => rfl
  | some fault => exact fun _ => rfl

theorem mute_settleAll (settings : List Serial.Setting) :
    Mute (Serial.settleAll settings : OnBus σ Serial.Bus Unit) := by
  induction settings with
  | nil => exact fun _ => rfl
  | cons setting rest ih =>
    refine mute_bind (mute_bind (fun _ => rfl) fun bus => ?_) fun _ => ih
    split
    · exact fun _ => rfl
    · exact mute_bind (mute_command _ _) fun _ _ => rfl

theorem mute_switchTo (profile : Serial.Profile) :
    Mute (Serial.switchTo profile : OnBus σ Serial.Bus Unit) := by
  refine mute_bind (fun _ => rfl) fun bus => mute_bind (mute_settleAll _) fun _ =>
    mute_bind (fun _ => rfl) fun bus => ?_
  split
  · exact fun _ => rfl
  · exact mute_bind (fun _ => rfl) fun _ _ => rfl

/-- **Nothing that is built from the moves of the serial bus publishes anything.** -/
theorem mute_built {may : Fault → Prop} {body : OnBus σ Serial.Bus α} (built : Built may body) :
    Mute body := by
  induction built with
  | switchTo profile => exact mute_switchTo profile
  | drive line how => exact mute_command _ _
  | exchange sent profile =>
    refine mute_bind (fun _ => rfl) fun bus => mute_bind (fun _ => rfl) fun answer => ?_
    cases answer with
    | ok received => exact fun _ => rfl
    | error cause => exact fun _ => rfl
  | writeRaw data => exact mute_bind (fun _ => rfl) fun _ => mute_ofExcept _
  | readRaw length =>
    exact mute_bind (fun _ => rfl) fun _ => mute_bind (mute_ofExcept _) fun _ _ => rfl
  | bind _ _ headIh restIh => exact mute_bind headIh restIh
  | ensuring _ _ innerIh afterIh => exact mute_ensuring innerIh afterIh
  | _ => exact fun _ => rfl

theorem mute_send (address : TargetAddress) (data : List UInt8) :
    Mute (send address data : OnBus σ τ Unit) :=
  mute_bind (fun _ => rfl) fun _ => mute_bind (mute_ofExcept _) fun _ _ => rfl

theorem mute_read (handle : Handle) (register : UInt8) (length : Nat) :
    Mute (handle.read register length : OnBus σ τ (List UInt8)) := by
  refine mute_bind ?_ fun _ => mute_bind (fun _ => rfl) fun _ =>
    mute_bind (mute_ofExcept _) fun _ _ => rfl
  unfold Handle.point
  cases handle.framing with
  | register => exact mute_send handle.address [register]
  | bare => exact fun _ => rfl

end Mute

/-! ### Selectors that publish nothing -/

/-- Neither routing nor parking publishes anything. -/
structure Selector.Silent (board : Selector σ τ) : Prop where
  route : ∀ code, Mute (board.route code)
  park : Mute board.park

theorem silent_standAlone : (Selector.standAlone : Selector σ τ).Silent :=
  ⟨fun _ => mute_command _ _, mute_command _ _⟩

theorem silent_serial : (Selector.serial : Selector σ Serial.Bus).Silent := by
  have writes (selector : ModuleAddress) (code : UInt8) :
      Mute (Serial.writeCode selector code : OnBus σ Serial.Bus Unit) :=
    mute_built (Serial.built_writeCode trivial selector code : Built (fun _ => True) _)
  constructor
  · refine fun code => mute_bind (fun _ => rfl) fun bus => ?_
    cases bus.extension with
    | some selector => exact writes selector code.value
    | none => exact fun _ => rfl
  · refine mute_bind (fun _ => rfl) fun bus => ?_
    cases bus.extension with
    | some selector => exact writes selector Serial.parkedCode
    | none => exact fun _ => rfl

section Silent

variable {board : Selector σ τ}

theorem mute_park (silent : board.Silent) : Mute (park (some board)) :=
  mute_bind (fun rig => silent.park ⟨rig.devices, rig.bus.selector⟩) fun _ _ => rfl

theorem mute_selectRoute (silent : board.Silent) (route : Route) :
    Mute (selectRoute (some board) route) := by
  refine mute_bind (mute_bind (mute_bind (fun _ => rfl) fun shared => ?_) fun _ =>
    mute_bind (mute_command _ _) fun _ => mute_command _ _) fun _ => ?_
  · split
    · exact fun _ => rfl
    · exact mute_bind (mute_command _ _) fun _ => mute_bind (mute_command _ _) fun _ _ => rfl
  · cases route.extension with
    | some code =>
      exact mute_bind (fun rig => silent.route code ⟨rig.devices, rig.bus.selector⟩) fun _ _ => rfl
    | none =>
      refine mute_bind (fun _ => rfl) fun shared => ?_
      split
      · exact mute_park silent
      · exact fun _ => rfl

end Silent

/-! ### The parts of a cycle -/

section Parts

variable {board : Selector σ τ} {sensor : RegisterSensor}

/-- Leaving the route of a sensor with a channel of the board is parking. -/
theorem leave_chained (selector : Option (Selector σ τ))
    (chained : sensor.route.extension.isSome = true) : sensor.leave selector = park selector :=
  if_pos chained

theorem leave_local (selector : Option (Selector σ τ))
    (plain : ¬ sensor.route.extension.isSome = true) : sensor.leave selector = pure () :=
  if_neg plain

theorem mute_probe (silent : board.Silent) : Mute (sensor.probe (some board)) :=
  mute_bind (mute_selectRoute silent sensor.route) fun _ => mute_read _ _ _

theorem mute_leave (silent : board.Silent) : Mute (sensor.leave (some board)) := by
  by_cases chained : sensor.route.extension.isSome = true
  · rw [leave_chained _ chained]
    exact mute_park silent
  · rw [leave_local _ chained]
    exact fun _ => rfl

theorem mirrors_probe : Mirrors (sensor.probe (some board.recorded)) (sensor.probe (some board)) :=
  mirrors_transaction sensor.route (mirrors_read _ _ _)

theorem mirrors_leave :
    Mirrors (sensor.leave (some board.recorded)) (sensor.leave (some board)) := by
  by_cases chained : sensor.route.extension.isSome = true
  · rw [leave_chained _ chained, leave_chained _ chained]
    exact mirrors_park board
  · rw [leave_local _ chained, leave_local _ chained]
    exact mirrors_pure ()

/-- **A cycle does not depend on the record.** -/
theorem mirrors_poll : Mirrors (sensor.poll (some board.recorded)) (sensor.poll (some board)) := by
  refine mirrors_bind (mirrors_attempt mirrors_probe) fun data =>
    mirrors_bind (mirrors_attempt mirrors_leave) fun parked => ?_
  cases data with
  | ok bytes => exact mirrors_bind (fun _ => rfl) fun _ => mirrors_ofExcept parked
  | error fault =>
    cases parked with
    | ok done => exact mirrors_bind (mirrors_pure ()) fun _ => mirrors_fail fault
    | error second => exact mirrors_bind (fun _ => rfl) fun _ => mirrors_fail fault

/-- Reading the register asks for nothing more than selecting the route. -/
theorem recorded_probe (rig : Rig σ (Shared (τ × List Asked))) :
    record (sensor.probe (some board.recorded) rig).state.bus =
      record (selectRoute (some board.recorded) sensor.route rig).state.bus :=
  (keeps_after record (fun _ => keeps_of_steady (steady_read _ _ _)) rig).1

end Parts

/-! ### Cycles -/

/-- A cycle of a sensor, on a bus with an extension board. -/
structure Cycle (σ τ : Type) [Devices σ] where
  board : Selector σ τ
  sensor : RegisterSensor
  start : Rig σ (Shared τ)

namespace Cycle

variable (cycle : Cycle σ τ)

/-- What becomes of the cycle. -/
def outcome : Outcome Event (Rig σ (Shared τ)) Unit :=
  cycle.sensor.poll (some cycle.board) cycle.start

/-- The transaction: the route is selected and the register read. -/
def transaction : Outcome Event (Rig σ (Shared τ)) (List UInt8) :=
  cycle.sensor.probe (some cycle.board) cycle.start

/-- The selection that the transaction begins with. -/
def selection : Outcome Event (Rig σ (Shared τ)) Unit :=
  selectRoute (some cycle.board) cycle.sensor.route cycle.start

/-- What follows the transaction. -/
def parking : Outcome Event (Rig σ (Shared τ)) Unit :=
  cycle.sensor.leave (some cycle.board) cycle.transaction.state

/-- What the cycle asks of the selector. -/
def asked : List Asked :=
  Register.asked (cycle.sensor.poll (some cycle.board.recorded)) cycle.start

/-- What its transaction asks of the selector. -/
def askedBefore : List Asked :=
  Register.asked (cycle.sensor.probe (some cycle.board.recorded)) cycle.start

/-- The sensor has a channel of the extension board. -/
def Chained : Prop := cycle.sensor.route.extension.isSome = true

instance : Decidable cycle.Chained := inferInstanceAs (Decidable (_ = true))

/-- What the sensor's target answers, once its route is selected. -/
def filling : Filling :=
  cycle.sensor.handle.filling cycle.sensor.register cycle.sensor.length
    cycle.selection.state.devices

/-- The route is selected, and the target takes the register's address, if that goes out, and fills
the buffer. -/
def Answered : Prop :=
  cycle.selection.result = .ok () ∧
    cycle.sensor.handle.Full cycle.sensor.register cycle.sensor.length
      cycle.selection.state.devices

/-- What a cycle publishes, asks for, logs and returns, whichever of its calls fail. -/
structure Exact : Prop where
  calls : cycle.outcome.journal.events =
    cycle.transaction.journal.events ++ cycle.parking.journal.events
  samples : cycle.outcome.journal.samples = cycle.sensor.samples cycle.transaction.result
  reads : ∀ bytes, cycle.transaction.result = .ok bytes ↔
    cycle.Answered ∧ bytes = buffered cycle.sensor.length cycle.filling.bytes
  /-- What a truthful target leaves in the buffer is all its own. -/
  own : Truthful σ cycle.sensor.handle.address.value → cycle.Answered →
    buffered cycle.sensor.length cycle.filling.bytes =
      cycle.filling.bytes.take cycle.sensor.length
  /-- Asking a selector with a record makes no difference. -/
  recorded : Mirrors (cycle.sensor.poll (some cycle.board.recorded))
    (cycle.sensor.poll (some cycle.board))
  asks : cycle.asked = cycle.askedBefore ++
    if cycle.Chained then [⟨.park, cycle.parking.result.isOk⟩] else []
  unparked : cycle.Chained → ∀ entry ∈ cycle.askedBefore, entry.ask ≠ .park
  /-- A local route parks a channel that the bus remembers, and that is part of its selection. -/
  replaces : ¬ cycle.Chained → cycle.askedBefore = [] ∨
    cycle.start.bus.register.routed.isSome ∧
      cycle.askedBefore = [⟨.park, cycle.selection.result.isOk⟩]
  result : cycle.outcome.result =
    match cycle.transaction.result with
    | .ok _ => cycle.parking.result
    | .error fault => .error fault
  log : cycle.outcome.journal.log = cycle.transaction.journal.log ++ cycle.parking.journal.log ++
    cycle.sensor.warnings cycle.transaction.result cycle.parking.result
  parked : cycle.Chained → cycle.outcome.result = .ok () →
    cycle.outcome.state.bus.register.routed = none ∧
      (acceptedCodes cycle.asked).getLast? = some Serial.parkedCode

variable {cycle}

theorem outcome_eq : cycle.outcome =
    ⟨Action.settled (cycle.transaction.result.map fun _ => ()) cycle.parking.result,
      cycle.transaction.journal ++ cycle.parking.journal ++
        ⟨[], cycle.sensor.warnings cycle.transaction.result cycle.parking.result,
          cycle.sensor.samples cycle.transaction.result⟩,
      cycle.parking.state⟩ := cycle.sensor.poll_apply (some cycle.board) cycle.start

theorem parking_eq (chained : cycle.Chained) :
    cycle.parking = park (some cycle.board) cycle.transaction.state := by
  show cycle.sensor.leave (some cycle.board) cycle.transaction.state = _
  rw [leave_chained _ chained]

theorem transaction_ok_iff (bytes : List UInt8) : cycle.transaction.result = .ok bytes ↔
    cycle.Answered ∧ bytes = buffered cycle.sensor.length cycle.filling.bytes := by
  have applied : cycle.transaction = _ := Action.bind_apply _ _ cycle.start
  rw [applied]
  unfold Answered filling selection
  cases (selectRoute (some cycle.board) cycle.sensor.route cycle.start).result with
  | error fault => simp
  | ok done =>
    simp only [true_and]
    exact Handle.read_ok_iff

/-- **After the transaction the selector is asked to park, once, exactly if the sensor has a channel
of the board.** -/
theorem asked_eq : cycle.asked = cycle.askedBefore ++
    if cycle.Chained then [⟨.park, cycle.parking.result.isOk⟩] else [] := by
  have before : cycle.transaction = _ := mirrors_probe (unrecorded cycle.start)
  unfold asked askedBefore Register.asked
  rw [RegisterSensor.poll_apply]
  by_cases chained : cycle.Chained
  · rw [if_pos chained, parking_eq chained, before, leave_chained _ chained, mirrors_park]
    exact recorded_park _ cycle.board
  · rw [if_neg chained, leave_local _ chained, List.append_nil]
    rfl

/-- Its transaction asks for what its selection asks for. -/
theorem askedBefore_eq : cycle.askedBefore =
    record (selectRoute (some cycle.board.recorded) cycle.sensor.route
      (unrecorded cycle.start)).state.bus := recorded_probe _

theorem askedBefore_chained (chained : cycle.Chained) :
    ∀ entry ∈ cycle.askedBefore, entry.ask ≠ .park := by
  obtain ⟨code, reaches⟩ := Option.isSome_iff_exists.mp chained
  rw [askedBefore_eq]
  intro entry member
  rcases recorded_selectRoute (unrecorded cycle.start) reaches with once | ⟨unasked, -⟩
  · rw [once] at member
    rw [List.mem_singleton.mp member]
    nofun
  · rw [unasked] at member
    exact absurd member List.not_mem_nil

theorem askedBefore_local (plain : ¬ cycle.Chained) : cycle.askedBefore = [] ∨
    cycle.start.bus.register.routed.isSome ∧
      cycle.askedBefore = [⟨.park, cycle.selection.result.isOk⟩] := by
  have selected : cycle.selection = _ :=
    mirrors_selectRoute cycle.sensor.route (unrecorded cycle.start)
  have unchained : cycle.sensor.route.extension = none := Option.not_isSome_iff_eq_none.mp plain
  rw [askedBefore_eq, selected]
  exact recorded_selectRoute_local (unrecorded cycle.start) unchained

theorem outcome_result : cycle.outcome.result =
    match cycle.transaction.result with
    | .ok _ => cycle.parking.result
    | .error fault => .error fault := by
  rw [outcome_eq]
  cases cycle.transaction.result with
  | error fault => rfl
  | ok bytes =>
    cases cycle.parking.result with
    | ok done => rfl
    | error fault => rfl

/-- A cycle that succeeds has read, and has then left the route. -/
theorem outcome_ok (ended : cycle.outcome.result = .ok ()) :
    (∃ bytes, cycle.transaction.result = .ok bytes) ∧ cycle.parking.result = .ok () := by
  rw [outcome_result] at ended
  cases got : cycle.transaction.result with
  | ok bytes => exact ⟨⟨bytes, rfl⟩, by rwa [got] at ended⟩
  | error fault => rw [got] at ended; cases ended

/-- The bus remembers no channel after a parking that succeeds. -/
theorem park_forgets {board : Selector σ τ} {rig : Rig σ (Shared τ)}
    (parked : (park (some board) rig).result = .ok ()) :
    (park (some board) rig).state.bus.register.routed = none := by
  have applied : park (some board) rig = _ := Action.bind_apply (onSelector board.park) _ rig
  rw [applied] at parked ⊢
  cases ended : (onSelector board.park rig).result with
  | ok done => rfl
  | error fault =>
    rw [ended] at parked
    cases parked

theorem outcome_parked (chained : cycle.Chained) (ended : cycle.outcome.result = .ok ()) :
    cycle.outcome.state.bus.register.routed = none ∧
      (acceptedCodes cycle.asked).getLast? = some Serial.parkedCode := by
  obtain ⟨-, parked⟩ := outcome_ok ended
  constructor
  · rw [outcome_eq, parking_eq chained]
    rw [parking_eq chained] at parked
    exact park_forgets parked
  · rw [asked_eq, if_pos chained, parked]
    simp [acceptedCodes, Except.isOk, Except.toBool, Ask.code]

/-! ### The serial bus as the selector -/

section OnSerial

variable {rig : Rig σ (Shared Serial.Bus)}

/-- A route with a channel of the board is selected only if the serial bus has a selector. -/
theorem configured_of_selected {route : Route} {code : ExtensionCode}
    (reaches : route.extension = some code)
    (selected : (selectRoute (some .serial) route rig).result = .ok ()) :
    ∃ address, rig.bus.selector.extension = some address := by
  cases configured : rig.bus.selector.extension with
  | some address => exact ⟨address, rfl⟩
  | none =>
    have kept : (setMux route rig).state.bus.selector.extension = none :=
      (keeps_setMux (·.selector.extension) route (fun _ => rfl) rig).trans configured
    unfold selectRoute at selected
    rw [Action.bind_apply] at selected
    cases muxed : (setMux route rig).result with
    | error fault =>
      rw [muxed] at selected
      cases selected
    | ok done =>
      simp [muxed, reaches, setBoard, Action.bind_apply, onSelector, Action.within,
        Selector.serial, Serial.routeExtension, Rig.memory, kept] at selected

/-- The transaction of a cycle leaves the selector its address. -/
theorem transaction_configured {sensor : RegisterSensor} {address : ModuleAddress}
    (configured : rig.bus.selector.extension = some address) :
    (sensor.probe (some .serial) rig).state.bus.selector.extension = some address := by
  have selected := Monitor.Leads.run Tap.blank rig (leads_selectRoute sensor.route configured)
    fun _ _ => trivial
  have kept : (sensor.probe (some .serial) rig).state.bus.selector.extension = _ :=
    (keeps_after (·.selector.extension) (fun _ => keeps_of_steady (steady_read _ _ _)) rig).1
  exact kept.trans selected.2.1

/-- **The last code that the selector's module has accepted is the parked one**, after a cycle of a
sensor with a channel of the board that succeeds. -/
theorem serial_parked {cycle : Cycle σ Serial.Bus} (serial : cycle.board = .serial)
    (chained : cycle.Chained) (ended : cycle.outcome.result = .ok ()) :
    ∃ address, cycle.start.bus.selector.extension = some address ∧ ∀ past,
      (accepted address (past ++ cycle.outcome.journal.events)).getLast? =
        some Serial.parkedCode := by
  obtain ⟨board, sensor, start⟩ := cycle
  cases serial
  obtain ⟨⟨bytes, got⟩, parked⟩ := outcome_ok ended
  obtain ⟨⟨selected, -⟩, -⟩ := (transaction_ok_iff bytes).mp got
  obtain ⟨code, reaches⟩ := Option.isSome_iff_exists.mp chained
  obtain ⟨address, configured⟩ := configured_of_selected reaches selected
  refine ⟨address, configured, fun past => ?_⟩
  have kept : (sensor.probe (some .serial) start).state.bus.selector.extension = some address :=
    transaction_configured configured
  -- the tap hears the transaction before it hears the parking
  have heard := (Monitor.Leads.run
    (Tap.blank.after address (past ++ (sensor.probe (some .serial) start).journal.events))
    (sensor.probe (some .serial) start).state (leads_park kept) fun _ _ => trivial).2.2
  have away : (park (some .serial) (sensor.probe (some .serial) start).state).result = .ok () := by
    rw [← parked, parking_eq chained]
    rfl
  have took := heard.1
  rw [away] at took
  rw [outcome_eq, parking_eq chained]
  simp only [Journal.events_append, List.append_nil, ← List.append_assoc]
  unfold accepted
  rw [Tap.after_append]
  exact (congrArg List.getLast? took).trans List.getLast?_concat

end OnSerial

end Cycle

/-! ### Exact cycles -/

theorem outcome_exact {cycle : Cycle σ τ} (silent : cycle.board.Silent) : cycle.Exact := by
  have mute : cycle.transaction.journal.samples = [] := mute_probe silent cycle.start
  have quiet : cycle.parking.journal.samples = [] := mute_leave silent cycle.transaction.state
  have calls : cycle.outcome.journal.events =
      cycle.transaction.journal.events ++ cycle.parking.journal.events := by
    rw [Cycle.outcome_eq]
    exact List.append_nil _
  have samples : cycle.outcome.journal.samples = cycle.sensor.samples cycle.transaction.result := by
    rw [Cycle.outcome_eq]
    simp only [Journal.samples_append, mute, quiet, List.nil_append]
  have log : cycle.outcome.journal.log = cycle.transaction.journal.log ++
      cycle.parking.journal.log ++
        cycle.sensor.warnings cycle.transaction.result cycle.parking.result := by
    rw [Cycle.outcome_eq]
    rfl
  exact {
    calls, samples, log
    reads := Cycle.transaction_ok_iff
    own := fun truthful answered => (truthful.buffered answered.2.2).1
    recorded := mirrors_poll
    asks := Cycle.asked_eq
    unparked := Cycle.askedBefore_chained
    replaces := Cycle.askedBefore_local
    result := Cycle.outcome_result
    parked := Cycle.outcome_parked }

/-- **A cycle of a register sensor is exact**, whichever calls of its selection, its read and its
parking fail. It publishes one sample with the bytes that the target returned if its transaction
succeeds, and none otherwise. If the sensor has a channel of the board, the selector is asked to
park once, after the transaction and whatever became of it; if not, it is not asked to after the
transaction, though the selection of a local route asks for it where a channel is remembered. A
fault of the transaction comes first, and a fault of the parking is then no more than a record.
After a cycle with a channel of the board that succeeds, the bus remembers no channel and the last
code that the selector accepted is the parked one; with the serial bus as the selector, so is the
last code that its module accepted. -/
theorem poll_is_exact (cycle : Cycle σ τ) (silent : cycle.board.Silent) :
    cycle.Exact ∧ ∀ start : Rig σ (Shared Serial.Bus),
      let serial : Cycle σ Serial.Bus := ⟨.serial, cycle.sensor, start⟩
      serial.Exact ∧ (serial.Chained → serial.outcome.result = .ok () →
        ∃ address, start.bus.selector.extension = some address ∧ ∀ past,
          (accepted address (past ++ serial.outcome.journal.events)).getLast? =
            some Serial.parkedCode) :=
  ⟨outcome_exact silent, fun _ => ⟨outcome_exact silent_serial, Cycle.serial_parked rfl⟩⟩

theorem frontAddress_inRange : 0x76 ≤ maxTargetAddress := by decide

/-- A sensor behind the extension board. -/
def frontSensor : RegisterSensor :=
  ⟨"bme-front", chainedRoute, ⟨⟨0x76, frontAddress_inRange⟩, .register, 0⟩, 0xD0, 1⟩

/-- A cycle of which neither the read nor the parking succeeds. -/
def troubledCycle : Cycle (Bench.Board Unit) Unit where
  board := .standAlone
  sensor := frontSensor
  start := ⟨(Bench.Board.fresh []).planned
    [⟨.readTarget, 0, .cause .timedOut⟩, ⟨.parkBoard, 0, .fault (.writeFailed 1 .timedOut)⟩],
    ⟨.fresh, ()⟩⟩

/-- A bus with its selector at module 5, on devices that do as they are told. -/
def servedRig : Rig (Bench.Board Unit) (Shared Serial.Bus) :=
  ⟨.fresh [], ⟨.fresh, { Serial.Bus.fresh .standard with extension := some stuckSelector }⟩⟩

/-- A cycle of the same sensor on that bus. -/
def servedCycle : Cycle (Bench.Board Unit) Serial.Bus := ⟨.serial, frontSensor, servedRig⟩

/-- The board is asked to park although the read has failed, and the fault of the read is reported;
on the serial bus the cycle succeeds. -/
theorem poll_in_trouble :
    troubledCycle.board.Silent ∧ troubledCycle.Exact ∧
      troubledCycle.outcome.result = .error (.readFailed 1 .timedOut) ∧
      troubledCycle.outcome.journal.samples = [] ∧
      troubledCycle.outcome.journal.log = [⟨.warn,
        "bme-front: failed to park extension board: write of 1 bytes failed: timed out"⟩] ∧
      troubledCycle.asked = [⟨.route ⟨5, by decide, by decide⟩, true⟩, ⟨.park, false⟩] ∧
      servedCycle.outcome.result = .ok () ∧
      servedCycle.outcome.journal.samples = [⟨"bme-front", "raw", .raw [0x46]⟩] ∧
      ∃ address, servedRig.bus.selector.extension = some address ∧ ∀ past,
        (accepted address (past ++ servedCycle.outcome.journal.events)).getLast? =
          some Serial.parkedCode := by
  obtain ⟨exact, onSerial⟩ := poll_is_exact troubledCycle silent_standAlone
  have served : servedCycle.outcome.result = .ok () := (faultOf_eq_none _).mp (by decide +kernel)
  exact ⟨silent_standAlone, exact, (faultOf_eq_some _ _).mp (by decide +kernel),
    by decide +kernel, by decide +kernel, by decide +kernel, served, by decide +kernel,
    (onSerial servedRig).2 rfl served⟩

end SensorCape.Register
