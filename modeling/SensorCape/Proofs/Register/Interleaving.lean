/-
**Sensors that take turns.**

A poll cycle of a register sensor gives the register bus up between its transaction and its parking.
Other sensors come in between, and so do the leak detector and the outlets on the serial bus. So a
sensor's parking may fall into the cycle of another one, and a local sensor may meet a board that
somebody else's cycle has left switched on.

What the bus remembers of the board is true all the same, as long as nothing fails: a channel that
it remembers is the last code sent, and if it remembers none the board is parked. A transaction sets
both for its own route, and nobody comes between its selection and its calls.

* `Stint`: a critical section of a cycle, or what is done on the serial bus. `poll_is_cycle`: a poll
  makes the calls of its sections.
* `Told`: the board was last told a channel, or parked. `told_along`: it is what the bus remembers,
  and a channel is remembered only while a cycle is between its sections.
* `routes_along_sections`: **in whatever order the sections come, a sensor reads on its own route.**
-/

import Mathlib.Data.List.Induction
import SensorCape.Proofs.Register.Faultless
import SensorCape.Proofs.Register.Neighbours

set_option linter.unusedSectionVars false

namespace SensorCape.Register

open Poll (RegisterSensor)
open Serial (ExtensionCode ModuleAddress)

variable {σ ι : Type} [Devices σ] {address : ModuleAddress} {sensors : ι → RegisterSensor}

/-! ### Sections -/

/-- What is done without giving the buses up in between. -/
inductive Stint (ι : Type)
  /-- The transaction of a sensor: its route is selected and its register is read. -/
  | probe (sensor : ι)
  /-- The parking after the transaction of a sensor. -/
  | park (sensor : ι)
  /-- The leak detector at a module address is read. -/
  | leak (module : UInt8)
  /-- The outlets are set. -/
  | outlets (board : Outlets)
  deriving DecidableEq

namespace Stint

/-- What a section does on the buses. -/
def operation (sensors : ι → RegisterSensor) : Stint ι → Operation σ
  | .probe sensor => .transaction (sensors sensor).route (sensorWork (sensors sensor))
  | .park _ => .park
  | .leak module => .aside (onSelector (Poll.pollLeak module))
  | .outlets board => .aside (onSelector (Poll.setOutlets board))

/-- The sensor that a section belongs to. -/
def sensor? : Stint ι → Option ι
  | .probe sensor | .park sensor => some sensor
  | .leak _ | .outlets _ => none

/-- The power board is not at the address of the selector. -/
def Apart (address : ModuleAddress) : Stint ι → Prop
  | .outlets board => board.address ≠ address.value
  | .probe _ | .park _ | .leak _ => True

/-- The channel that the bus remembers after a section without faults. -/
def routed (sensors : ι → RegisterSensor) (before : Option ExtensionCode) :
    Stint ι → Option ExtensionCode
  | .probe sensor => (sensors sensor).route.extension
  | .park _ => none
  | .leak _ | .outlets _ => before

end Stint

/-- The sections of a poll cycle of a sensor. -/
def cycle (sensors : ι → RegisterSensor) (sensor : ι) : List (Stint ι) :=
  .probe sensor :: if (sensors sensor).route.extension.isSome then [.park sensor] else []

/-- Runs sections one after the other. -/
def runSections (sensors : ι → RegisterSensor) (stints : List (Stint ι)) : OnBoard σ Unit :=
  runAll (stints.map (Stint.operation sensors))

/-- After some sections, a sensor with a channel of the board is between its transaction and its
parking: the transaction was the latest of its sections. -/
def Between [DecidableEq ι] (sensors : ι → RegisterSensor) (gone : List (Stint ι)) (sensor : ι) :
    Prop :=
  (sensors sensor).route.extension.isSome ∧
    (gone.filter (·.sensor? = some sensor)).getLast? = some (.probe sensor)

/-! ### Cycles -/

section Cycles

/-- **A poll makes the calls of its sections, one after the other.** -/
theorem poll_is_cycle (sensor : ι) (rig : Rig σ (Shared Serial.Bus)) :
    let polled := (sensors sensor).poll (some .serial) rig
    let cycled := runSections sensors (cycle sensors sensor) rig
    polled.journal.events = cycled.journal.events ∧ polled.state = cycled.state := by
  intro polled cycled
  obtain ⟨calls, ended⟩ := poll_calls (sensors sensor) rig
  obtain ⟨made, reached⟩ := probe_work (sensors sensor) rig
  rw [made, reached] at calls
  rw [reached] at ended
  simp only [polled, calls, ended, RegisterSensor.leave]
  by_cases chained : (sensors sensor).route.extension.isSome = true
  · have sections : cycle sensors sensor = [.probe sensor, .park sensor] := by
      rw [cycle, if_pos chained]
    rw [if_pos chained]
    simp only [cycled, sections]
    refine ⟨?_, rfl⟩
    show _ ++ _ = _ ++ (_ ++ [])
    rw [List.append_nil]
    rfl
  · have sections : cycle sensors sensor = [.probe sensor] := by
      rw [cycle, if_neg chained]
    rw [if_neg chained]
    simp only [cycled, sections]
    exact ⟨rfl, rfl⟩

variable [DecidableEq ι]

/-- A sensor that has done whole cycles is not between its sections. -/
theorem not_between_of_cycles {gone : List (Stint ι)} {sensor : ι} {count : Nat}
    (whole : gone.filter (·.sensor? = some sensor) =
      (List.replicate count (cycle sensors sensor)).flatten) : ¬ Between sensors gone sensor := by
  rintro ⟨chained, latest⟩
  rw [whole, cycle, if_pos chained] at latest
  cases count with
  | zero => cases latest
  | succ more =>
    rw [List.replicate_succ', List.flatten_append, List.flatten_singleton,
      List.getLast?_append] at latest
    cases latest

theorem between_probe (gone : List (Stint ι)) {sensor : ι}
    (chained : (sensors sensor).route.extension.isSome = true) :
    Between sensors (gone ++ [.probe sensor]) sensor := by
  refine ⟨chained, ?_⟩
  rw [List.filter_append, List.filter_cons_of_pos (by simp [Stint.sensor?]), List.filter_nil,
    List.getLast?_append]
  rfl

/-- What is done on the serial bus is no section of a sensor. -/
theorem Between.snoc {gone : List (Stint ι)} {stint : Stint ι} {sensor : ι}
    (between : Between sensors gone sensor) (aside : stint.sensor? = none) :
    Between sensors (gone ++ [stint]) sensor := by
  obtain ⟨chained, latest⟩ := between
  refine ⟨chained, ?_⟩
  rw [List.filter_append, List.filter_cons_of_neg (by simp [aside]), List.filter_nil,
    List.append_nil]
  exact latest

end Cycles

/-! ### What the board was told -/

/-- The last code is that of a channel; or there is none, or it is the parked one. -/
def Told : Option ExtensionCode → List UInt8 → Prop
  | some code, taken => taken.getLast? = some code.value
  | none, taken => Parked taken

section Told

variable {routed last : Option ExtensionCode} {before after : List UInt8}

omit [Devices σ] in
/-- **After a selection the board was told the channel of the route**, and the bus remembers it. -/
theorem told_select {route : Route} (told : Told routed before)
    (does : (Move.select route : Move σ).Does (.ok ()) routed last before after) :
    last = route.extension ∧ Told route.extension after := by
  unfold Move.Does Move.code? Move.target at does
  cases extension : route.extension with
  | some code =>
    simp only [extension] at does
    obtain ⟨rfl, rfl⟩ := does
    exact ⟨rfl, List.getLast?_concat⟩
  | none =>
    simp only [extension] at does
    cases routed with
    | some other =>
      obtain ⟨rfl, rfl⟩ := does
      exact ⟨rfl, (parked_append _ _).mpr rfl⟩
    | none =>
      obtain ⟨rfl, rfl⟩ := does
      exact ⟨rfl, told⟩

theorem told_work {α : Type} {body : OnBoard σ α} {past : List Event}
    (leaves : LeavesBoard address body) (rig : Rig σ (Shared Serial.Bus))
    (told : Told routed (accepted address past)) :
    (body rig).state.bus.register.routed = rig.bus.register.routed ∧
      Told routed (accepted address (past ++ (body rig).journal.events)) := by
  obtain ⟨taken, same, -⟩ := leaves rig (Tap.blank.after address past)
  rw [← Tap.after_append] at taken
  refine ⟨same, ?_⟩
  rw [accepted, taken]
  exact told

variable {rig : Rig σ (Shared Serial.Bus)} {past : List Event} {route : Route}

theorem told_selection (configured : rig.bus.selector.extension = some address)
    (selected : (selectRoute (some .serial) route rig).result = .ok ())
    (told : Told rig.bus.register.routed (accepted address past)) :
    let selection := selectRoute (some .serial) route rig
    selection.state.bus.register.routed = route.extension ∧
      Told route.extension (accepted address (past ++ selection.journal.events)) := by
  intro selection
  obtain ⟨-, does⟩ := Visit.does ⟨.select route, rig⟩ (Tap.blank.after address past) configured
    nofun
  have ended : Visit.result ⟨.select route, rig⟩ = .ok () := selected
  rw [ended, ← Tap.after_append] at does
  exact told_select told does

theorem told_parking (configured : rig.bus.selector.extension = some address)
    (unfailed : Unfailed (Register.park (some .serial) rig).journal.events) :
    let parking := Register.park (some .serial) rig
    parking.state.bus.register.routed = none ∧
      Told none (accepted address (past ++ parking.journal.events)) := by
  intro parking
  obtain ⟨_, parked⟩ := succeeds_park configured unfailed
  obtain ⟨-, does⟩ := Visit.does ⟨.park, rig⟩ (Tap.blank.after address past) configured nofun
  have ended : Visit.result ⟨.park, rig⟩ = .ok () := parked
  rw [ended, ← Tap.after_append] at does
  obtain ⟨took, left⟩ := does
  have taken : accepted address (past ++ parking.journal.events) =
    accepted address past ++ [0] := took
  refine ⟨left, ?_⟩
  rw [taken]
  exact (parked_append _ _).mpr rfl

/-- **A section without faults leaves the board as the bus remembers it.** -/
theorem Stint.told_kept {stint : Stint ι}
    (configured : rig.bus.selector.extension = some address) (apart : stint.Apart address)
    (unfailed : Unfailed ((stint.operation sensors).run rig).journal.events)
    (told : Told rig.bus.register.routed (accepted address past)) :
    let outcome := (stint.operation sensors).run rig
    outcome.state.bus.register.routed = stint.routed sensors rig.bus.register.routed ∧
      Told (stint.routed sensors rig.bus.register.routed)
        (accepted address (past ++ outcome.journal.events)) := by
  cases stint with
  | probe sensor =>
    have selected := transaction_selected configured unfailed
    obtain ⟨same, reached⟩ := told_selection configured selected told
    have leaves : LeavesBoard address (sensorWork (sensors sensor) : OnBoard σ Unit) :=
      leavesBoard_bind (leavesBoard_read _ _ _) fun _ => leavesBoard_pure ()
    obtain ⟨kept, still⟩ := told_work leaves _ reached
    have begun := transaction_begun selected (sensorWork (sensors sensor) : OnBoard σ Unit)
    simp only [operation, Operation.run, begun]
    refine ⟨kept.trans same, ?_⟩
    rw [Journal.events_append, ← List.append_assoc]
    exact still
  | park sensor => exact told_parking configured unfailed
  | leak module => exact told_work (leavesBoard_onSelector (spares_pollLeak module)) rig told
  | outlets board => exact told_work (leavesBoard_onSelector (spares_setOutlets apart)) rig told

end Told

/-! ### Runs of sections -/

section Runs

variable {stints : List (Stint ι)} {start : Rig σ (Shared Serial.Bus)} {past : List Event}

theorem runSections_append (sensors : ι → RegisterSensor) (earlier later : List (Stint ι))
    (start : Rig σ (Shared Serial.Bus)) :
    let reached := runSections sensors earlier start
    let followed := runSections sensors later reached.state
    (runSections sensors (earlier ++ later) start).journal.events =
        reached.journal.events ++ followed.journal.events ∧
      (runSections sensors (earlier ++ later) start).state = followed.state := by
  intro reached followed
  unfold runSections
  rw [List.map_append]
  exact runAll_append _ _ start

theorem runSections_snoc (sensors : ι → RegisterSensor) (earlier : List (Stint ι))
    (stint : Stint ι) (start : Rig σ (Shared Serial.Bus)) :
    let reached := runSections sensors earlier start
    let outcome := (stint.operation sensors).run reached.state
    (runSections sensors (earlier ++ [stint]) start).journal.events =
        reached.journal.events ++ outcome.journal.events ∧
      (runSections sensors (earlier ++ [stint]) start).state = outcome.state := by
  intro reached outcome
  obtain ⟨calls, ended⟩ := runSections_append sensors earlier [stint] start
  refine ⟨calls.trans (congrArg (reached.journal.events ++ ·) ?_), ended⟩
  exact List.append_nil _

theorem runSections_split {before after : List Event} {event : Event}
    (split : (runSections sensors stints start).journal.events = before ++ event :: after) :
    ∃ earlier stint later inside rest, stints = earlier ++ stint :: later ∧
      ((stint.operation sensors).run (runSections sensors earlier start).state).journal.events =
          inside ++ event :: rest ∧
        before = (runSections sensors earlier start).journal.events ++ inside := by
  obtain ⟨_, _, _, inside, rest, divided, made, same⟩ := runAll_split split
  obtain ⟨earlier, following, rfl, rfl, found⟩ := List.map_eq_append_iff.mp divided
  obtain ⟨stint, later, rfl, rfl, rfl⟩ := List.map_eq_cons_iff.mp found
  exact ⟨earlier, stint, later, inside, rest, rfl, made, same⟩

theorem Stint.keepsSetup {stint : Stint ι} (apart : stint.Apart address) :
    (stint.operation sensors : Operation σ).KeepsSetup := by
  cases stint with
  | probe sensor =>
    exact keeps_of_steady (steady_bind (steady_read _ _ _) fun _ => steady_pure ())
  | park sensor => exact trivial
  | leak module =>
    have spares : Spares address (Poll.pollLeak module : OnBus σ Serial.Bus Unit) :=
      spares_pollLeak module
    exact keepsSetup_onSelector spares
  | outlets board => exact keepsSetup_onSelector (spares_setOutlets apart)

/-- Wherever a section begins, the selector has its address, and lines that count as ready have been
made outputs. -/
theorem sections_readied (sensors : ι → RegisterSensor)
    (fresh : start.bus.register.muxReady = false)
    (configured : start.bus.selector.extension = some address)
    (apart : ∀ stint ∈ stints, stint.Apart address) :
    let reached := runSections sensors stints start
    reached.state.bus.selector.extension = some address ∧
      (reached.state.bus.register.muxReady = true →
        ∀ event ∈ outputs, event ∈ reached.journal.events) := by
  refine readied fresh configured fun operation member => ?_
  obtain ⟨stint, among, rfl⟩ := List.mem_map.mp member
  exact Stint.keepsSetup (apart stint among)

variable [DecidableEq ι]

/-- **What the bus remembers is what the board was told**, and a channel is remembered only while a
cycle is between its sections. -/
theorem told_along (fresh : start.bus.register.muxReady = false)
    (unrouted : start.bus.register.routed = none)
    (configured : start.bus.selector.extension = some address)
    (parked : Parked (accepted address past)) (apart : ∀ stint ∈ stints, stint.Apart address)
    (unfailed : Unfailed (runSections sensors stints start).journal.events) :
    let reached := runSections sensors stints start
    Told reached.state.bus.register.routed
        (accepted address (past ++ reached.journal.events)) ∧
      (reached.state.bus.register.routed.isSome = true →
        ∃ sensor, Between sensors stints sensor) := by
  induction stints using List.reverseRecOn with
  | nil =>
    refine ⟨?_, fun chained => ?_⟩
    · show Told start.bus.register.routed (accepted address (past ++ []))
      rw [unrouted, List.append_nil]
      exact parked
    · have still : start.bus.register.routed.isSome = true := chained
      rw [unrouted] at still
      cases still
  | append_singleton earlier stint ih =>
    obtain ⟨before, last⟩ := List.forall_mem_append.mp apart
    obtain ⟨calls, ended⟩ := runSections_snoc sensors earlier stint start
    rw [calls] at unfailed
    obtain ⟨gone, passing⟩ := unfailed_append.mp unfailed
    obtain ⟨told, between⟩ := ih before gone
    obtain ⟨still, -⟩ := sections_readied sensors fresh configured before
    obtain ⟨routed, kept⟩ :=
      Stint.told_kept still (last stint List.mem_cons_self) passing told
    dsimp only
    rw [calls, ended, routed, ← List.append_assoc]
    refine ⟨kept, fun chained => ?_⟩
    cases stint with
    | probe sensor => exact ⟨sensor, between_probe earlier chained⟩
    | park sensor => cases chained
    | leak module =>
      obtain ⟨sensor, still⟩ := between chained
      exact ⟨sensor, still.snoc rfl⟩
    | outlets board =>
      obtain ⟨sensor, still⟩ := between chained
      exact ⟨sensor, still.snoc rfl⟩

end Runs

/-! ### Calls on the two-wire bus -/

section OnWire

variable {events more : List Event}

/-- A call on a target does not move the multiplexer. -/
theorem MuxAt.on_wire {route : Route} (muxAt : MuxAt route events)
    (wire : ∀ event ∈ more, IsTwoWire event) : MuxAt route (events ++ more) := by
  have undriven (line : Line) : latest line more = none :=
    latest_eq_none fun how failure member => wire _ member
  refine ⟨fun event member => List.mem_append_left _ (muxAt.outputs event member), ?_, ?_⟩
  · rw [latest_append, undriven, Option.none_or, muxAt.low]
  · rw [latest_append, undriven, Option.none_or, muxAt.high]

/-- Nor does it tell the board anything. -/
theorem accepted_on_wire (wire : ∀ event ∈ more, IsTwoWire event) :
    accepted address (events ++ more) = accepted address events := by
  have unseen (tap : Tap) : tap.after address more = tap := by
    induction more generalizing tap with
    | nil => rfl
    | cons event rest ih =>
      obtain ⟨first, others⟩ := List.forall_mem_cons.mp wire
      have same : tap.next address event = tap := by
        cases event with
        | openTarget _ _ | writeTarget _ _ _ | readTarget _ _ _ => rfl
        | _ => exact first.elim
      show (tap.next address event).after address rest = tap
      rw [same, ih others]
  rw [accepted, Tap.after_append, unseen]
  rfl

/-- Calls on the two-wire bus and nothing else. -/
abbrev OnWire {α : Type} (body : OnBoard σ α) : Prop := Serial.Makes IsTwoWire body

theorem onWire_call {α : Type} {ask : σ → α × σ} {event : α → Event}
    (wire : ∀ answer, IsTwoWire (event answer)) : OnWire (Rig.call ask event : OnBoard σ α) :=
  Serial.comprises_single fun rig => ⟨event (ask rig.devices).1, wire _, rfl⟩

theorem onWire_send (target : TargetAddress) (data : List UInt8) :
    OnWire (send target data : OnBoard σ Unit) :=
  Serial.comprises_bind (onWire_call fun _ => trivial) fun _ =>
    Serial.comprises_bind (Serial.comprises_ofExcept _) fun _ => Serial.comprises_quiet fun _ => rfl

/-- **The work of a sensor is calls on its target.** -/
theorem onWire_sensorWork (sensor : RegisterSensor) :
    OnWire (sensorWork sensor : OnBoard σ Unit) := by
  have points : OnWire (sensor.handle.point sensor.register sensor.length : OnBoard σ Unit) := by
    unfold Handle.point
    cases sensor.handle.framing with
    | register => exact onWire_send sensor.handle.address [sensor.register]
    | bare => exact Serial.comprises_quiet fun _ => rfl
  have receives : OnWire
      (receive sensor.handle.address sensor.length : OnBoard σ (List UInt8)) :=
    Serial.comprises_bind (onWire_call fun _ => trivial) fun _ =>
      Serial.comprises_bind (Serial.comprises_ofExcept _) fun _ =>
        Serial.comprises_quiet fun _ => rfl
  exact Serial.comprises_bind (Serial.comprises_bind points fun _ => receives) fun _ =>
    Serial.comprises_quiet fun _ => rfl

end OnWire

/-! ### Reads on the right route -/

section Reads

variable {start : Rig σ (Shared Serial.Bus)} {past : List Event}

/-- Only the transactions of sensors call targets. -/
theorem Stint.eq_probe {stint : Stint ι} {rig : Rig σ (Shared Serial.Bus)} {event : Event}
    (made : event ∈ ((stint.operation sensors).run rig).journal.events) (wire : IsTwoWire event) :
    ∃ sensor, stint = .probe sensor := by
  have never {body : OnBoard σ Unit} (off : OffWire body)
      (called : event ∈ (body rig).journal.events) : False :=
    Serial.makes_iff.mp off rig event called wire
  cases stint with
  | probe sensor => exact ⟨sensor, rfl⟩
  | park sensor => exact (never offWire_park made).elim
  | leak module => exact (never (offWire_onSelector (offWire_pollLeak module)) made).elim
  | outlets board => exact (never (offWire_onSelector (offWire_setOutlets board)) made).elim

/-- Within a transaction that follows some calls, every call on a target is made on the route. -/
theorem on_route {sensor : RegisterSensor} {rig : Rig σ (Shared Serial.Bus)}
    {before inside rest : List Event} {event : Event}
    (configured : rig.bus.selector.extension = some address)
    (ready : rig.bus.register.muxReady = true → ∀ event ∈ outputs, event ∈ before)
    (told : Told rig.bus.register.routed (accepted address (past ++ before)))
    (unfailed : Unfailed
      (transaction (some .serial) sensor.route (sensorWork sensor) rig).journal.events)
    (split : (transaction (some .serial) sensor.route (sensorWork sensor) rig).journal.events =
      inside ++ event :: rest) (wire : IsTwoWire event) :
    MuxAt sensor.route (before ++ inside) ∧
      Told sensor.route.extension (accepted address (past ++ (before ++ inside))) := by
  have selected := transaction_selected configured unfailed
  rw [transaction_begun selected] at split
  rcases append_split split with ⟨others, made, -⟩ | ⟨more, rfl, made⟩
  · -- the selection touches no target
    refine absurd wire (Serial.makes_iff.mp (offWire_selectRoute sensor.route) rig event ?_)
    rw [made]
    exact List.mem_append_right _ List.mem_cons_self
  · have reads : OnWire (sensorWork sensor : OnBoard σ Unit) := onWire_sensorWork sensor
    have calls : ∀ call ∈ more, IsTwoWire call := by
      intro call member
      refine Serial.makes_iff.mp reads (selectRoute (some .serial) sensor.route rig).state call ?_
      rw [made]
      exact List.mem_append_left _ member
    have muxAt := (ran_selectRoute configured (Ran.of_ok selected)).muxAt ready
    obtain ⟨-, reached⟩ := told_selection configured selected told
    rw [List.append_assoc] at reached
    rw [← List.append_assoc, ← List.append_assoc, accepted_on_wire calls]
    exact ⟨muxAt.on_wire calls, reached⟩

variable [DecidableEq ι]

/-- **In whatever order the sections come, a sensor reads on its own route.** Sensors share a
register bus that was just opened and has a serial bus with an address for the selector; the board
is parked. Their sections are run in any order, and so are readings of the leak detector and
settings of outlets at other addresses; the orders that keep the sections of every single cycle in
order are among them. No call fails. A poll is its sections in a row. Every call on a target is made
within the transaction of a sensor, after the calls of the earlier sections and of its selection;
the multiplexer then stands at the sensor's local channel, and the last code for the board is the
sensor's, or the parked one or none at all if it has none. Between two sections, while no cycle is
between its own two, the last code is the parked one, if there is any. -/
theorem routes_along_sections (sensors : ι → RegisterSensor) (stints : List (Stint ι))
    (past : List Event) (start : Rig σ (Shared Serial.Bus))
    (fresh : start.bus.register.muxReady = false) (unrouted : start.bus.register.routed = none)
    (configured : start.bus.selector.extension = some address)
    (parked : Parked (accepted address past)) (apart : ∀ stint ∈ stints, stint.Apart address)
    (unfailed : Unfailed (runSections sensors stints start).journal.events) :
    (∀ sensor (rig : Rig σ (Shared Serial.Bus)),
      let polled := (sensors sensor).poll (some .serial) rig
      let cycled := runSections sensors (cycle sensors sensor) rig
      polled.journal.events = cycled.journal.events ∧ polled.state = cycled.state) ∧
    (∀ before event after, (runSections sensors stints start).journal.events =
      before ++ event :: after → IsTwoWire event → ∃ earlier sensor later inside rest,
        stints = earlier ++ .probe sensor :: later ∧
          let reached := runSections sensors earlier start
          ((sensors sensor).probe (some .serial) reached.state).journal.events =
              inside ++ event :: rest ∧
            before = reached.journal.events ++ inside ∧
            MuxAt (sensors sensor).route before ∧
            Told (sensors sensor).route.extension (accepted address (past ++ before))) ∧
    ∀ earlier later, stints = earlier ++ later → (∀ sensor, ¬ Between sensors earlier sensor) →
      Parked (accepted address (past ++ (runSections sensors earlier start).journal.events)) := by
  -- the part of the run before a section is a run under the same conditions
  have gone {earlier later : List (Stint ι)} (split : stints = earlier ++ later) :
      (∀ stint ∈ earlier, stint.Apart address) ∧
        Unfailed (runSections sensors earlier start).journal.events ∧
        Unfailed (runSections sensors later
          (runSections sensors earlier start).state).journal.events := by
    rw [split] at apart unfailed
    rw [(runSections_append sensors earlier later start).1] at unfailed
    obtain ⟨before, after⟩ := unfailed_append.mp unfailed
    exact ⟨(List.forall_mem_append.mp apart).1, before, after⟩
  refine ⟨poll_is_cycle, ?_, ?_⟩
  · intro before event after split wire
    obtain ⟨earlier, stint, later, inside, rest, rfl, made, rfl⟩ := runSections_split split
    have among : event ∈ inside ++ event :: rest := List.mem_append_right _ List.mem_cons_self
    rw [← made] at among
    obtain ⟨sensor, rfl⟩ := Stint.eq_probe among wire
    obtain ⟨before, passed, passing⟩ := gone rfl
    obtain ⟨still, ready⟩ := sections_readied sensors fresh configured before
    obtain ⟨told, -⟩ := told_along fresh unrouted configured parked before passed
    obtain ⟨calls, -⟩ := probe_work (sensors sensor) (runSections sensors earlier start).state
    exact ⟨earlier, sensor, later, inside, rest, rfl, calls.trans made, rfl,
      on_route still ready told (unfailed_append.mp passing).1 made wire⟩
  · intro earlier later split idle
    obtain ⟨before, passed, -⟩ := gone split
    obtain ⟨told, between⟩ := told_along fresh unrouted configured parked before passed
    cases routed : (runSections sensors earlier start).state.bus.register.routed with
    | none =>
      rw [routed] at told
      exact told
    | some code =>
      obtain ⟨sensor, still⟩ := between (by rw [routed]; rfl)
      exact absurd still (idle sensor)

end Reads

/-! ### Three sensors -/

/-- Two sensors on channels of the board, and a local one. -/
def trio : Fin 3 → RegisterSensor :=
  [⟨"inner", chainedRoute, ⟨⟨0x48, by decide⟩, .register, 0⟩, 0, 2⟩,
    ⟨"outer", ⟨2, by decide, some ⟨6, by decide, by decide⟩⟩,
      ⟨⟨0x49, by decide⟩, .register, 1⟩, 0, 2⟩,
    ⟨"local", localRoute, ⟨⟨0x77, by decide⟩, .bare, 2⟩, 0xF7, 1⟩].get

/-- The local sensor comes between the sections of the first one, whose parking comes between those
of the second one. -/
def turns : List (Stint (Fin 3)) :=
  [.probe 0, .leak 2, .probe 2, .probe 1, .park 0, .outlets ⟨3, [true, false]⟩, .probe 2, .park 1]

/-- The buses of the three sensors, with the selector at module 5. -/
def quietBench : Rig (Bench.Board Unit) (Shared Serial.Bus) where
  devices := Bench.Board.fresh []
  bus := ⟨.fresh, { Serial.Bus.fresh .standard with extension := some stuckSelector }⟩

/-- Three sensors that take turns read on their own routes, and leave the board parked. -/
theorem trio_takes_turns :
    let events := (runSections trio turns quietBench).journal.events
    Unfailed events ∧ accepted stuckSelector events = [5, 0, 6, 0, 0] ∧
      Event.readTarget 0x77 1 (.moved 1) ∈ events ∧ Parked (accepted stuckSelector events) ∧
      ∀ before event after, events = before ++ event :: after → IsTwoWire event → ∃ sensor,
        MuxAt (trio sensor).route before ∧
          Told (trio sensor).route.extension (accepted stuckSelector before) := by
  intro events
  have unfailed : Unfailed (runSections trio turns quietBench).journal.events := by
    decide +kernel
  have apart : ∀ stint ∈ turns, stint.Apart stuckSelector := by
    simp [turns, Stint.Apart, stuckSelector]
  have idle : ∀ sensor, ¬ Between trio turns sensor := by
    have whole : ∀ sensor : Fin 3, turns.filter (·.sensor? = some sensor) =
        (List.replicate (if sensor = 2 then 2 else 1) (cycle trio sensor)).flatten := by decide
    exact fun sensor => not_between_of_cycles (whole sensor)
  have parked : Parked (accepted stuckSelector []) := by
    intro code last
    cases last
  obtain ⟨-, onRoute, ended⟩ :=
    routes_along_sections trio turns [] quietBench rfl rfl rfl parked apart unfailed
  have codes : accepted stuckSelector events = [5, 0, 6, 0, 0] := by decide +kernel
  have read : Event.readTarget 0x77 1 (.moved 1) ∈ events := by decide +kernel
  refine ⟨unfailed, codes, read, ended turns [] (List.append_nil _).symm idle, ?_⟩
  intro before event after split wire
  obtain ⟨_, sensor, _, _, _, -, -, -, muxAt, told⟩ := onRoute before event after split wire
  exact ⟨sensor, muxAt, told⟩

end SensorCape.Register
