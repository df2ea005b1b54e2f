/-
**Handles are opened once.**

The handle of an address is made by the first request for which the target could be opened, and
every later request is answered out of the table, without a call. A request that could not open its
target leaves no trace in the table, so the next one tries again, under its own framing.

* `openHandle_outOfRange`, `openHandle_known`, `openHandle_opened`, `openHandle_refused`: the four
  things that a request can come to.
* `Table`: the handles of the bus are those of the requests that opened a target.
* `handles_opened_once`: **what every request comes to after any others**, and that no target is
  opened a second time.
-/

import SensorCape.Bench.Board
import SensorCape.Proofs.Path
import SensorCape.Register.Bus

set_option linter.unusedSectionVars false

namespace SensorCape.Register

variable {σ τ : Type} [Devices σ]

/-! ### One request -/

section Single

variable {rig : Rig σ (Shared τ)} {address : TargetAddress} {handle : Handle}

theorem TargetAddress.checked_value (address : TargetAddress) :
    TargetAddress.checked address.value = .ok address := by
  rw [TargetAddress.checked, dif_pos address.inRange]

theorem TargetAddress.eq_of_value {one other : TargetAddress} (same : one.value = other.value) :
    one = other := by
  cases one
  cases other
  cases same
  rfl

theorem openHandle_outOfRange {address : UInt8} (framing : Framing)
    (outside : ¬ address ≤ maxTargetAddress) :
    openHandle address framing rig =
      ⟨.error (.contractViolation .targetAddressRange), .empty, rig⟩ := by
  rw [openHandle, TargetAddress.checked, dif_neg outside]
  rfl

/-- A known address is served by its handle, and only under its framing. -/
theorem openHandle_known (framing : Framing)
    (known : rig.bus.register.handle? address = some handle) :
    openHandle address.value framing rig =
      ⟨if handle.framing = framing then .ok handle
        else .error (.contractViolation .framingMismatch), .empty, rig⟩ := by
  rw [openHandle, TargetAddress.checked_value]
  simp only [Action.bind_apply, Action.ofExcept_ok, Action.pure_apply, Rig.memory, known]
  by_cases same : handle.framing = framing
  · simp [same]
  · simp [same]

/-- A free address whose target can be opened gets a handle with the framing asked for. -/
theorem openHandle_opened (framing : Framing) (free : rig.bus.register.handle? address = none)
    (opens : (Devices.openTarget address.value rig.devices).1 = none) :
    let handle : Handle := ⟨address, framing, rig.bus.register.handles.length⟩
    (openHandle address.value framing rig).result = .ok handle ∧
      (openHandle address.value framing rig).journal.events = [.openTarget address.value none] ∧
      (openHandle address.value framing rig).state =
        ⟨(Devices.openTarget address.value rig.devices).2,
          { rig.bus with register := rig.bus.register.withHandle handle }⟩ := by
  rw [openHandle, TargetAddress.checked_value]
  simp [Action.bind_apply, Rig.memory, free, openTarget, Rig.command, Rig.call, opens,
    Event.fault?, Rig.expectNone, rememberBus, Rig.remember, Action.note, Journal.empty]

theorem openHandle_refused (framing : Framing) (free : rig.bus.register.handle? address = none)
    {fault : Fault} (refuses : (Devices.openTarget address.value rig.devices).1 = some fault) :
    (openHandle address.value framing rig).result = .error fault ∧
      (openHandle address.value framing rig).journal.events =
        [.openTarget address.value (some fault)] ∧
      (openHandle address.value framing rig).state =
        ⟨(Devices.openTarget address.value rig.devices).2, rig.bus⟩ := by
  rw [openHandle, TargetAddress.checked_value]
  simp [Action.bind_apply, Rig.memory, free, openTarget, Rig.command, Rig.call, refuses,
    Event.fault?, Rig.expectNone, Journal.empty]

/-- A new handle is found under its address, and the others as before. -/
theorem handle?_withHandle {bus : Bus} (free : bus.handle? handle.address = none)
    (address : TargetAddress) :
    (bus.withHandle handle).handle? address =
      if handle.address = address then some handle else bus.handle? address := by
  rw [Bus.handle?] at free
  rw [Bus.handle?, Bus.withHandle, List.find?_append]
  by_cases here : handle.address = address
  · subst here
    simp [free]
  · simp [here, Bus.handle?]

end Single

/-! ### Requests in turn -/

/-- A request for a handle. -/
structure Request where
  address : UInt8
  framing : Framing

/-- A request, and the rig that it was made on. -/
structure Inquiry (σ τ : Type) where
  request : Request
  start : Rig σ (Shared τ)

namespace Inquiry

/-- What became of a request. -/
def outcome (inquiry : Inquiry σ τ) : Outcome Event (Rig σ (Shared τ)) Handle :=
  openHandle inquiry.request.address inquiry.request.framing inquiry.start

/-- The calls of a request. -/
def calls (inquiry : Inquiry σ τ) : List Event := inquiry.outcome.journal.events

/-- The rig after a request. -/
def finish (inquiry : Inquiry σ τ) : Rig σ (Shared τ) := inquiry.outcome.state

/-- The target of an address was opened at a request. -/
def Opened (inquiry : Inquiry σ τ) (address : UInt8) : Prop :=
  .openTarget address none ∈ inquiry.calls

end Inquiry

/-- Requests one after the other, whatever becomes of each. -/
def inquiries : List Request → Rig σ (Shared τ) → List (Inquiry σ τ)
  | [], _ => []
  | request :: rest, rig => ⟨request, rig⟩ :: inquiries rest (Inquiry.finish ⟨request, rig⟩)

theorem inquiries_path (requests : List Request) : ∀ rig : Rig σ (Shared τ), ∃ last,
    Path Inquiry.start Inquiry.finish rig (inquiries requests rig) last := by
  induction requests with
  | nil => exact fun rig => ⟨rig, .nil rig⟩
  | cons request rest ih =>
    intro rig
    obtain ⟨last, path⟩ := ih (Inquiry.finish ⟨request, rig⟩)
    exact ⟨last, .cons path⟩

/-! ### What a request comes to -/

/-- What a request can come to, by what the bus remembers. -/
inductive Inquiry.Comes (inquiry : Inquiry σ τ) : Prop
  | outOfRange (outside : ¬ inquiry.request.address ≤ maxTargetAddress)
      (ended : inquiry.outcome =
        ⟨.error (.contractViolation .targetAddressRange), .empty, inquiry.start⟩)
  | known (address : TargetAddress) {handle : Handle}
      (place : inquiry.request.address = address.value)
      (found : inquiry.start.bus.register.handle? address = some handle)
      (ended : inquiry.outcome = ⟨if handle.framing = inquiry.request.framing then .ok handle
        else .error (.contractViolation .framingMismatch), .empty, inquiry.start⟩)
  | opened (address : TargetAddress) {handle : Handle}
      (place : inquiry.request.address = address.value)
      (free : inquiry.start.bus.register.handle? address = none)
      (answered : (Devices.openTarget address.value inquiry.start.devices).1 = none)
      (own : handle.address = address) (framed : handle.framing = inquiry.request.framing)
      (result : inquiry.outcome.result = .ok handle)
      (called : inquiry.calls = [.openTarget address.value none])
      (ended : inquiry.finish.bus =
        { inquiry.start.bus with register := inquiry.start.bus.register.withHandle handle })
  | refused (address : TargetAddress) {fault : Fault}
      (place : inquiry.request.address = address.value)
      (free : inquiry.start.bus.register.handle? address = none)
      (answered : (Devices.openTarget address.value inquiry.start.devices).1 = some fault)
      (result : inquiry.outcome.result = .error fault)
      (called : inquiry.calls = [.openTarget address.value (some fault)])
      (ended : inquiry.finish.bus = inquiry.start.bus)

/-- **The four things that a request can come to.** -/
theorem Inquiry.comes (inquiry : Inquiry σ τ) : inquiry.Comes := by
  obtain ⟨⟨byte, framing⟩, rig⟩ := inquiry
  by_cases inRange : byte ≤ maxTargetAddress
  · cases found : rig.bus.register.handle? ⟨byte, inRange⟩ with
    | some handle => exact .known ⟨byte, inRange⟩ rfl found (openHandle_known _ found)
    | none =>
      cases answered : (Devices.openTarget byte rig.devices).1 with
      | none =>
        obtain ⟨result, called, ended⟩ :=
          openHandle_opened framing found answered
        exact .opened ⟨byte, inRange⟩ rfl found answered rfl rfl result called
          (by rw [finish, outcome, ended])
      | some fault =>
        obtain ⟨result, called, ended⟩ :=
          openHandle_refused framing found answered
        exact .refused ⟨byte, inRange⟩ rfl found answered result called
          (by rw [finish, outcome, ended])
  · exact .outOfRange inRange (openHandle_outOfRange framing inRange)

section Requests

variable {inquiry : Inquiry σ τ} {earlier : List (Inquiry σ τ)} {address : UInt8}

theorem Inquiry.idle {result : Except Fault Handle}
    (ended : inquiry.outcome = ⟨result, .empty, inquiry.start⟩) :
    inquiry.calls = [] ∧ inquiry.finish = inquiry.start := by
  rw [calls, finish, ended]
  exact ⟨rfl, rfl⟩

/-- A request makes at most one call, and that one opens the target of its own address. -/
theorem Inquiry.own_call {event : Event} (made : event ∈ inquiry.calls) :
    ∃ failure, event = .openTarget inquiry.request.address failure ∧ inquiry.calls = [event] := by
  cases inquiry.comes with
  | outOfRange _ ended =>
    rw [(idle ended).1] at made
    cases made
  | known _ _ _ ended =>
    rw [(idle ended).1] at made
    cases made
  | opened _ place _ _ _ _ _ called _ =>
    rw [called] at made ⊢
    rw [place, List.mem_singleton.mp made]
    exact ⟨none, rfl, rfl⟩
  | refused _ place _ _ _ called _ =>
    rw [called] at made ⊢
    rw [place, List.mem_singleton.mp made]
    exact ⟨_, rfl, rfl⟩

/-- A request at which a target was opened was for that target, and got the handle it asked for. -/
theorem Inquiry.Opened.answer (opened : inquiry.Opened address) :
    inquiry.request.address = address ∧ ∃ handle, inquiry.outcome.result = .ok handle ∧
      handle.address.value = address ∧ handle.framing = inquiry.request.framing := by
  cases inquiry.comes with
  | outOfRange _ ended =>
    rw [Opened, (idle ended).1] at opened
    cases opened
  | known _ _ _ ended =>
    rw [Opened, (idle ended).1] at opened
    cases opened
  | opened _ place _ _ own framed result called _ =>
    rw [Opened, called] at opened
    cases List.mem_singleton.mp opened
    exact ⟨place, _, result, congrArg _ own, framed⟩
  | refused _ _ _ _ _ called _ =>
    rw [Opened, called] at opened
    cases List.mem_singleton.mp opened

/-! ### The table -/

/-- The handles of a bus are those of the requests that opened a target. -/
def Table (bus : Bus) (gone : List (Inquiry σ τ)) : Prop :=
  ∀ (address : TargetAddress) (handle : Handle), bus.handle? address = some handle ↔
    ∃ opener ∈ gone, opener.Opened address.value ∧ opener.outcome.result = .ok handle

theorem table_nil {bus : Bus} (fresh : bus.handles = []) : Table bus ([] : List (Inquiry σ τ)) := by
  intro address handle
  simp [Bus.handle?, fresh]

theorem Table.unopened (table : Table inquiry.start.bus.register earlier)
    (unopened : ∀ address, ¬ inquiry.Opened address)
    (same : inquiry.finish.bus = inquiry.start.bus) :
    Table inquiry.finish.bus.register (earlier ++ [inquiry]) := by
  intro address handle
  rw [same, table address handle]
  simp [unopened]

/-- **A request keeps the table.** -/
theorem Table.snoc (table : Table inquiry.start.bus.register earlier) :
    Table inquiry.finish.bus.register (earlier ++ [inquiry]) := by
  cases inquiry.comes with
  | outOfRange _ ended =>
    obtain ⟨silent, same⟩ := Inquiry.idle ended
    exact table.unopened (fun _ => by rw [Inquiry.Opened, silent]; exact nofun) (by rw [same])
  | known _ _ _ ended =>
    obtain ⟨silent, same⟩ := Inquiry.idle ended
    exact table.unopened (fun _ => by rw [Inquiry.Opened, silent]; exact nofun) (by rw [same])
  | refused _ _ _ _ _ called ended =>
    refine table.unopened (fun address opened => ?_) ended
    rw [Inquiry.Opened, called] at opened
    cases List.mem_singleton.mp opened
  | @opened address handle _ free _ own _ result called ended =>
    subst own
    have own : ∀ address : TargetAddress,
        inquiry.Opened address.value ↔ handle.address = address := by
      intro address
      rw [Inquiry.Opened, called, List.mem_singleton, Event.openTarget.injEq]
      exact ⟨fun same => TargetAddress.eq_of_value same.1.symm, fun same => by rw [same]; simp⟩
    intro address other
    rw [ended, handle?_withHandle free]
    simp only [List.mem_append, List.mem_singleton, or_and_right, exists_or, exists_eq_left, own,
      result, Except.ok.injEq]
    -- for its own address the table had nothing so far, and for the others nothing is new
    by_cases here : handle.address = address
    · subst here
      have none_before : ¬ ∃ opener ∈ earlier, opener.Opened handle.address.value ∧
          opener.outcome.result = .ok other := by
        rw [← table, free]
        exact nofun
      simp [none_before]
    · simp [here, table address other]

theorem Inquiry.held {handle : Handle} (got : inquiry.outcome.result = .ok handle) :
    handle.address.value = inquiry.request.address ∧
      handle.framing = inquiry.request.framing ∧
      inquiry.finish.bus.register.handle? handle.address = some handle := by
  cases inquiry.comes with
  | outOfRange _ ended =>
    rw [ended] at got
    cases got
  | @known address found place there ended =>
    rw [ended] at got
    by_cases same : found.framing = inquiry.request.framing
    · rw [if_pos same] at got
      cases got
      have here : handle.address = address := by simpa using List.find?_some there
      rw [finish, ended, here]
      exact ⟨place.symm, same, there⟩
    · rw [if_neg same] at got
      cases got
  | opened _ place free _ own framed result _ ended =>
    cases result.symm.trans got
    subst own
    rw [ended, handle?_withHandle free, if_pos rfl]
    exact ⟨place.symm, framed, rfl⟩
  | refused _ _ _ _ result _ _ => cases result.symm.trans got

/-! ### What a request comes to after others -/

/-- How a request follows on the ones made before it. -/
structure Inquiry.Follows (inquiry : Inquiry σ τ) (earlier : List (Inquiry σ τ)) : Prop where
  /-- An address above seven bits is turned away, without a call and without a trace. -/
  outOfRange : ¬ inquiry.request.address ≤ maxTargetAddress → inquiry.outcome =
    ⟨.error (.contractViolation .targetAddressRange), .empty, inquiry.start⟩
  /-- An open target has the handle that it was opened with, and only under the same framing. -/
  known : ∀ opener ∈ earlier, opener.Opened inquiry.request.address →
    ∃ handle, opener.outcome.result = .ok handle ∧ inquiry.outcome =
      ⟨if opener.request.framing = inquiry.request.framing then .ok handle
        else .error (.contractViolation .framingMismatch), .empty, inquiry.start⟩
  /-- A free address is opened, under whatever framing, or it stays free. -/
  free : inquiry.request.address ≤ maxTargetAddress →
    (∀ opener ∈ earlier, ¬ opener.Opened inquiry.request.address) →
      let failure := (Devices.openTarget inquiry.request.address inquiry.start.devices).1
      inquiry.calls = [.openTarget inquiry.request.address failure] ∧
        (failure = none → ∃ handle, inquiry.outcome.result = .ok handle ∧
          handle.address.value = inquiry.request.address ∧
          handle.framing = inquiry.request.framing) ∧
        ∀ fault, failure = some fault →
          inquiry.outcome.result = .error fault ∧ inquiry.finish.bus = inquiry.start.bus
  /-- Whoever gets a handle gets the one that somebody asked for in the same way and opened. -/
  got : ∀ handle, inquiry.outcome.result = .ok handle →
    handle.address.value = inquiry.request.address ∧ handle.framing = inquiry.request.framing ∧
      ∃ opener ∈ earlier ++ [inquiry], opener.Opened inquiry.request.address ∧
        opener.request.address = inquiry.request.address ∧
        opener.request.framing = inquiry.request.framing ∧ opener.outcome.result = .ok handle

/-- **A request follows on the ones before it, if the table is theirs.** -/
theorem Inquiry.follows (table : Table inquiry.start.bus.register earlier) :
    inquiry.Follows earlier where
  outOfRange outside := by
    rw [outcome, openHandle_outOfRange _ outside]
  known opener among opened := by
    obtain ⟨_, handle, result, place, framed⟩ := opened.answer
    rw [← place] at opened
    have known := (table handle.address handle).mpr ⟨opener, among, opened, result⟩
    refine ⟨handle, result, ?_⟩
    rw [outcome, ← place, openHandle_known _ known, framed]
  free inRange unopened := by
    cases inquiry.comes with
    | outOfRange outside _ => exact absurd inRange outside
    | known _ place found _ =>
      obtain ⟨opener, among, opened, -⟩ := (table _ _).mp found
      exact absurd (place ▸ opened) (unopened opener among)
    | opened _ place _ answered own framed result called _ =>
      rw [place, answered]
      exact ⟨called, fun _ => ⟨_, result, congrArg _ own, framed⟩, nofun⟩
    | refused _ place _ answered result called ended =>
      rw [place, answered]
      refine ⟨called, nofun, fun fault same => ?_⟩
      cases same
      exact ⟨result, ended⟩
  got handle got := by
    obtain ⟨place, framed, there⟩ := held got
    obtain ⟨opener, among, opened, result⟩ := (table.snoc _ _).mp there
    obtain ⟨own, _, same, -, alike⟩ := opened.answer
    cases result.symm.trans same
    refine ⟨place, framed, opener, among, place ▸ opened, own.trans place, ?_, result⟩
    rw [← alike, framed]

end Requests

section Histories

variable {start : Rig σ (Shared τ)}

/-- At every request the table is that of the requests before it, and at the end that of all. -/
theorem inquiries_table (requests : List Request) (fresh : start.bus.register.handles = []) :
    (∀ earlier inquiry later, inquiries requests start = earlier ++ inquiry :: later →
      Table inquiry.start.bus.register earlier) ∧
      ∃ last : Rig σ (Shared τ), Table last.bus.register (inquiries requests start) := by
  obtain ⟨last, path⟩ := inquiries_path requests start
  refine ⟨fun earlier inquiry later split => ?_, last, ?_⟩
  · rw [split] at path
    exact path.reach (fun gone rig => Table rig.bus.register gone) (table_nil fresh)
      fun _ _ _ table => table.snoc
  · exact path.gather (fun gone rig => Table rig.bus.register gone) (table_nil fresh)
      fun _ _ _ table => table.snoc

/-- Every request follows on the ones before it. -/
def Chained (run : List (Inquiry σ τ)) : Prop :=
  ∀ earlier inquiry later, run = earlier ++ inquiry :: later → inquiry.Follows earlier

section Chains

variable {run : List (Inquiry σ τ)}

theorem Chained.not_reopened (chained : Chained run) {address : UInt8} {failure : Option Fault}
    {before after : List Event}
    (calls : run.flatMap Inquiry.calls = before ++ .openTarget address none :: after) :
    .openTarget address failure ∉ after := by
  intro again
  obtain ⟨earlier, opener, later, inside, rest, split, called, rfl, rfl⟩ := flatMap_split calls
  have opened : opener.Opened address := by
    rw [Inquiry.Opened, called]
    exact List.mem_append_right _ List.mem_cons_self
  obtain ⟨_, _, single⟩ := Inquiry.own_call opened
  -- the opening is all that its request calls, so an opening after it is a later request's
  have nothing : rest = [] := by
    have one := congrArg List.length (called.symm.trans single)
    rw [List.length_append, List.length_cons, List.length_singleton] at one
    exact List.eq_nil_of_length_eq_zero (by omega)
  rw [nothing, List.nil_append] at again
  obtain ⟨inquiry, among, made⟩ := List.mem_flatMap.mp again
  obtain ⟨between, further, rfl⟩ := List.append_of_mem among
  obtain ⟨_, same, -⟩ := Inquiry.own_call made
  obtain ⟨rfl, -⟩ := Event.openTarget.inj same
  obtain ⟨_, -, ended⟩ := (chained (earlier ++ opener :: between) inquiry further
    (by rw [split, List.append_assoc, List.cons_append])).known opener
    (List.mem_append_right _ List.mem_cons_self) opened
  rw [(Inquiry.idle ended).1] at made
  cases made

/-- Whoever got a handle, it stands in the table that the run leaves. -/
theorem Chained.stands (chained : Chained run) {bus : Bus} (table : Table bus run)
    {inquiry : Inquiry σ τ} (member : inquiry ∈ run) {handle : Handle}
    (got : inquiry.outcome.result = .ok handle) :
    handle.address.value = inquiry.request.address ∧ bus.handle? handle.address = some handle := by
  obtain ⟨earlier, later, split⟩ := List.append_of_mem member
  obtain ⟨place, -, opener, there, opened, -, -, result⟩ :=
    (chained earlier inquiry later split).got handle got
  refine ⟨place, (table _ _).mpr ⟨opener, ?_, place.symm ▸ opened, result⟩⟩
  rw [split, List.append_cons]
  exact List.mem_append_left _ there

end Chains

/-- **Handles are opened once.** After a target was opened no call opens it again, and all requests
for one address that got a handle got the same one; how each request follows on the ones before it
is for every history of requests, on devices that refuse any of the calls. -/
theorem handles_opened_once (requests : List Request) (fresh : start.bus.register.handles = []) :
    let run := inquiries requests start
    (∀ address failure before after,
      run.flatMap Inquiry.calls = before ++ .openTarget address none :: after →
        .openTarget address failure ∉ after) ∧
      (∀ first ∈ run, ∀ second ∈ run, ∀ handle other,
        first.request.address = second.request.address → first.outcome.result = .ok handle →
          second.outcome.result = .ok other → handle = other) ∧
      ∀ earlier inquiry later, run = earlier ++ inquiry :: later → inquiry.Follows earlier := by
  intro run
  obtain ⟨tables, last, table⟩ := inquiries_table requests fresh
  have chained : Chained run := fun earlier inquiry later split =>
    Inquiry.follows (tables earlier inquiry later split)
  refine ⟨fun _ _ _ _ calls => chained.not_reopened calls, ?_, chained⟩
  intro first among second also handle other same one two
  obtain ⟨place, there⟩ := chained.stands table among one
  obtain ⟨position, here⟩ := chained.stands table also two
  have alike : handle.address = other.address :=
    TargetAddress.eq_of_value (place.trans (same.trans position.symm))
  rw [alike, here] at there
  exact (Option.some.inj there).symm

/-- The target cannot be opened at first, under register framing, and then it can, bare. From then
on it is bare, and an address above seven bits in between changes nothing. -/
theorem handles_second_attempt :
    let absent : Fault := .openFailed "/dev/i2c-1" .timedOut
    let refused : Bench.Board Unit :=
      (Bench.Board.fresh []).planned [⟨.openTarget, 0, .fault absent⟩]
    let start : Rig (Bench.Board Unit) (Shared Unit) := ⟨refused, .fresh, ()⟩
    let run := inquiries [⟨0x76, .register⟩, ⟨0x76, .bare⟩, ⟨200, .bare⟩, ⟨0x76, .register⟩,
      ⟨0x76, .bare⟩] start
    run.map (·.outcome.result) = [.error absent,
        .ok ⟨⟨0x76, by decide⟩, .bare, 0⟩, .error (.contractViolation .targetAddressRange),
        .error (.contractViolation .framingMismatch), .ok ⟨⟨0x76, by decide⟩, .bare, 0⟩] ∧
      run.flatMap Inquiry.calls =
        [.openTarget 0x76 (some absent), .openTarget 0x76 none] ∧
      ∀ earlier inquiry later, run = earlier ++ inquiry :: later → inquiry.Follows earlier := by
  intro absent refused start run
  refine ⟨rfl, by decide +kernel, ?_⟩
  exact (handles_opened_once _ (show start.bus.register.handles = [] from rfl)).2.2

end Histories

end SensorCape.Register
