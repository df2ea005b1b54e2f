/-
**Transfers over a handle.**

A write is one call that carries the whole frame. A read has two phases: the register's address goes
out first, if the framing asks for it, and the data phase is due once the address was taken. Either
of them can be refused or come short, and the caller of a read hears of a failed read both times. A
device that puts into the buffer what it claims leaves no byte of a full read to the padding.

* `Handle.writes`, `Handle.reads`: what a write and a read come to, from any state of the devices.
* `Handle.read_shows`: a full read after its address shows the contents of the target from there.
* `handle_transfers`: **transfers are exact after every history of uses**, and of that history the
  bytes of a register tell nothing.
-/

import SensorCape.Bench.Board
import SensorCape.Proofs.Serial.FirstFault
import SensorCape.Register.Handle

set_option linter.unusedSectionVars false

namespace SensorCape

/-! ### Full counts -/

/-- A device moved all of the bytes that it was asked to move. -/
def Count.Covers (count : Count) (expected : Nat) : Prop :=
  ∃ moved, count = .moved moved ∧ expected ≤ moved

theorem Count.not_covers {count : Count} {expected : Nat} :
    ¬ count.Covers expected ↔
      (∃ cause, count = .refused cause) ∨ ∃ moved, count = .moved moved ∧ moved < expected := by
  cases count with
  | moved bytes => simp [Covers]
  | refused cause => simp [Covers]

theorem checkWritten_of_covers {expected : Nat} {count : Count} (covers : count.Covers expected) :
    ∃ moved, checkWritten expected count = .ok moved := by
  obtain ⟨moved, rfl, enough⟩ := covers
  exact ⟨moved, by rw [checkWritten, if_pos enough]⟩

theorem checkWritten_of_not_covers {expected : Nat} {count : Count}
    (lacks : ¬ count.Covers expected) :
    ∃ cause, checkWritten expected count = .error (.writeFailed expected cause) := by
  rcases Count.not_covers.mp lacks with ⟨cause, rfl⟩ | ⟨moved, rfl, short⟩
  · exact ⟨cause, rfl⟩
  · exact ⟨_, by rw [checkWritten, if_neg (Nat.not_le.mpr short)]⟩

theorem checkRead_of_covers {expected : Nat} {count : Count} (covers : count.Covers expected) :
    ∃ moved, checkRead expected count = .ok moved := by
  obtain ⟨moved, rfl, enough⟩ := covers
  exact ⟨moved, by rw [checkRead, if_pos enough]⟩

theorem checkRead_of_not_covers {expected : Nat} {count : Count} (lacks : ¬ count.Covers expected) :
    ∃ cause, checkRead expected count = .error (.readFailed expected cause) := by
  rcases Count.not_covers.mp lacks with ⟨cause, rfl⟩ | ⟨moved, rfl, short⟩
  · exact ⟨cause, rfl⟩
  · exact ⟨_, by rw [checkRead, if_neg (Nat.not_le.mpr short)]⟩

namespace Register

variable {σ τ : Type} [Devices σ] {rig : Rig σ τ}

/-- A target puts at least as many bytes into the buffer as it claims to, as far as the buffer
goes. -/
def Truthful (σ : Type) [Devices σ] (address : UInt8) : Prop :=
  ∀ (length : Nat) (devices : σ) (moved : Nat),
    (Devices.readTarget address length devices).1.count = .moved moved →
      min moved length ≤ (Devices.readTarget address length devices).1.bytes.length

/-- What a truthful target leaves in a buffer that it claims to have filled is all its own. -/
theorem Truthful.buffered {address : UInt8} {length : Nat} {devices : σ}
    (truthful : Truthful σ address)
    (covers : (Devices.readTarget address length devices).1.count.Covers length) :
    let bytes := (Devices.readTarget address length devices).1.bytes
    buffered length bytes = bytes.take length ∧ (bytes.take length).length = length := by
  intro bytes
  obtain ⟨moved, claimed, enough⟩ := covers
  have supplied := truthful length devices moved claimed
  rw [Nat.min_eq_right enough] at supplied
  refine ⟨?_, List.length_take_of_le supplied⟩
  rw [SensorCape.buffered, List.take_append_of_le_length supplied]

/-! ### Single calls -/

section Calls

variable {address : TargetAddress}

theorem send_apply (data : List UInt8) :
    let taken := Devices.writeTarget address.value data rig.devices
    send address data rig = ⟨(checkWritten data.length taken.1).map fun _ => (),
      ⟨[.writeTarget address.value data taken.1], [], []⟩, ⟨taken.2, rig.bus⟩⟩ := by
  simp only [send, Action.bind_apply, Rig.call]
  cases checkWritten data.length (Devices.writeTarget address.value data rig.devices).1 with
  | ok moved => rfl
  | error fault => rfl

theorem receive_apply (length : Nat) :
    let filling := Devices.readTarget address.value length rig.devices
    receive address length rig = ⟨(checkRead length filling.1.count).map
        fun _ => buffered length filling.1.bytes,
      ⟨[.readTarget address.value length filling.1.count], [], []⟩, ⟨filling.2, rig.bus⟩⟩ := by
  simp only [receive, Action.bind_apply, Rig.call]
  cases checkRead length (Devices.readTarget address.value length rig.devices).1.count with
  | ok moved => rfl
  | error fault => rfl

theorem steady_send (data : List UInt8) : Steady (send address data : OnBus σ τ Unit) :=
  steady_bind (fun _ => rfl) fun _ => steady_bind (steady_ofExcept _) fun _ => steady_pure ()

/-- Reading a register changes nothing that the buses remember. -/
theorem steady_read (handle : Handle) (register : UInt8) (length : Nat) :
    Steady (handle.read register length : OnBus σ τ (List UInt8)) := by
  refine steady_bind ?_ fun _ => steady_bind (fun _ => rfl) fun _ =>
    steady_bind (steady_ofExcept _) fun _ => steady_pure _
  unfold Handle.point
  cases handle.framing with
  | register => exact steady_send [register]
  | bare => exact steady_pure ()

end Calls

/-! ### Writes -/

namespace Handle

variable {handle : Handle} {register : UInt8}

/-- What the target answers to the frame of a write. -/
def taken (handle : Handle) (register : UInt8) (data : List UInt8) (devices : σ) : Count :=
  (Devices.writeTarget handle.address.value (handle.framing.frame register data) devices).1

/-- A write of a payload to a register is one call with the whole frame, and it succeeds exactly if
the target took all of that. -/
structure Writes (handle : Handle) (register : UInt8) (data : List UInt8) (rig : Rig σ τ) :
    Prop where
  called : (handle.write register data rig).journal.events =
    [.writeTarget handle.address.value (handle.framing.frame register data)
      (handle.taken register data rig.devices)]
  succeeds : (handle.write register data rig).result = .ok () ↔
    (handle.taken register data rig.devices).Covers (handle.framing.frame register data).length
  fails : ∀ fault, (handle.write register data rig).result = .error fault →
    ∃ cause, fault = .writeFailed (handle.framing.frame register data).length cause

/-- **What a write comes to.** -/
theorem writes (data : List UInt8) : handle.Writes register data rig := by
  have applied : handle.write register data rig = _ := send_apply _
  have called : (handle.write register data rig).journal.events =
      [.writeTarget handle.address.value (handle.framing.frame register data)
        (handle.taken register data rig.devices)] := by
    rw [applied]
    rfl
  have ended : (handle.write register data rig).result =
      (checkWritten (handle.framing.frame register data).length
        (handle.taken register data rig.devices)).map fun _ => () := by
    rw [applied]
    rfl
  by_cases covers : Count.Covers (handle.taken register data rig.devices)
      (handle.framing.frame register data).length
  · obtain ⟨moved, checked⟩ := checkWritten_of_covers covers
    rw [checked] at ended
    exact ⟨called, iff_of_true ended covers, fun fault got => by cases ended.symm.trans got⟩
  · obtain ⟨cause, checked⟩ := checkWritten_of_not_covers covers
    rw [checked] at ended
    refine ⟨called, iff_of_false (fun got => ?_) covers, fun fault got => ⟨cause, ?_⟩⟩
    · cases ended.symm.trans got
    · exact (Except.error.inj (ended.symm.trans got)).symm

/-! ### Reads -/

/-- The call of the address phase, which carries the register's address and nothing else, and which
there is under register framing only. -/
def addressing (handle : Handle) (register : UInt8) (devices : σ) : List Event :=
  match handle.framing with
  | .register => [.writeTarget handle.address.value [register]
      (Devices.writeTarget handle.address.value [register] devices).1]
  | .bare => []

/-- The devices after the address phase. -/
def addressed (handle : Handle) (register : UInt8) (devices : σ) : σ :=
  match handle.framing with
  | .register => (Devices.writeTarget handle.address.value [register] devices).2
  | .bare => devices

/-- The data phase of a read is due: if its address went out, it was taken. -/
def Due (handle : Handle) (register : UInt8) (devices : σ) : Prop :=
  handle.framing = .register →
    (Devices.writeTarget handle.address.value [register] devices).1.Covers 1

/-- What the target answers to the data phase of a read. -/
def filling (handle : Handle) (register : UInt8) (length : Nat) (devices : σ) : Filling :=
  (Devices.readTarget handle.address.value length (handle.addressed register devices)).1

/-- A read begins with its address phase, goes on to the data phase exactly if that is due, and
succeeds exactly if the target then fills the whole buffer, with the bytes that it put there. -/
structure Reads (handle : Handle) (register : UInt8) (length : Nat) (rig : Rig σ τ) : Prop where
  due : handle.Due register rig.devices → (handle.read register length rig).journal.events =
    handle.addressing register rig.devices ++
      [.readTarget handle.address.value length (handle.filling register length rig.devices).count]
  refused : ¬ handle.Due register rig.devices →
    (handle.read register length rig).journal.events = handle.addressing register rig.devices
  succeeds : ∀ bytes, (handle.read register length rig).result = .ok bytes ↔
    handle.Due register rig.devices ∧
      (handle.filling register length rig.devices).count.Covers length ∧
      bytes = (handle.filling register length rig.devices).bytes.take length
  exact : ∀ bytes, (handle.read register length rig).result = .ok bytes → bytes.length = length
  fails : ∀ fault, (handle.read register length rig).result = .error fault →
    ∃ cause, fault = .readFailed length cause

/-- An address phase that leads on to the data phase. -/
theorem point_of_due (length : Nat) (due : handle.Due register rig.devices) :
    handle.point register length rig = ⟨.ok (), ⟨handle.addressing register rig.devices, [], []⟩,
      ⟨handle.addressed register rig.devices, rig.bus⟩⟩ := by
  unfold point addressing addressed
  cases framed : handle.framing with
  | bare => rfl
  | register =>
    obtain ⟨moved, checked⟩ := checkWritten_of_covers (due framed)
    show Action.relabel _ _ rig = _
    unfold Action.relabel
    rw [send_apply, show [register].length = 1 from rfl, checked]
    rfl

/-- An address phase that ends the read, with a fault of the read. -/
theorem point_of_not_due (length : Nat) (refused : ¬ handle.Due register rig.devices) :
    ∃ cause devices, handle.point register length rig = ⟨.error (.readFailed length cause),
      ⟨handle.addressing register rig.devices, [], []⟩, ⟨devices, rig.bus⟩⟩ := by
  obtain ⟨framed, lacks⟩ := Classical.not_imp.mp refused
  obtain ⟨cause, checked⟩ := checkWritten_of_not_covers lacks
  refine ⟨cause, (Devices.writeTarget handle.address.value [register] rig.devices).2, ?_⟩
  unfold point addressing
  rw [framed]
  show Action.relabel _ _ rig = _
  unfold Action.relabel
  rw [send_apply, show [register].length = 1 from rfl, checked]
  rfl

/-- A read whose data phase is due ends as that does. -/
theorem read_of_due (length : Nat) (due : handle.Due register rig.devices) :
    (handle.read register length rig).result =
        (checkRead length (handle.filling register length rig.devices).count).map
          (fun _ => buffered length (handle.filling register length rig.devices).bytes) ∧
      (handle.read register length rig).journal.events =
        handle.addressing register rig.devices ++ [.readTarget handle.address.value length
          (handle.filling register length rig.devices).count] := by
  have applied : handle.read register length rig = _ := Action.bind_ok
    (congrArg Outcome.result (point_of_due length due)) fun _ => receive handle.address length
  rw [point_of_due length due, receive_apply] at applied
  rw [applied]
  exact ⟨rfl, rfl⟩

theorem read_of_not_due (length : Nat) (refused : ¬ handle.Due register rig.devices) :
    (∃ cause, (handle.read register length rig).result = .error (.readFailed length cause)) ∧
      (handle.read register length rig).journal.events =
        handle.addressing register rig.devices := by
  obtain ⟨cause, devices, stopped⟩ := point_of_not_due length refused
  have applied : handle.read register length rig = _ := Action.bind_error
    (congrArg Outcome.result stopped) fun _ => receive handle.address length
  rw [applied, stopped]
  exact ⟨⟨cause, rfl⟩, rfl⟩

/-- A read that a target did not refuse and did not fall short of. -/
def Full (handle : Handle) (register : UInt8) (length : Nat) (devices : σ) : Prop :=
  handle.Due register devices ∧ (handle.filling register length devices).count.Covers length

/-- A full read returns the buffer as the target has left it. -/
theorem read_of_full {length : Nat} (full : handle.Full register length rig.devices) :
    (handle.read register length rig).result =
      .ok (buffered length (handle.filling register length rig.devices).bytes) := by
  obtain ⟨due, covers⟩ := full
  obtain ⟨moved, checked⟩ := checkRead_of_covers covers
  rw [(read_of_due length due).1, checked]
  rfl

theorem read_of_not_full {length : Nat} (lacks : ¬ handle.Full register length rig.devices) :
    ∃ cause, (handle.read register length rig).result = .error (.readFailed length cause) := by
  by_cases due : handle.Due register rig.devices
  · obtain ⟨cause, checked⟩ := checkRead_of_not_covers fun covers => lacks ⟨due, covers⟩
    refine ⟨cause, ?_⟩
    rw [(read_of_due length due).1, checked]
    rfl
  · exact (read_of_not_due length due).1

/-- **A read succeeds exactly if it is full.** -/
theorem read_ok_iff {length : Nat} {bytes : List UInt8} :
    (handle.read register length rig).result = .ok bytes ↔
      handle.Full register length rig.devices ∧
        bytes = buffered length (handle.filling register length rig.devices).bytes := by
  by_cases full : handle.Full register length rig.devices
  · rw [read_of_full full, Except.ok.injEq]
    exact ⟨fun same => ⟨full, same.symm⟩, fun ⟨_, same⟩ => same.symm⟩
  · obtain ⟨cause, ended⟩ := read_of_not_full full
    rw [ended]
    exact iff_of_false nofun fun ⟨filled, _⟩ => full filled

/-- **What a read comes to**, on targets that put into the buffer what they claim. -/
theorem reads (truthful : Truthful σ handle.address.value) (length : Nat) :
    handle.Reads register length rig := by
  have calls (due : handle.Due register rig.devices) := (read_of_due length due).2
  have stopped (refused : ¬ handle.Due register rig.devices) := (read_of_not_due length refused).2
  have own (covers : (handle.filling register length rig.devices).count.Covers length) :
      buffered length (handle.filling register length rig.devices).bytes =
        (handle.filling register length rig.devices).bytes.take length :=
    (truthful.buffered covers).1
  refine ⟨calls, stopped, fun bytes => ?_, fun bytes got => ?_, fun fault got => ?_⟩
  · rw [read_ok_iff]
    exact ⟨fun ⟨full, same⟩ => ⟨full.1, full.2, same.trans (own full.2)⟩,
      fun ⟨due, covers, same⟩ => ⟨⟨due, covers⟩, same.trans (own covers).symm⟩⟩
  · rw [(read_ok_iff.mp got).2]
    exact buffered_length _ _
  · by_cases full : handle.Full register length rig.devices
    · cases (read_of_full full).symm.trans got
    · obtain ⟨cause, ended⟩ := read_of_not_full full
      exact ⟨cause, (Except.error.inj (ended.symm.trans got)).symm⟩

/-! ### Contents -/

/-- A target has fixed contents and keeps a pointer into them. A write sets the pointer to its first
byte if the target takes that byte, and a read shows the contents from the pointer on. What else
moves the pointer is left open. -/
structure Showing (address : UInt8) (contents : UInt8 → Nat → UInt8) (points : UInt8 → σ → Prop) :
    Prop where
  writes : ∀ (first : UInt8) (rest : List UInt8) (devices : σ),
    (Devices.writeTarget address (first :: rest) devices).1.Covers 1 →
      points first (Devices.writeTarget address (first :: rest) devices).2
  shows : ∀ (start : UInt8) (length : Nat) (devices : σ), points start devices →
    (Devices.readTarget address length devices).1.count.Covers length →
      (Devices.readTarget address length devices).1.bytes.take length =
        (List.range length).map (contents start)

/-- **A full read after its address shows the contents of the target from there.** -/
theorem read_shows {contents : UInt8 → Nat → UInt8} {points : UInt8 → σ → Prop} {length : Nat}
    {bytes : List UInt8} (truthful : Truthful σ handle.address.value)
    (showing : Showing handle.address.value contents points) (framed : handle.framing = .register)
    (got : (handle.read register length rig).result = .ok bytes) :
    bytes = (List.range length).map (contents register) := by
  obtain ⟨due, covers, rfl⟩ := ((reads truthful length).succeeds bytes).mp got
  unfold filling addressed at covers ⊢
  rw [framed] at covers ⊢
  exact showing.shows _ _ _ (showing.writes _ _ _ (due framed)) covers

end Handle

/-! ### Histories -/

/-- What a handle is used for. -/
inductive Use
  | read (register : UInt8) (length : Nat)
  | write (register : UInt8) (data : List UInt8)

/-- The rig after a use of a handle, whatever became of it. -/
def Use.leaves (handle : Handle) (rig : Rig σ τ) : Use → Rig σ τ
  | .read register length => (handle.read register length rig).state
  | .write register data => (handle.write register data rig).state

/-- The rig after some uses of handles, one after the other. -/
def used (history : List (Handle × Use)) (start : Rig σ τ) : Rig σ τ :=
  history.foldl (fun rig (handle, use) => use.leaves handle rig) start

/-- **Transfers over a handle are exact.** After every history of uses, each of which may have
failed, a write makes one call with the whole frame and succeeds exactly if that was taken; a read
sends its address, goes on if that was taken, and succeeds exactly if the buffer is then filled by
the target. On targets with fixed contents the bytes of a register read are those that the target
shows there, so they do not depend on the history, nor on the state of the devices before it. -/
theorem handle_transfers (handle : Handle) (truthful : Truthful σ handle.address.value)
    (history : List (Handle × Use)) (start : Rig σ τ) (register : UInt8) :
    (∀ data, handle.Writes register data (used history start)) ∧
      (∀ length, handle.Reads register length (used history start)) ∧
      ∀ (contents : UInt8 → Nat → UInt8) (points : UInt8 → σ → Prop),
        Handle.Showing handle.address.value contents points → handle.framing = .register →
          ∀ length bytes, (handle.read register length (used history start)).result = .ok bytes →
            bytes = (List.range length).map (contents register) ∧
              ∀ (other : List (Handle × Use)) (before : Rig σ τ) (twin : Handle)
                (more : List UInt8),
                twin.address = handle.address → twin.framing = .register →
                  (twin.read register length (used other before)).result = .ok more →
                    more = bytes := by
  refine ⟨fun _ => Handle.writes _, fun _ => Handle.reads truthful _, ?_⟩
  intro contents points showing framed length bytes got
  have shown := Handle.read_shows truthful showing framed got
  refine ⟨shown, fun other before twin more same also again => ?_⟩
  rw [← same] at truthful showing
  rw [Handle.read_shows truthful showing also again, shown]

section Simulated

variable {ο : Type} {address : UInt8}

theorem truthful_board : Truthful (Bench.Board ο) address := by
  intro length board moved claimed
  simp only [Devices.readTarget, Bench.Board.readTarget] at claimed ⊢
  split at claimed
  · cases claimed
  · cases claimed
    exact Nat.le_of_eq ((List.length_map _).trans List.length_range).symm

theorem showing_board : Handle.Showing address
    (fun start place => address + start + UInt8.ofNat place)
    fun start (board : Bench.Board ο) => board.pointer address = start where
  writes first rest board covers := by
    obtain ⟨moved, counted, -⟩ := covers
    simp only [Devices.writeTarget, Bench.Board.writeTarget] at counted ⊢
    split at counted
    · simp_all [Bench.Board.pointer, Bench.Board.pointed]
    · simp_all
  shows start length board points covers := by
    obtain ⟨moved, counted, enough⟩ := covers
    simp only [Devices.readTarget, Bench.Board.readTarget] at counted ⊢
    split at counted
    · cases counted
    · cases counted
      rw [← points, Nat.min_eq_right enough]
      exact List.take_of_length_le (by simp [Bench.Board.contents])

/-- A short read and a refused write leave the pointer astray, and yet the register is read. -/
theorem handle_transfers_astray :
    let handle : Handle := ⟨⟨0x76, by decide⟩, .register, 0⟩
    let start : Rig (Bench.Board Unit) Unit := ⟨(Bench.Board.fresh []).planned
      [⟨.readTarget, 0, .count 1⟩, ⟨.writeTarget, 1, .cause .timedOut⟩], ()⟩
    let history : List (Handle × Use) := [(handle, .read 0xD0 2), (handle, .write 0x10 [9])]
    (handle.read 0xD0 2 start).result = .error (.readFailed 2 (.shortRead 1 2)) ∧
      (handle.write 0x10 [9] (used (history.take 1) start)).result =
        .error (.writeFailed 2 .timedOut) ∧
      (handle.read 0xF4 2 (used history start)).result = .ok [0x6A, 0x6B] ∧
      handle.Writes 0xF4 [7] (used history start) ∧ handle.Reads 0xF4 2 (used history start) ∧
      ∀ (other : List (Handle × Use)) (before : Rig (Bench.Board Unit) Unit) (more : List UInt8),
        (handle.read 0xF4 2 (used other before)).result = .ok more → more = [0x6A, 0x6B] := by
  intro handle start history
  have got : (handle.read 0xF4 2 (used history start)).result = .ok [0x6A, 0x6B] := by
    refine ((Handle.reads truthful_board 2).succeeds _).mpr ⟨fun _ => ⟨1, ?_, Nat.le_refl _⟩,
      ⟨2, ?_, Nat.le_refl _⟩, ?_⟩
    · decide +kernel
    · decide +kernel
    · decide +kernel
  obtain ⟨writes, reads, shows⟩ := handle_transfers handle truthful_board history start 0xF4
  refine ⟨(faultOf_eq_some _ _).mp (by decide +kernel),
    (faultOf_eq_some _ _).mp (by decide +kernel), got, writes [7], reads 2,
    fun other before more => ?_⟩
  exact (shows _ _ showing_board rfl 2 _ got).2 other before handle more rfl rfl

end Simulated

end Register

end SensorCape
