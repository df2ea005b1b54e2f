/-
**What the extension board is told.**

A tap at the selector of the extension board: the codes that the serial device accepted for it. A
raw write is for the selector if the last exchange before it was the selector's write frame, and
what the device accepted of it counts, whatever became of the operation that made it.

* `accepted`: the codes that went out in a run.
* `leads_writeCode`: a code that is written is accepted if the write succeeds, and may be accepted
  although it fails.
* `leads_setBoard`, `leads_park`: what selecting a route and parking do to the codes accepted and to
  the channel that the bus remembers.
-/

import SensorCape.Proofs.Register.Visits
import SensorCape.Proofs.Serial.Work

set_option linter.unusedSectionVars false

namespace SensorCape.Register

open Serial (ExtensionCode Frame ModuleAddress)

/-! ### The tap -/

/-- A tap at a module: whether the device was last sent the module's write frame, and the bytes that
it has accepted for the module so far. -/
structure Tap where
  addressed : Bool
  taken : List UInt8

/-- The tap of a module after a call. -/
def Tap.next (address : ModuleAddress) (tap : Tap) : Event → Tap
  | .exchange sent _ none => { tap with addressed := sent == [Frame.byte ⟨address, .write⟩] }
  | .write data (.moved count) =>
    if tap.addressed then { tap with taken := tap.taken ++ data.take count } else tap
  | _ => tap

/-- The tap of a module after some calls. -/
def Tap.after (address : ModuleAddress) (tap : Tap) (events : List Event) : Tap :=
  events.foldl (Tap.next address) tap

/-- The tap of a module that nothing was sent to. -/
def Tap.blank : Tap := ⟨false, []⟩

/-- The bytes that the serial device accepted for a module in some calls. -/
def accepted (address : ModuleAddress) (events : List Event) : List UInt8 :=
  (Tap.blank.after address events).taken

variable {address : ModuleAddress} {tap : Tap}

theorem Tap.after_append (events others : List Event) :
    tap.after address (events ++ others) = (tap.after address events).after address others :=
  List.foldl_append

/-- What was accepted stays accepted. -/
theorem Tap.taken_prefix (events : List Event) :
    tap.taken <+: (tap.after address events).taken := by
  induction events generalizing tap with
  | nil => exact List.prefix_rfl
  | cons event rest ih =>
    refine List.IsPrefix.trans ?_ (@ih (tap.next address event))
    unfold next
    split
    · exact List.prefix_rfl
    · split
      · exact List.prefix_append _ _
      · exact List.prefix_rfl
    · exact List.prefix_rfl

theorem accepted_prefix (events others : List Event) :
    accepted address events <+: accepted address (events ++ others) := by
  unfold accepted
  rw [Tap.after_append]
  exact Tap.taken_prefix others

/-- Follows the tap of a module. -/
def tapping (address : ModuleAddress) : Monitor Tap :=
  ⟨Tap.next address, fun _ => True, fun _ _ => True⟩

/-! ### Writing a code -/

section Codes

variable {σ α : Type} {code : UInt8} {before after : List UInt8}

/-- A code was accepted if the action that wrote it succeeded; otherwise it may have been. -/
def Took (code : UInt8) (before after : List UInt8) : Except Fault α → Prop
  | .ok _ => after = before ++ [code]
  | .error _ => after = before ∨ after = before ++ [code]

/-- A later fault can only make less certain what was accepted. -/
theorem took_settled {inner : Except Fault α} {outer : Except Fault Unit}
    (took : Took code before after inner) :
    Took code before after (Action.settled inner outer) := by
  cases inner with
  | error fault => exact took
  | ok value =>
    cases outer with
    | ok _ => exact took
    | error fault => exact .inr took

variable [Devices σ] {bus : Serial.Bus}

theorem leads_drive_tap {τ : Type} {bus : τ} (line : Line) (how : Drive) :
    (tapping address).Leads tap bus (Rig.drive line how : OnBus σ τ Unit)
      fun _ after last => after = tap ∧ last = bus :=
  Monitor.leads_drive (fun _ => ⟨trivial, rfl, rfl⟩) fun _ _ => ⟨trivial, rfl, rfl⟩

/-- A line that is driven first makes no difference to what follows, if that is reached. -/
theorem leads_drive_bind_tap {τ : Type} {bus : τ} {line : Line} {how : Drive}
    {next : Unit → OnBus σ τ α} {post : Except Fault α → Tap → τ → Prop}
    (refused : ∀ fault, post (.error fault) tap bus)
    (follow : (tapping address).Leads tap bus (next ()) post) :
    (tapping address).Leads tap bus (Rig.drive line how >>= next) post := by
  refine Monitor.leads_bind (Monitor.leads_mono (leads_drive_tap _ _) ?_)
  rintro (fault | _) _ _ ⟨rfl, rfl⟩
  · exact refused fault
  · exact follow

/-- An exchange that goes out well turns the device to the module if it is the module's write frame,
and away from it if it is not. -/
theorem leads_strobed_tap (sent : List UInt8) :
    (tapping address).Leads tap bus (Serial.strobed sent : OnBus σ Serial.Bus (List UInt8))
      fun result after last => after.taken = tap.taken ∧ last = bus ∧ ∀ received,
        result = .ok received → after.addressed = (sent == [Frame.byte ⟨address, .write⟩]) := by
  refine leads_drive_bind_tap (fun _ => ⟨rfl, rfl, nofun⟩) ?_
  refine Monitor.leads_ensuring (Serial.leads_exchange (fun received _ => ⟨trivial, ?_⟩)
    fun cause _ => ⟨trivial, ?_⟩)
  · refine Monitor.leads_mono (leads_drive_tap _ _) ?_
    rintro outer _ _ ⟨rfl, rfl⟩
    exact ⟨rfl, rfl, fun _ _ => rfl⟩
  · refine Monitor.leads_mono (leads_drive_tap _ _) ?_
    rintro outer _ _ ⟨rfl, rfl⟩
    exact ⟨rfl, rfl, nofun⟩

/-- A device that is turned to the module takes the code, or none of it. -/
theorem leads_writeRaw_tap (addressed : tap.addressed = true) :
    (tapping address).Leads tap bus (Serial.writeRaw [code] : OnBus σ Serial.Bus Nat)
      fun result after last => Took code tap.taken after.taken result ∧ last = bus := by
  refine Serial.leads_writeRaw fun count _ => ⟨trivial, ?_, rfl⟩
  cases count with
  | refused cause => exact .inl rfl
  | moved bytes =>
    simp only [tapping, Tap.next, addressed, if_true]
    cases bytes with
    | zero => exact .inl (List.append_nil _)
    | succ more =>
      have whole : checkWritten [code].length (.moved (more + 1)) = .ok (more + 1) := by
        simp [checkWritten]
      rw [whole]
      show tap.taken ++ List.take (more + 1) [code] = tap.taken ++ [code]
      rw [List.take_succ_cons, List.take_nil]

/-- Chip-select does not show at the tap. -/
theorem leads_chipSelected_tap {body : OnBus σ Serial.Bus α}
    (leads : (tapping address).Leads tap bus body fun result after last =>
      Took code before after.taken result ∧ last = bus) :
    (tapping address).Leads tap bus (Serial.chipSelected body) fun result after last =>
      Took code before after.taken result ∧ last = bus := by
  refine Monitor.leads_ensuring (Monitor.leads_mono leads ?_)
  rintro inner after _ ⟨took, rfl⟩
  refine Monitor.leads_mono (leads_drive_tap _ _) ?_
  rintro outer _ _ ⟨rfl, rfl⟩
  exact ⟨took_settled took, rfl⟩

theorem leads_pushed_tap :
    (tapping address).Leads tap bus (Serial.pushed address [code] : OnBus σ Serial.Bus Nat)
      fun result after last => Took code tap.taken after.taken result ∧ last = bus := by
  refine Monitor.leads_bind (Monitor.leads_mono (leads_strobed_tap _) ?_)
  rintro (fault | received) framed _ ⟨same, rfl, addressed⟩
  · exact ⟨.inl same, rfl⟩
  have turned : framed.addressed = true := by rw [addressed received rfl, beq_self_eq_true]
  rw [← same]
  refine leads_chipSelected_tap ?_
  refine leads_drive_bind_tap (fun _ => ⟨.inl rfl, rfl⟩) ?_
  refine leads_drive_bind_tap (fun _ => ⟨.inl rfl, rfl⟩) ?_
  refine leads_drive_bind_tap (fun _ => ⟨.inl rfl, rfl⟩) ?_
  exact leads_writeRaw_tap turned

/-- A switch of the profile does not show at the tap. -/
theorem leads_switchTo_tap (profile : Serial.Profile) :
    (tapping address).Leads tap bus (Serial.switchTo profile : OnBus σ Serial.Bus Unit)
      fun _ after last => after = tap ∧ last.extension = bus.extension := by
  have tracks : Serial.Tracks (tapping address) (bus.configuration profile)
      (fun after _ => after = tap) fun _ after _ => after = tap :=
    Serial.Tracks.unwatched (· = tap) (fun _ _ _ _ => trivial) fun after setting failure same => by
      rw [same]
      rfl
  refine Monitor.leads_mono (Serial.leads_switchTo tracks rfl) ?_
  rintro (fault | _) after last reached
  · obtain ⟨same, applied, rfl⟩ := reached
    exact ⟨same, rfl⟩
  · obtain ⟨same, rfl⟩ := reached
    exact ⟨same, rfl⟩

/-- A count that is not one fails the write of a code that was accepted. -/
theorem leads_codeWritten_tap (written : Nat) (took : tap.taken = before ++ [code]) :
    (tapping address).Leads tap bus (Serial.codeWritten code written : OnBus σ Serial.Bus Unit)
      fun result after last =>
        Took code before after.taken result ∧ last.extension = bus.extension := by
  unfold Serial.codeWritten
  by_cases one : written = 1
  · rw [if_pos one]
    exact Monitor.leads_note ⟨took, rfl⟩
  · rw [if_neg one]
    exact Monitor.leads_fail ⟨.inr took, rfl⟩

/-- The code is pushed under the secondary profile, and no switch of the profile undoes it. -/
theorem leads_push_tap :
    (tapping address).Leads tap bus
      ((Serial.Work.push address [code]).run : OnBus σ Serial.Bus Nat) fun result after last =>
        Took code tap.taken after.taken result ∧ last.extension = bus.extension := by
  refine Serial.leads_withProfile (Monitor.leads_mono (leads_switchTo_tap _) ?_)
  rintro (fault | _) _ inner ⟨rfl, entered⟩
  · refine Monitor.leads_mono (leads_switchTo_tap _) ?_
    rintro restored _ last ⟨rfl, left⟩
    exact ⟨.inl rfl, left.trans entered⟩
  · refine Monitor.leads_mono leads_pushed_tap ?_
    rintro result after _ ⟨took, rfl⟩
    refine Monitor.leads_mono (leads_switchTo_tap _) ?_
    rintro restored _ last ⟨rfl, left⟩
    exact ⟨took_settled took, left.trans entered⟩

/-- **A code that was written is accepted, and one that could not be written may be.** -/
theorem leads_writeCode :
    (tapping address).Leads tap bus (Serial.writeCode address code : OnBus σ Serial.Bus Unit)
      fun result after last =>
        Took code tap.taken after.taken result ∧ last.extension = bus.extension := by
  rw [Serial.writeCode_eq]
  refine Monitor.leads_bind (Monitor.leads_mono leads_push_tap ?_)
  rintro (fault | written) after last ⟨took, same⟩
  · exact ⟨took, same⟩
  · rw [← same]
    exact leads_codeWritten_tap written took

end Codes

/-! ### On the register bus -/

section Moves

variable {σ α : Type} [Devices σ] {shared : Shared Serial.Bus}

/-- An action of the selector, seen from the register bus. -/
theorem leads_onSelector {G τ : Type} {watch : Monitor G} {past : G} {shared : Shared τ}
    {body : OnBus σ τ α} {post : Except Fault α → G → Shared τ → Prop}
    (leads : watch.Leads past shared.selector body fun result after selector =>
      post result after { shared with selector }) :
    watch.Leads past shared (onSelector body) post := leads

/-- The bus remembers the same channel, and the selector has the same address. -/
def SameBoard (before after : Shared Serial.Bus) : Prop :=
  after.register.routed = before.register.routed ∧
    after.selector.extension = before.selector.extension

/-- Neither the codes accepted nor what is remembered of the board changes. -/
def LeavesBoard (address : ModuleAddress) (body : OnBoard σ α) : Prop :=
  ∀ (rig : Rig σ (Shared Serial.Bus)) (tap : Tap),
    (tap.after address (body rig).journal.events).taken = tap.taken ∧
      SameBoard rig.bus (body rig).state.bus

theorem leads_readyMux_tap :
    (tapping address).Leads tap shared (readyMux : OnBoard σ Unit)
      fun _ after last => after = tap ∧ SameBoard shared last := by
  refine Monitor.leads_bind (Monitor.leads_memory ?_)
  by_cases ready : shared.register.muxReady = true
  · simp only [ready, if_true]
    exact Monitor.leads_pure ⟨rfl, rfl, rfl⟩
  · simp only [ready, Bool.false_eq_true, if_false]
    refine leads_drive_bind_tap (fun _ => ⟨rfl, rfl, rfl⟩) ?_
    refine leads_drive_bind_tap (fun _ => ⟨rfl, rfl, rfl⟩) ?_
    exact Monitor.leads_remember ⟨rfl, rfl, rfl⟩

/-- The local multiplexer has nothing to do with the board. -/
theorem leads_setMux_tap (route : Route) :
    (tapping address).Leads tap shared (setMux route : OnBoard σ Unit)
      fun _ after last => after = tap ∧ SameBoard shared last := by
  refine Monitor.leads_bind (Monitor.leads_mono leads_readyMux_tap ?_)
  rintro (fault | _) _ middle ⟨rfl, same⟩
  · exact ⟨rfl, same⟩
  refine leads_drive_bind_tap (fun _ => ⟨rfl, same⟩) ?_
  refine Monitor.leads_mono (leads_drive_tap _ _) ?_
  rintro _ _ _ ⟨rfl, rfl⟩
  exact ⟨rfl, same⟩

/-- What a move that writes a code leads to: the code was taken if the move succeeded, and only then
the bus remembers another channel. -/
def Switched (code : UInt8) (target routed : Option ExtensionCode) (before after : List UInt8)
    (result : Except Fault Unit) (last : Option ExtensionCode) : Prop :=
  Took code before after result ∧
    match result with
    | .ok _ => last = target
    | .error _ => last = routed

/-- A code that the selector writes, and then what the bus makes of it. -/
theorem leads_switched {code : UInt8} {target : Option ExtensionCode}
    {body : OnBus σ Serial.Bus Unit}
    (leads : (tapping address).Leads tap shared.selector body fun result after last =>
      Took code tap.taken after.taken result ∧ last.extension = shared.selector.extension) :
    (tapping address).Leads tap shared
      (onSelector body >>= fun _ => rememberBus ({ · with routed := target }) : OnBoard σ Unit)
      fun result after last => last.selector.extension = shared.selector.extension ∧
        Switched code target shared.register.routed tap.taken after.taken result
          last.register.routed := by
  refine Monitor.leads_bind (leads_onSelector (Monitor.leads_mono leads ?_))
  rintro (fault | _) after last ⟨took, same⟩
  · exact ⟨same, took, rfl⟩
  · exact Monitor.leads_remember ⟨same, took, rfl⟩

/-- **Parking writes the parked code**, and the bus forgets its channel only once that succeeded. -/
theorem leads_park (configured : shared.selector.extension = some address) :
    (tapping address).Leads tap shared (Register.park (some .serial) : OnBoard σ Unit)
      fun result after last => last.selector.extension = shared.selector.extension ∧
        Switched 0 none shared.register.routed tap.taken after.taken result
          last.register.routed :=
  leads_switched (Monitor.leads_congr
    (fun _ => Serial.parkExtension_configured configured) leads_writeCode)

/-- **Routing the board writes the code of the channel**, and the bus remembers the channel only
once that succeeded. -/
theorem leads_setBoard {extension : ExtensionCode}
    (configured : shared.selector.extension = some address) :
    (tapping address).Leads tap shared (setBoard (some .serial) (some extension) : OnBoard σ Unit)
      fun result after last => last.selector.extension = shared.selector.extension ∧
        Switched extension.value (some extension) shared.register.routed tap.taken after.taken
          result last.register.routed :=
  leads_switched (Monitor.leads_congr
    (fun _ => Serial.routeExtension_configured configured) leads_writeCode)

end Moves

/-! ### Moves -/

section Visits

variable {σ : Type}

/-- The code that a move is to write, on a bus that remembers a channel: none if a local route is
selected while no channel is remembered. -/
def Move.code? (routed : Option ExtensionCode) : Move σ → Option UInt8
  | .select route =>
    match route.extension with
    | some extension => some extension.value
    | none => if routed.isSome then some 0 else none
  | .park => some 0
  | .work _ => none

/-- The channel that the bus remembers after a move that wrote a code. -/
def Move.target : Move σ → Option ExtensionCode
  | .select route => route.extension
  | .park | .work _ => none

/-- What a move does to the codes accepted and to the channel remembered. -/
def Move.Does (move : Move σ) (result : Except Fault Unit) (routed last : Option ExtensionCode)
    (before after : List UInt8) : Prop :=
  match move.code? routed with
  | some code => Switched code move.target routed before after result last
  | none => after = before ∧ last = routed

/-- A move that fails before it writes its code changes nothing. -/
theorem Move.does_nothing (move : Move σ) (fault : Fault) (routed : Option ExtensionCode)
    (taken : List UInt8) : move.Does (.error fault) routed routed taken taken := by
  unfold Does
  cases move.code? routed with
  | none => exact ⟨rfl, rfl⟩
  | some code => exact ⟨.inl rfl, rfl⟩

variable [Devices σ] {shared : Shared Serial.Bus}

/-- Without a channel of its own, a route parks the board if a channel is remembered. -/
theorem leads_setBoard_local (configured : shared.selector.extension = some address) :
    (tapping address).Leads tap shared (setBoard (some .serial) none : OnBoard σ Unit)
      fun result after last => last.selector.extension = shared.selector.extension ∧
        if shared.register.routed.isSome then
          Switched 0 none shared.register.routed tap.taken after.taken result last.register.routed
        else after.taken = tap.taken ∧ last.register.routed = shared.register.routed := by
  refine Monitor.leads_bind (Monitor.leads_memory ?_)
  by_cases chained : shared.register.routed.isSome = true
  · simp only [chained, if_true]
    exact leads_park configured
  · simp only [chained, Bool.false_eq_true, if_false]
    exact Monitor.leads_pure ⟨rfl, rfl, rfl⟩

/-- **What selecting a route does**, with any fault on the way. -/
theorem leads_selectRoute (route : Route) (configured : shared.selector.extension = some address) :
    (tapping address).Leads tap shared (selectRoute (some .serial) route : OnBoard σ Unit)
      fun result after last => last.selector.extension = some address ∧
        (Move.select route : Move σ).Does result shared.register.routed last.register.routed
          tap.taken after.taken := by
  refine Monitor.leads_bind (Monitor.leads_mono (leads_setMux_tap route) ?_)
  rintro (fault | _) _ middle ⟨rfl, same, kept⟩
  · rw [same]
    exact ⟨kept.trans configured, Move.does_nothing _ _ _ _⟩
  have still : middle.selector.extension = some address := kept.trans configured
  rw [← same]
  cases extension : route.extension with
  | some code =>
    refine Monitor.leads_mono (leads_setBoard still) ?_
    rintro result after last ⟨left, switched⟩
    simp only [Move.Does, Move.code?, Move.target, extension]
    exact ⟨left.trans still, switched⟩
  | none =>
    refine Monitor.leads_mono (leads_setBoard_local still) ?_
    rintro result after last ⟨left, switched⟩
    refine ⟨left.trans still, ?_⟩
    simp only [Move.Does, Move.code?, Move.target, extension]
    by_cases chained : middle.register.routed.isSome = true
    · simpa only [chained, if_true] using switched
    · simpa only [chained, Bool.false_eq_true, if_false] using switched

/-- **What a visit does.** -/
theorem Visit.does (visit : Visit σ) (tap : Tap)
    (configured : visit.start.bus.selector.extension = some address)
    (leaves : ∀ body, visit.move = .work body → LeavesBoard address body) :
    visit.finish.bus.selector.extension = some address ∧
      visit.move.Does visit.result visit.start.bus.register.routed
        visit.finish.bus.register.routed tap.taken (tap.after address visit.events).taken := by
  obtain ⟨move, rig⟩ := visit
  cases move with
  | select route =>
    exact (Monitor.Leads.run tap rig (leads_selectRoute route configured) fun _ _ => trivial).2
  | park =>
    obtain ⟨kept, switched⟩ :=
      (Monitor.Leads.run tap rig (leads_park configured) fun _ _ => trivial).2
    exact ⟨kept.trans configured, switched⟩
  | work body =>
    obtain ⟨taken, routed, kept⟩ := leaves body rfl rig tap
    exact ⟨kept.trans configured, taken, routed⟩

end Visits

end SensorCape.Register
