/-
**Selectors that keep a record.**

What switches the extension board is up to the selector, and what the selector is asked for does not
show in the calls that it makes. So it gets a record beside its memory: each request goes there with
how it ended. The record makes no difference to the run, so what it says at the end was asked for
in the run without it, too.

* `Selector.recorded`: a selector with a record, and `asked`: what an action asks of it.
* `Mirrors`: an action on a bus with a record does what another one does without it.
  `mirrors_transaction` — **work on a route does not depend on the record.**
* `recorded_park`, `recorded_selectRoute`: what parking and selecting a route ask for.
-/

import SensorCape.Proofs.Register.Selection
import SensorCape.Proofs.Register.Transfers

set_option linter.unusedSectionVars false

namespace SensorCape.Register

open Serial (ExtensionCode)

variable {σ τ α β : Type} [Devices σ]

/-! ### Records -/

/-- What a selector can be asked for. -/
inductive Ask
  | route (code : ExtensionCode)
  | park
  deriving DecidableEq

/-- The code that the board is to be switched to. -/
def Ask.code : Ask → UInt8
  | route code => code.value
  | park => Serial.parkedCode

/-- Something that a selector was asked for, and whether it did it. -/
structure Asked where
  ask : Ask
  done : Bool
  deriving DecidableEq

/-- The codes that a selector has accepted. -/
def acceptedCodes (record : List Asked) : List UInt8 :=
  (record.filter Asked.done).map (·.ask.code)

/-- Asks a selector for something, and enters that in its record. -/
def recording (ask : Ask) (body : OnBus σ τ Unit) : OnBus σ (τ × List Asked) Unit := fun rig =>
  let outcome := body ⟨rig.devices, rig.bus.1⟩
  ⟨outcome.result, outcome.journal, ⟨outcome.state.devices,
    (outcome.state.bus, rig.bus.2 ++ [⟨ask, outcome.result.isOk⟩])⟩⟩

/-- A selector with a record. -/
def Selector.recorded (board : Selector σ τ) : Selector σ (τ × List Asked) :=
  ⟨fun code => recording (.route code) (board.route code), recording .park board.park⟩

/-- The record of a bus. -/
def record (shared : Shared (τ × List Asked)) : List Asked := shared.selector.2

/-- A rig without its record. -/
def forgetting (rig : Rig σ (Shared (τ × List Asked))) : Rig σ (Shared τ) :=
  ⟨rig.devices, ⟨rig.bus.register, rig.bus.selector.1⟩⟩

/-- A rig with an empty record. -/
def unrecorded (rig : Rig σ (Shared τ)) : Rig σ (Shared (τ × List Asked)) :=
  ⟨rig.devices, ⟨rig.bus.register, (rig.bus.selector, [])⟩⟩

/-- What an action asks of a selector with a record. -/
def asked (body : OnBus σ (Shared (τ × List Asked)) α) (rig : Rig σ (Shared τ)) : List Asked :=
  record (body (unrecorded rig)).state.bus

/-! ### The record makes no difference -/

/-- An action on a bus with a record does what another action does on the bus without it. -/
def Mirrors (body : OnBus σ (Shared (τ × List Asked)) α) (plain : OnBus σ (Shared τ) α) : Prop :=
  ∀ rig, plain (forgetting rig) =
    ⟨(body rig).result, (body rig).journal, forgetting (body rig).state⟩

section Mirrored

variable {body : OnBus σ (Shared (τ × List Asked)) α} {plain : OnBus σ (Shared τ) α}

theorem mirrors_pure (value : α) :
    Mirrors (pure value : OnBus σ (Shared (τ × List Asked)) α) (pure value) := fun _ => rfl

theorem mirrors_fail (fault : Fault) :
    Mirrors (Action.fail fault : OnBus σ (Shared (τ × List Asked)) α) (Action.fail fault) :=
  fun _ => rfl

theorem mirrors_ofExcept (result : Except Fault α) :
    Mirrors (Action.ofExcept result : OnBus σ (Shared (τ × List Asked)) α)
      (Action.ofExcept result) := by
  cases result with
  | ok value => exact mirrors_pure value
  | error fault => exact mirrors_fail fault

theorem mirrors_call (ask : σ → α × σ) (event : α → Event) :
    Mirrors (Rig.call ask event : OnBus σ (Shared (τ × List Asked)) α) (Rig.call ask event) :=
  fun _ => rfl

theorem mirrors_rememberBus (change : Bus → Bus) :
    Mirrors (rememberBus change : OnBus σ (Shared (τ × List Asked)) Unit) (rememberBus change) :=
  fun _ => rfl

theorem mirrors_onSelector (ask : Ask) (body : OnBus σ τ Unit) :
    Mirrors (onSelector (recording ask body)) (onSelector body) := fun _ => rfl

theorem mirrors_bind {next : α → OnBus σ (Shared (τ × List Asked)) β}
    {rest : α → OnBus σ (Shared τ) β} (mirrors : Mirrors body plain)
    (follow : ∀ value, Mirrors (next value) (rest value)) :
    Mirrors (body >>= next) (plain >>= rest) := by
  intro rig
  rw [Action.bind_apply, Action.bind_apply, mirrors rig]
  cases (body rig).result with
  | error fault => rfl
  | ok value =>
    simp only
    rw [follow value (body rig).state]

/-- What follows a look at the memory has to agree on whatever it shows. -/
theorem mirrors_memory {next : Shared (τ × List Asked) → OnBus σ (Shared (τ × List Asked)) α}
    {rest : Shared τ → OnBus σ (Shared τ) α} (follow : ∀ register selector record,
      Mirrors (next ⟨register, (selector, record)⟩) (rest ⟨register, selector⟩)) :
    Mirrors (Rig.memory >>= next) (Rig.memory >>= rest) := by
  intro rig
  simp only [Action.bind_apply, Rig.memory, Journal.empty_append]
  exact follow rig.bus.register rig.bus.selector.1 rig.bus.selector.2 rig

theorem mirrors_attempt (mirrors : Mirrors body plain) :
    Mirrors (Action.attempt body) (Action.attempt plain) := by
  intro rig
  simp only [Action.attempt, mirrors rig]

theorem mirrors_relabel (change : Fault → Fault) (mirrors : Mirrors body plain) :
    Mirrors (Action.relabel change body) (Action.relabel change plain) := by
  intro rig
  simp only [Action.relabel, mirrors rig]

theorem mirrors_drive (line : Line) (how : Drive) :
    Mirrors (Rig.drive line how : OnBus σ (Shared (τ × List Asked)) Unit) (Rig.drive line how) := by
  refine mirrors_bind (mirrors_call _ _) fun failure => ?_
  cases (Event.drive line how failure).fault? with
  | none => exact mirrors_pure ()
  | some fault => exact mirrors_fail fault

end Mirrored

section Routes

variable {board : Selector σ τ}

theorem mirrors_setMux (route : Route) :
    Mirrors (setMux route : OnBus σ (Shared (τ × List Asked)) Unit) (setMux route) := by
  refine mirrors_bind (mirrors_memory fun bus _ _ => ?_) fun _ =>
    mirrors_bind (mirrors_drive _ _) fun _ => mirrors_drive _ _
  by_cases ready : bus.muxReady = true
  · simp only [ready, if_true]
    exact mirrors_pure ()
  · simp only [ready, Bool.false_eq_true, if_false]
    exact mirrors_bind (mirrors_drive _ _) fun _ => mirrors_bind (mirrors_drive _ _) fun _ =>
      mirrors_rememberBus _

theorem mirrors_park (board : Selector σ τ) :
    Mirrors (park (some board.recorded)) (park (some board)) :=
  mirrors_bind (mirrors_onSelector _ _) fun _ => mirrors_rememberBus _

theorem mirrors_setBoard (extension : Option ExtensionCode) :
    Mirrors (setBoard (some board.recorded) extension) (setBoard (some board) extension) := by
  cases extension with
  | some code => exact mirrors_bind (mirrors_onSelector _ _) fun _ => mirrors_rememberBus _
  | none =>
    refine mirrors_memory fun bus _ _ => ?_
    by_cases chained : bus.routed.isSome = true
    · simp only [chained, if_true]
      exact mirrors_park board
    · simp only [chained, Bool.false_eq_true, if_false]
      exact mirrors_pure ()

theorem mirrors_selectRoute (route : Route) :
    Mirrors (selectRoute (some board.recorded) route) (selectRoute (some board) route) :=
  mirrors_bind (mirrors_setMux route) fun _ => mirrors_setBoard route.extension

/-- **Work on a route does not depend on the record**, if it does not depend on it itself. -/
theorem mirrors_transaction (route : Route) {work : OnBus σ (Shared (τ × List Asked)) α}
    {plain : OnBus σ (Shared τ) α} (mirrors : Mirrors work plain) :
    Mirrors (transaction (some board.recorded) route work)
      (transaction (some board) route plain) :=
  mirrors_bind (mirrors_selectRoute route) fun _ => mirrors

theorem mirrors_send (address : TargetAddress) (data : List UInt8) :
    Mirrors (send address data : OnBus σ (Shared (τ × List Asked)) Unit) (send address data) :=
  mirrors_bind (mirrors_call _ _) fun _ =>
    mirrors_bind (mirrors_ofExcept _) fun _ => mirrors_pure ()

theorem mirrors_read (handle : Handle) (register : UInt8) (length : Nat) :
    Mirrors (handle.read register length : OnBus σ (Shared (τ × List Asked)) (List UInt8))
      (handle.read register length) := by
  refine mirrors_bind ?_ fun _ => mirrors_bind (mirrors_call _ _) fun _ =>
    mirrors_bind (mirrors_ofExcept _) fun _ => mirrors_pure _
  unfold Handle.point
  cases handle.framing with
  | register => exact mirrors_relabel _ (mirrors_send _ _)
  | bare => exact mirrors_pure ()

end Routes

/-! ### What is asked for -/

/-- Setting the multiplexer changes nothing but whether its lines are ready. -/
theorem keeps_setMux {γ : Type} (view : Shared τ → γ) (route : Route)
    (unseen : ∀ shared : Shared τ,
      view { shared with register := { shared.register with muxReady := true } } = view shared) :
    Keeps view (setMux route : OnBus σ (Shared τ) Unit) := by
  refine keeps_bind (keeps_bind (fun _ => rfl) fun shared => ?_) fun _ =>
    keeps_bind (keeps_of_steady (steady_drive _ _)) fun _ => keeps_of_steady (steady_drive _ _)
  by_cases ready : shared.register.muxReady = true
  · rw [if_pos ready]
    exact keeps_of_steady (steady_pure ())
  · rw [if_neg ready]
    exact keeps_bind (keeps_of_steady (steady_drive _ _)) fun _ =>
      keeps_bind (keeps_of_steady (steady_drive _ _)) fun _ => keeps_remember unseen

section Asking

variable {board : Selector σ τ} {route : Route} (rig : Rig σ (Shared (τ × List Asked)))

theorem recorded_request (ask : Ask) (body : OnBus σ τ Unit) (change : Bus → Bus) :
    let outcome := (onSelector (recording ask body) >>= fun _ => rememberBus change) rig
    record outcome.state.bus = record rig.bus ++ [⟨ask, outcome.result.isOk⟩] := by
  simp only [Action.bind_apply, onSelector, Action.within, recording]
  cases (body ⟨rig.devices, rig.bus.selector.1⟩).result with
  | error fault => rfl
  | ok done => rfl

/-- **Parking the board asks for that, once**, and it succeeds exactly if the selector does. -/
theorem recorded_park (board : Selector σ τ) :
    let parked := park (some board.recorded) rig
    record parked.state.bus = record rig.bus ++ [⟨.park, parked.result.isOk⟩] :=
  recorded_request rig .park board.park _

/-- **Selecting a route with a channel of the board asks for the channel, once**, unless the
multiplexer could not be set. -/
theorem recorded_selectRoute {code : ExtensionCode} (reaches : route.extension = some code) :
    let selected := selectRoute (some board.recorded) route rig
    record selected.state.bus = record rig.bus ++ [⟨.route code, selected.result.isOk⟩] ∨
      record selected.state.bus = record rig.bus ∧ ∃ fault, selected.result = .error fault := by
  have muxed : record (setMux route rig).state.bus = record rig.bus :=
    keeps_setMux record route (fun _ => rfl) rig
  intro selected
  simp only [selected, selectRoute, Action.bind_apply]
  cases (setMux route rig).result with
  | error fault => exact .inr ⟨muxed, fault, rfl⟩
  | ok done =>
    rw [reaches]
    refine .inl ((recorded_request _ (.route code) (board.route code) _).trans ?_)
    rw [muxed]
    rfl

/-- **Selecting a local route asks for nothing**, or for parking, once, if a channel is
remembered. -/
theorem recorded_selectRoute_local (plain : route.extension = none) :
    let selected := selectRoute (some board.recorded) route rig
    record selected.state.bus = record rig.bus ∨ rig.bus.register.routed.isSome ∧
      record selected.state.bus = record rig.bus ++ [⟨.park, selected.result.isOk⟩] := by
  have muxed : record (setMux route rig).state.bus = record rig.bus :=
    keeps_setMux record route (fun _ => rfl) rig
  have still : (setMux route rig).state.bus.register.routed = rig.bus.register.routed :=
    keeps_setMux (·.register.routed) route (fun _ => rfl) rig
  intro selected
  simp only [selected, selectRoute, Action.bind_apply]
  cases (setMux route rig).result with
  | error fault => exact .inl muxed
  | ok done =>
    rw [plain]
    simp only [setBoard, Action.bind_apply, Rig.memory, still]
    by_cases chained : rig.bus.register.routed.isSome = true
    · simp only [chained, if_true]
      refine .inr ⟨trivial, (recorded_park _ board).trans ?_⟩
      rw [muxed]
    · simp only [chained, Bool.false_eq_true, if_false]
      exact .inl muxed

end Asking

end SensorCape.Register
