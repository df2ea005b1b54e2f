/-
**Which selection is in force.**

The flag for the multiplexer lines is raised only when both have become outputs, and no operation
takes it for granted otherwise. So wherever a selection begins, after whatever was half done before
it, it either makes the lines outputs itself or they were made outputs earlier in the run. The rest
it does anew each time: both levels, and the code if there is one.

* `Operation.KeepsSetup`: the work of an operation leaves the flag and the selector's address alone.
* `readied`: the flag stands for two outputs in the calls of the run.
* `selection_in_force`: **what the devices were told last when a route has been selected**, and that
  a failed call of the selection keeps a transaction from beginning its work.
-/

import SensorCape.Bench.Board
import SensorCape.Proofs.Register.Parking
import SensorCape.Proofs.Register.Selection
import SensorCape.Proofs.Register.Transfers

set_option linter.unusedSectionVars false

namespace SensorCape.Register

open Serial (ModuleAddress)

variable {σ α : Type} [Devices σ] {address : ModuleAddress}

/-! ### Work on the side -/

/-- Whether the multiplexer lines are ready, and the address of the selector. -/
def setup (shared : Shared Serial.Bus) : Bool × Option ModuleAddress :=
  (shared.register.muxReady, shared.selector.extension)

/-- The work of an operation leaves the flag and the selector's address alone. -/
def Operation.KeepsSetup : Operation σ → Prop
  | .transaction _ work | .aside work => Keeps setup work
  | .select _ | .park | .poll _ => True

theorem Operation.KeepsSetup.work {operation : Operation σ} {body : OnBoard σ Unit}
    (keeps : operation.KeepsSetup) (works : operation.work? = some body) : Keeps setup body := by
  cases operation with
  | transaction route work => exact Option.some.inj works ▸ keeps
  | aside work => exact Option.some.inj works ▸ keeps
  | poll sensor =>
    cases works
    exact keeps_of_steady (steady_bind (steady_read _ _ _) fun _ => steady_pure ())
  | select route => cases works
  | park => cases works

/-! ### Runs -/

section Runs

variable {operations : List (Operation σ)} {start : Rig σ (Shared Serial.Bus)}

/-- What a visit makes of the selector's address and of the flag. -/
theorem Visit.setup_kept (visit : Visit σ)
    (configured : visit.start.bus.selector.extension = some address)
    (keeps : ∀ body, visit.move = .work body → Keeps setup body) :
    visit.finish.bus.selector.extension = some address ∧
      (visit.finish.bus.register.muxReady = true → visit.start.bus.register.muxReady = true ∨
        ∀ event ∈ outputs, event ∈ visit.events) := by
  obtain ⟨move, rig⟩ := visit
  cases move with
  | select route =>
    exact ⟨(Visit.does ⟨.select route, rig⟩ Tap.blank configured nofun).1, selectRoute_ready⟩
  | park =>
    refine ⟨(Visit.does ⟨.park, rig⟩ Tap.blank configured nofun).1, fun ready => .inl ?_⟩
    exact (keeps_muxReady_park rig).symm.trans ready
  | work body =>
    have same := keeps body rfl rig
    refine ⟨(congrArg Prod.snd same).trans configured, fun ready => .inl ?_⟩
    exact (congrArg Prod.fst same).symm.trans ready

/-- **Lines that count as ready have been made outputs in the run.** -/
theorem readied (fresh : start.bus.register.muxReady = false)
    (configured : start.bus.selector.extension = some address)
    (others : ∀ operation ∈ operations, operation.KeepsSetup) :
    (runAll operations start).state.bus.selector.extension = some address ∧
      ((runAll operations start).state.bus.register.muxReady = true →
        ∀ event ∈ outputs, event ∈ (runAll operations start).journal.events) := by
  obtain ⟨path, calls⟩ := run_visits operations start
  rw [calls]
  refine path.gather (fun gone rig => rig.bus.selector.extension = some address ∧
    (rig.bus.register.muxReady = true → ∀ event ∈ outputs, event ∈ trace gone))
    ⟨configured, fun ready => ?_⟩ ?_
  · rw [fresh] at ready
    cases ready
  · rintro gone passed member ⟨still, made⟩
    obtain ⟨kept, set⟩ := passed.setup_kept still fun body works => by
      obtain ⟨operation, among, found⟩ := visits_work start passed member body works
      exact (others operation among).work found
    refine ⟨kept, fun ready event output => ?_⟩
    rw [trace_snoc]
    rcases set ready with already | now
    · exact List.mem_append_left _ (made already event output)
    · exact List.mem_append_right _ (now event output)

/-- **What is in force when a route has been selected.** A register bus that was just opened, with
the serial bus as its selector, has run any operations, and any of their calls may have failed. If a
route is then selected, both multiplexer lines have been made outputs, the latest call on each has
driven it to its bit of the local channel, and the code of the route, if it has one, is the last
payload on the serial device. This is where the work of a transaction begins. If a call of the
selection fails, the transaction reports a fault, does not begin its work and touches no target. -/
theorem selection_in_force (operations : List (Operation σ)) (start : Rig σ (Shared Serial.Bus))
    (fresh : start.bus.register.muxReady = false)
    (configured : start.bus.selector.extension = some address)
    (others : ∀ operation ∈ operations, operation.KeepsSetup) (route : Route) :
    let before := runAll operations start
    let selection := selectRoute (some .serial) route before.state
    let past := before.journal.events ++ selection.journal.events
    (selection.result = .ok () → MuxAt route past ∧
      ∀ code, route.extension = some code → LastPayload address code.value past) ∧
    ∀ (α : Type) (work : OnBoard σ α),
      let outcome := Register.transaction (some .serial) route work before.state
      (selection.result = .ok () → outcome = ⟨(work selection.state).result,
        selection.journal ++ (work selection.state).journal, (work selection.state).state⟩) ∧
      ∀ event ∈ selection.journal.events, ∀ fault, event.Reports fault →
        (∃ reported, outcome = ⟨.error reported, selection.journal, selection.state⟩) ∧
          ∀ call ∈ outcome.journal.events, ¬ IsTwoWire call := by
  intro before selection past
  obtain ⟨still, made⟩ := readied fresh configured others
  constructor
  · intro selected
    have ran := ran_selectRoute still (Ran.of_ok selected)
    exact ⟨ran.muxAt made, fun code extension => ran.lastPayload extension⟩
  · intro α work outcome
    exact ⟨fun selected => transaction_begun selected work, fun event member fault failed =>
      transaction_refused still member failed work⟩

end Runs

/-! ### A selection after a half-done one -/

/-- A bus with its selector at module 5, on lines of which the high one of the multiplexer cannot be
driven low at first. -/
def halfway : Rig (Bench.Board Unit) (Shared Serial.Bus) where
  devices := (Bench.Board.fresh []).planned [⟨.drive .muxHigh .low, 0, .fault .timeout⟩]
  bus := ⟨.fresh, { Serial.Bus.fresh .standard with extension := some stuckSelector }⟩

/-- The calls of a local selection that ends between the two levels. -/
def halfDone : List Event :=
  [.drive .muxLow .output none, .drive .muxHigh .output none, .drive .muxLow .high none,
    .drive .muxHigh .low (some .timeout)]

/-- The channel that is selected after a half-done selection is in force, although one line stood
at another level; a transaction that meets the same fault does not begin its work. -/
theorem chained_after_half_done :
    let before := runAll [.select localRoute] halfway
    let selection := selectRoute (some .serial) chainedRoute before.state
    before.journal.events = halfDone ∧ selection.result = .ok () ∧
      MuxAt chainedRoute (halfDone ++ selection.journal.events) ∧
      LastPayload stuckSelector 5 (halfDone ++ selection.journal.events) ∧
      ∃ fault, (Register.transaction (some .serial) localRoute (pure ()) halfway).result =
        .error fault := by
  intro before selection
  have local_alone : ∀ operation ∈ [(.select localRoute : Operation (Bench.Board Unit))],
      operation.KeepsSetup := fun _ member => by rw [List.mem_singleton.mp member]; exact trivial
  have calls : (runAll [.select localRoute] halfway).journal.events = halfDone := by rfl
  have selected : (selectRoute (some .serial) chainedRoute
      (runAll [.select localRoute] halfway).state).result = .ok () := by rfl
  obtain ⟨inForce, -⟩ :=
    selection_in_force [.select localRoute] halfway rfl rfl local_alone chainedRoute
  have inForce := inForce selected
  rw [calls] at inForce
  obtain ⟨-, transacted⟩ := selection_in_force [] halfway rfl rfl
    (fun _ member => absurd member List.not_mem_nil) localRoute
  have made : Event.drive .muxHigh .low (some .timeout) ∈
      (selectRoute (some .serial) localRoute halfway).journal.events := by decide
  obtain ⟨⟨fault, refused⟩, -⟩ := (transacted Unit (pure ())).2 _ made .timeout rfl
  exact ⟨calls, selected, inForce.1, inForce.2 ⟨5, by decide, by decide⟩ rfl, fault,
    congrArg Outcome.result refused⟩

end SensorCape.Register
