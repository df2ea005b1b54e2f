/-
**When a local route finds the extension board parked.**

Selecting a route without a channel of the extension board parks the board first if the bus
remembers a channel. The bus remembers a channel once its selection succeeded; but a selection can
fail after the device has accepted its code, and then the board is switched on and nobody knows.

* `Stray`: such a selection has happened, and no code was accepted since.
* `parked_iff_not_stray`: **after every selection of a local route the board is parked, unless a
  code has gone astray before it**, and only then it is not.
* `local_selection_leaves_board_on`: a run in which that happens.
-/

import SensorCape.Bench.Board
import SensorCape.Proofs.Register.Tap

set_option linter.unusedSectionVars false

namespace SensorCape.Register

open Serial (ExtensionCode ModuleAddress)

variable {σ : Type} [Devices σ] {address : ModuleAddress}

/-! ### Work that leaves the board alone -/

section Work

variable {α β : Type}

theorem leavesBoard_pure (value : α) : LeavesBoard address (pure value : OnBoard σ α) :=
  fun _ _ => ⟨rfl, rfl, rfl⟩

theorem leavesBoard_ofExcept (result : Except Fault α) :
    LeavesBoard address (Action.ofExcept result : OnBoard σ α) := by
  cases result with
  | ok value => exact leavesBoard_pure value
  | error fault => exact fun _ _ => ⟨rfl, rfl, rfl⟩

theorem leavesBoard_bind {first : OnBoard σ α} {next : α → OnBoard σ β}
    (leaves : LeavesBoard address first) (follow : ∀ value, LeavesBoard address (next value)) :
    LeavesBoard address (first >>= next) := by
  intro rig tap
  obtain ⟨taken, routed, kept⟩ := leaves rig tap
  rw [Action.bind_apply]
  cases (first rig).result with
  | error fault => exact ⟨taken, routed, kept⟩
  | ok value =>
    obtain ⟨more, still, same⟩ :=
      follow value (first rig).state (tap.after address (first rig).journal.events)
    simp only [Journal.events_append, Tap.after_append]
    exact ⟨more.trans taken, still.trans routed, same.trans kept⟩

theorem leavesBoard_relabel {body : OnBoard σ α} (change : Fault → Fault)
    (leaves : LeavesBoard address body) : LeavesBoard address (Action.relabel change body) := leaves

/-- A call that the tap does not notice. -/
theorem leavesBoard_call {ask : σ → α × σ} {event : α → Event}
    (unseen : ∀ answer tap, Tap.next address tap (event answer) = tap) :
    LeavesBoard address (Rig.call ask event : OnBoard σ α) := fun rig tap =>
  ⟨congrArg Tap.taken (unseen (ask rig.devices).1 tap), rfl, rfl⟩

theorem leavesBoard_send (target : TargetAddress) (data : List UInt8) :
    LeavesBoard address (send target data : OnBoard σ Unit) :=
  leavesBoard_bind (leavesBoard_call fun _ _ => rfl) fun _ =>
    leavesBoard_bind (leavesBoard_ofExcept _) fun _ => leavesBoard_pure ()

/-- Reading a register has nothing to do with the board. -/
theorem leavesBoard_read (handle : Handle) (register : UInt8) (length : Nat) :
    LeavesBoard address (handle.read register length : OnBoard σ (List UInt8)) := by
  refine leavesBoard_bind ?_ fun _ => leavesBoard_bind (leavesBoard_call fun _ _ => rfl) fun _ =>
    leavesBoard_bind (leavesBoard_ofExcept _) fun _ => leavesBoard_pure _
  unfold Handle.point
  cases handle.framing with
  | register => exact leavesBoard_relabel _ (leavesBoard_send _ _)
  | bare => exact leavesBoard_pure ()

/-- Nor has writing one. -/
theorem leavesBoard_write (handle : Handle) (register : UInt8) (data : List UInt8) :
    LeavesBoard address (handle.write register data : OnBoard σ Unit) := leavesBoard_send _ _

end Work

/-- Nothing but the moves of an operation itself writes to the selector. -/
def Operation.LeavesBoard (address : ModuleAddress) : Operation σ → Prop
  | .transaction _ work | .aside work => Register.LeavesBoard address work
  | .select _ | .park | .poll _ => True

theorem Operation.LeavesBoard.work {operation : Operation σ} {body : OnBoard σ Unit}
    (leaves : operation.LeavesBoard address) (works : operation.work? = some body) :
    Register.LeavesBoard address body := by
  cases operation with
  | transaction route work => exact Option.some.inj works ▸ leaves
  | aside work => exact Option.some.inj works ▸ leaves
  | poll sensor =>
    cases works
    exact leavesBoard_bind (leavesBoard_read _ _ _) fun _ => leavesBoard_pure ()
  | select route => cases works
  | park => cases works

theorem visits_leave {operations : List (Operation σ)}
    (others : ∀ operation ∈ operations, operation.LeavesBoard address)
    (rig : Rig σ (Shared Serial.Bus)) : ∀ visit ∈ visits operations rig, ∀ body,
      visit.move = .work body → LeavesBoard address body := by
  intro visit member body same
  obtain ⟨operation, among, works⟩ := visits_work rig visit member body same
  exact (others operation among).work works

/-! ### Parked boards and stray codes -/

/-- The last code that was accepted, if any was, is the parked one. -/
def Parked (taken : List UInt8) : Prop := ∀ code ∈ taken.getLast?, code = 0

/-- A move selects a route with a channel of the board. -/
def Move.Chooses (move : Move σ) : Prop :=
  ∃ route extension, move = .select route ∧ route.extension = some extension

/-- A selection of a channel failed although its code was accepted, on a bus that remembered no
channel. -/
def Visit.Strays (address : ModuleAddress) (past : List Event) (visit : Visit σ) : Prop :=
  visit.move.Chooses ∧ (∃ fault, visit.result = .error fault) ∧
    visit.start.bus.register.routed = none ∧
      accepted address (past ++ visit.events) ≠ accepted address past

/-- A code has gone astray, and no code was accepted after it. -/
def Stray (address : ModuleAddress) (gone : List (Visit σ)) : Prop :=
  ∃ before visit after, gone = before ++ visit :: after ∧ visit.Strays address (trace before) ∧
    accepted address (trace gone) = accepted address (trace before ++ visit.events)

omit [Devices σ] in
theorem parked_append (taken : List UInt8) (code : UInt8) :
    Parked (taken ++ [code]) ↔ code = 0 := by
  simp [Parked]

theorem trace_append (first second : List (Visit σ)) :
    trace (first ++ second) = trace first ++ trace second := List.flatMap_append

theorem trace_cons (visit : Visit σ) (rest : List (Visit σ)) :
    trace (visit :: rest) = visit.events ++ trace rest := List.flatMap_cons

theorem trace_snoc (gone : List (Visit σ)) (visit : Visit σ) :
    trace (gone ++ [visit]) = trace gone ++ visit.events := by
  rw [trace_append]
  exact congrArg (trace gone ++ ·) (List.append_nil _)

/-- A code is astray after a visit if it went astray in the visit, or was astray before and the
visit had no code accepted. -/
theorem stray_snoc (gone : List (Visit σ)) (visit : Visit σ) :
    Stray address (gone ++ [visit]) ↔ visit.Strays address (trace gone) ∨
      Stray address gone ∧
        accepted address (trace gone ++ visit.events) = accepted address (trace gone) := by
  unfold Stray
  rw [trace_snoc]
  constructor
  · rintro ⟨before, lost, after, split, strays, since⟩
    rcases List.eq_nil_or_concat after with rfl | ⟨between, last, rfl⟩
    · obtain ⟨rfl, same⟩ := List.append_inj' split rfl
      cases same
      exact .inl strays
    · rw [List.concat_eq_append, ← List.cons_append, ← List.append_assoc] at split
      obtain ⟨rfl, same⟩ := List.append_inj' split rfl
      cases same
      -- the codes accepted only grow, so they are the same all the way
      have grown : accepted address (trace before ++ lost.events) <+:
          accepted address (trace (before ++ lost :: between)) := by
        rw [trace_append, trace_cons, ← List.append_assoc]
        exact accepted_prefix _ _
      have growing : accepted address (trace (before ++ lost :: between)) <+:
          accepted address (trace (before ++ lost :: between) ++ visit.events) :=
        accepted_prefix _ _
      rw [since] at growing
      have same := grown.eq_of_length_le growing.length_le
      exact .inr ⟨⟨before, lost, between, rfl, strays, same.symm⟩, since.trans same⟩
  · rintro (strays | ⟨⟨before, lost, after, rfl, strays, since⟩, same⟩)
    · exact ⟨gone, visit, [], rfl, strays, rfl⟩
    · refine ⟨before, lost, after ++ [visit], ?_, strays, same.trans since⟩
      rw [List.append_assoc, List.cons_append]

/-! ### The codes of moves -/

omit [Devices σ] in
theorem extensionCode_ne_parked (extension : ExtensionCode) : extension.value ≠ 0 := by
  intro zero
  have live := extension.live
  rw [zero] at live
  exact absurd live (by decide)

omit [Devices σ] in
/-- A move that writes a code selects the channel of the code, or writes the parked one and then
remembers no channel. -/
theorem Move.code_cases {move : Move σ} {routed : Option ExtensionCode} {code : UInt8}
    (writes : move.code? routed = some code) :
    (code ≠ 0 ∧ move.target ≠ none ∧ move.Chooses) ∨
      (code = 0 ∧ move.target = none ∧ ¬ move.Chooses) := by
  cases move with
  | select route =>
    cases chosen : route.extension with
    | some extension =>
      simp only [code?, chosen, Option.some.injEq] at writes
      refine .inl ⟨?_, ?_, route, extension, rfl, chosen⟩
      · rw [← writes]
        exact extensionCode_ne_parked extension
      · simp [target, chosen]
    | none =>
      simp only [code?, chosen] at writes
      split at writes
      · cases writes
        refine .inr ⟨rfl, chosen, ?_⟩
        rintro ⟨other, extension, same, found⟩
        cases same
        rw [chosen] at found
        cases found
      · cases writes
  | park =>
    cases writes
    refine .inr ⟨rfl, rfl, ?_⟩
    rintro ⟨other, extension, same, -⟩
    cases same
  | work body => cases writes

/-- **What a visit does to what is astray.** -/
theorem Visit.stray_kept {visit : Visit σ} {gone : List (Visit σ)}
    (does : visit.move.Does visit.result visit.start.bus.register.routed
      visit.finish.bus.register.routed (accepted address (trace gone))
      (accepted address (trace gone ++ visit.events)))
    (known : Stray address gone ↔ visit.start.bus.register.routed = none ∧
      ¬ Parked (accepted address (trace gone))) :
    Stray address (gone ++ [visit]) ↔ visit.finish.bus.register.routed = none ∧
      ¬ Parked (accepted address (trace (gone ++ [visit]))) := by
  rw [stray_snoc, trace_snoc, known]
  unfold Move.Does at does
  cases writes : visit.move.code? visit.start.bus.register.routed with
  | none =>
    rw [writes] at does
    obtain ⟨same, still⟩ := does
    have unstrayed : ¬ visit.Strays address (trace gone) := fun strays => strays.2.2.2 same
    rw [same, still]
    simp [unstrayed]
  | some code =>
    rw [writes] at does
    have grown : ∀ taken : List UInt8, taken ++ [code] ≠ taken := by simp
    cases ended : visit.result with
    | ok done =>
      rw [ended] at does
      obtain ⟨took, left⟩ := does
      have took : accepted address (trace gone ++ visit.events) =
        accepted address (trace gone) ++ [code] := took
      have unstrayed : ¬ visit.Strays address (trace gone) := by
        rintro ⟨-, ⟨fault, failed⟩, -⟩
        rw [ended] at failed
        cases failed
      rw [took, left, parked_append]
      rcases Move.code_cases writes with ⟨-, chosen, -⟩ | ⟨zero, -⟩
      · simp [unstrayed, grown, chosen]
      · simp [unstrayed, zero]
    | error fault =>
      rw [ended] at does
      obtain ⟨took, left⟩ := does
      rw [left]
      rcases took with same | took
      · have unstrayed : ¬ visit.Strays address (trace gone) := fun strays => strays.2.2.2 same
        rw [same]
        simp [unstrayed]
      · rw [took, parked_append]
        unfold Visit.Strays
        rw [took, ended]
        rcases Move.code_cases writes with ⟨live, -, chosen⟩ | ⟨zero, -, unchosen⟩
        · simp [grown, live, chosen]
        · simp [zero, unchosen]

/-! ### Runs -/

section Runs

variable {operations : List (Operation σ)} {start : Rig σ (Shared Serial.Bus)}

/-- Wherever a visit begins, the selector has its address, and a code is astray exactly if the bus
remembers no channel of a board that is not parked. -/
theorem stray_along (configured : start.bus.selector.extension = some address)
    (others : ∀ operation ∈ operations, operation.LeavesBoard address)
    {earlier later : List (Visit σ)} {visit : Visit σ}
    (split : visits operations start = earlier ++ visit :: later) :
    visit.start.bus.selector.extension = some address ∧
      (Stray address earlier ↔ visit.start.bus.register.routed = none ∧
        ¬ Parked (accepted address (trace earlier))) := by
  have leaves := visits_leave others start
  obtain ⟨path, -⟩ := run_visits operations start
  rw [split] at path leaves
  refine path.reach (fun gone rig => rig.bus.selector.extension = some address ∧
    (Stray address gone ↔ rig.bus.register.routed = none ∧
      ¬ Parked (accepted address (trace gone)))) ⟨configured, ?_⟩ ?_
  · have none_gone : ¬ Stray address ([] : List (Visit σ)) := by
      rintro ⟨before, lost, after, split, -⟩
      simp at split
    have parked : Parked (accepted address (trace ([] : List (Visit σ)))) := nofun
    simp [none_gone, parked]
  · rintro gone passed member ⟨still, known⟩
    obtain ⟨kept, does⟩ := passed.does (Tap.blank.after address (trace gone)) still
      (leaves passed (List.mem_append_left _ member))
    rw [← Tap.after_append] at does
    exact ⟨kept, Visit.stray_kept does known⟩

/-- **When a local route finds the extension board parked.** A bus that has the serial bus as its
selector runs operations, of which any call may fail; nothing else writes to the selector. Whenever
the selection of a route without a channel succeeds, by itself or before the work of a transaction
or a poll, the last code that the device accepted is the parked one, or none was accepted, exactly
if no code is astray. -/
theorem parked_iff_not_stray (configured : start.bus.selector.extension = some address)
    (others : ∀ operation ∈ operations, operation.LeavesBoard address) :
    (runAll operations start).journal.events = trace (visits operations start) ∧
      ∀ earlier visit later route, visits operations start = earlier ++ visit :: later →
        visit.move = .select route → route.extension = none → visit.result = .ok () →
          (Parked (accepted address (trace earlier ++ visit.events)) ↔
            ¬ Stray address earlier) := by
  refine ⟨(run_visits operations start).2, ?_⟩
  intro earlier visit later route split selects plain selected
  obtain ⟨still, known⟩ := stray_along configured others split
  obtain ⟨-, does⟩ := visit.does (Tap.blank.after address (trace earlier)) still
    fun body works => by rw [selects] at works; cases works
  rw [← Tap.after_append] at does
  rw [known]
  cases routed : visit.start.bus.register.routed with
  | some extension =>
    have writes : visit.move.code? visit.start.bus.register.routed = some 0 := by
      rw [selects, routed]
      simp only [Move.code?, plain, Option.isSome_some, if_true]
    unfold Move.Does at does
    rw [writes, selected] at does
    have took : accepted address (trace earlier ++ visit.events) =
      accepted address (trace earlier) ++ [0] := does.1
    rw [took, parked_append]
    simp
  | none =>
    have silent : visit.move.code? visit.start.bus.register.routed = none := by
      rw [selects, routed]
      simp only [Move.code?, plain, Option.isSome_none, Bool.false_eq_true, if_false]
    unfold Move.Does at does
    rw [silent] at does
    have same : accepted address (trace earlier ++ visit.events) =
      accepted address (trace earlier) := does.1
    rw [same]
    simp

end Runs

/-! ### A code that goes astray -/

/-- The module of the selector. -/
def stuckSelector : ModuleAddress := ⟨5, by decide⟩

/-- A bus with its selector at module 5, on lines of which chip-select cannot be raised after the
first code. -/
def stuckLine : Rig (Bench.Board Unit) (Shared Serial.Bus) where
  devices := (Bench.Board.fresh []).planned [⟨.drive .chipSelect .high, 1, .fault .timeout⟩]
  bus := ⟨.fresh, { Serial.Bus.fresh .standard with extension := some stuckSelector }⟩

/-- A route with channel 5 of the board, and a local one. -/
def chainedRoute : Route := ⟨0, by decide, some ⟨5, by decide, by decide⟩⟩

/-- A route without the board. -/
def localRoute : Route := ⟨1, by decide, none⟩

/-- **The board stays switched on.** The first selection fails when chip-select is to be raised
after the code; the second one succeeds, and the board is still at channel 5. -/
theorem local_selection_leaves_board_on : ∃ earlier visit later,
    visits [.select chainedRoute, .select localRoute] stuckLine = earlier ++ visit :: later ∧
      visit.move = .select localRoute ∧ localRoute.extension = none ∧ visit.result = .ok () ∧
      ¬ Parked (accepted stuckSelector (trace earlier ++ visit.events)) := by
  refine ⟨[⟨.select chainedRoute, stuckLine⟩],
    ⟨.select localRoute, (selectRoute (some .serial) chainedRoute stuckLine).state⟩, [], rfl, rfl,
    rfl, rfl, fun parked => ?_⟩
  exact absurd (parked 5 (by decide)) (by decide)

/-- The failed selection, a transaction on the local route that writes to a target, and parking. -/
def stuckOperations : List (Operation (Bench.Board Unit)) :=
  [.select chainedRoute,
    .transaction localRoute (Handle.write ⟨⟨0x76, by decide⟩, .register, 0⟩ 0xF4 [0x27]), .park]

/-- The code of the first selection is astray when the transaction begins. -/
theorem stray_on_stuck_line :
    stuckLine.bus.selector.extension = some stuckSelector ∧
      (∀ operation ∈ stuckOperations, operation.LeavesBoard stuckSelector) ∧
      Stray stuckSelector [⟨.select chainedRoute, stuckLine⟩] := by
  have others : ∀ operation ∈ stuckOperations, operation.LeavesBoard stuckSelector := by
    simp [stuckOperations, Operation.LeavesBoard, leavesBoard_write]
  have configured : stuckLine.bus.selector.extension = some stuckSelector := rfl
  have condition := (parked_iff_not_stray configured others).2 [⟨.select chainedRoute, stuckLine⟩]
    ⟨.select localRoute, (selectRoute (some .serial) chainedRoute stuckLine).state⟩ _ localRoute
    rfl rfl rfl rfl
  refine ⟨configured, others, Classical.byContradiction fun unstrayed => ?_⟩
  exact absurd (condition.mpr unstrayed 5 (by decide)) (by decide)

end SensorCape.Register
