/-
**Refused arguments.**

A module address has four bits, and a channel code of the extension board four, with a one among the
lower two and among the upper two. An operation looks at its arguments before it does anything else,
and the address of the selector was looked at when it was assigned. So a breach of contract is
reported at once or not at all: nothing deep inside a bracket turns an argument down after the
profile was switched.

* `Command.refused`: an operation whose arguments break a contract only says so.
* `Command.lawful`: an operation whose arguments do not never reports a breach, unless a line does.
* `Stage.finish_extension`: the selector's address changes by an assignment and by nothing else.
* `refusals_are_exact`: **so it is at every stage of every script**, whatever failed before.
-/

import SensorCape.Proofs.Serial.Held
import SensorCape.Proofs.Serial.Phrases
import SensorCape.Proofs.Serial.Built

set_option linter.unusedSectionVars false

namespace SensorCape.Serial

variable {σ : Type} [Devices σ] {rig : Rig σ Bus} {command : Command}

/-! ### Arguments -/

/-- The arguments of an operation break a contract: a module address is above 15, or a channel code
is, or it leaves a side of the board off, or there is no selector to send it to. -/
def Command.Breaks (bus : Bus) : Command → Prop
  | .select address _ | .writeModule address _ | .readModule address | .assignExtension address =>
    15 < address
  | .selectExtension channel =>
    15 < channel ∨ channel &&& 3 = 0 ∨ channel &&& 12 = 0 ∨ bus.extension = none
  | .transfer _ | .transferSecondary _ | .parkExtension => False

/-- Arguments break a contract exactly if they are not valid. -/
theorem Command.breaks_iff (command : Command) (bus : Bus) :
    command.Breaks bus ↔ ¬ command.Valid bus := by
  cases command with
  | transfer data => exact not_true.symm
  | transferSecondary data => exact not_true.symm
  | parkExtension => exact not_true.symm
  | selectExtension channel =>
    have inRange : 15 < channel ↔ ¬ channel < 16 := by
      simp only [UInt8.lt_iff_toNat_lt]
      exact Nat.lt_iff_add_one_le.trans Nat.not_lt.symm
    simp only [Breaks, Valid, inRange, Decidable.not_and_iff_not_or_not, ne_eq, Decidable.not_not]
  | _ => exact UInt8.not_le.symm

theorem moduleAddress_refused {address : UInt8} (outside : ¬ address ≤ 15) :
    ModuleAddress.checked address = .error (.contractViolation .moduleAddressRange) :=
  dif_neg outside

/-- A code is turned down as a breach of contract, or it is in range and switches both sides on. -/
theorem extensionCode_judged (channel : UInt8) :
    (∃ breach, ExtensionCode.checked channel = .error (.contractViolation breach)) ∨
      (∃ code, ExtensionCode.checked channel = .ok code) ∧
        channel < 16 ∧ channel &&& 3 ≠ 0 ∧ channel &&& 12 ≠ 0 := by
  by_cases inRange : channel < extensionCodes
  · by_cases live : joinsBothSides channel = true
    · have sides := live
      rw [joinsBothSides, Bool.and_eq_true, bne_iff_ne, bne_iff_ne] at sides
      exact .inr ⟨extensionCode_checked inRange sides.1 sides.2, inRange, sides⟩
    · exact .inl ⟨_, by rw [ExtensionCode.checked, dif_pos inRange, dif_neg live]⟩
  · exact .inl ⟨_, by rw [ExtensionCode.checked, dif_neg inRange]⟩

/-- **An operation with arguments that break a contract reports that, and does nothing.** -/
theorem Command.refused (invalid : ¬ command.Valid rig.bus) :
    ∃ breach, command.run rig = ⟨.error (.contractViolation breach), .empty, rig⟩ := by
  cases command with
  | transfer data => exact absurd trivial invalid
  | transferSecondary data => exact absurd trivial invalid
  | parkExtension => exact absurd trivial invalid
  | select address intent =>
    rw [Command.run, Serial.select, Frame.checked, moduleAddress_refused invalid]
    exact ⟨_, rfl⟩
  | writeModule address data =>
    rw [Command.run, Serial.writeModule, moduleAddress_refused invalid]
    exact ⟨_, rfl⟩
  | readModule address =>
    rw [Command.run, Serial.readModule, moduleAddress_refused invalid]
    exact ⟨_, rfl⟩
  | assignExtension address =>
    rw [Command.run, Serial.assignExtension, moduleAddress_refused invalid]
    exact ⟨_, rfl⟩
  | selectExtension channel =>
    rw [Command.run, Serial.selectExtension]
    rcases extensionCode_judged channel with ⟨breach, refused⟩ | ⟨⟨code, checked⟩, inRange, sides⟩
    · rw [refused]
      exact ⟨breach, rfl⟩
    · have missing : rig.bus.extension = none :=
        Decidable.not_not.mp fun configured => invalid ⟨inRange, sides.1, sides.2, configured⟩
      rw [checked]
      simp only [Action.ofExcept_ok, Action.pure_bind, routeExtension, Action.bind_apply,
        Rig.memory, missing]
      exact ⟨_, rfl⟩

/-! ### Valid arguments -/

theorem lawful_writeZero : Lawful (.writeFailed 1 .writeZero) := fun _ => nofun

theorem built_checked {α β : Type} {result : Except Fault α} {value : α}
    {next : α → OnBus σ Bus β} (valid : result = .ok value) (built : Built Lawful (next value)) :
    Built Lawful (Action.ofExcept result >>= next) := by
  rw [valid, Action.ofExcept_ok, Action.pure_bind]
  exact built

/-- On its rig, an operation with valid arguments does what an action does that has no breach of
contract among its own faults. -/
theorem Command.built_lawful (valid : command.Valid rig.bus) :
    ∃ body : OnBus σ Bus Reply, Built Lawful body ∧ command.run rig = body rig := by
  cases command with
  | transfer data =>
    exact ⟨_, .bind (built_withProfile .primary (.exchange data .primary)) fun _ => .pure _, rfl⟩
  | transferSecondary data =>
    exact ⟨_, .bind (built_transferSecondary data) fun _ => .pure _, rfl⟩
  | select address intent =>
    have checked : Frame.checked address intent = .ok ⟨⟨address, valid⟩, intent⟩ := by
      rw [Frame.checked, moduleAddress_checked valid]
      rfl
    exact ⟨_, .bind (built_checked checked (built_sendFrame _)) fun _ => .pure _, rfl⟩
  | writeModule address data =>
    exact ⟨_, .bind (built_checked (moduleAddress_checked valid) (built_pushPayload _ data))
      fun _ => .pure _, rfl⟩
  | readModule address =>
    exact ⟨_, .bind (built_checked (moduleAddress_checked valid) (built_pullByte _))
      fun _ => .pure _, rfl⟩
  | assignExtension address =>
    exact ⟨_, .bind (built_checked (moduleAddress_checked valid)
      (.bind (.note _ _) fun _ => .assign _)) fun _ => .pure _, rfl⟩
  | selectExtension channel =>
    obtain ⟨inRange, low, high, configured⟩ := valid
    obtain ⟨code, checked⟩ := extensionCode_checked inRange low high
    obtain ⟨selector, same⟩ := Option.ne_none_iff_exists'.mp configured
    refine ⟨_, .bind (built_writeCode lawful_writeZero selector code.value) fun _ => .pure .nothing,
      ?_⟩
    rw [Command.run, Serial.selectExtension, checked, Action.ofExcept_ok, Action.pure_bind]
    exact Action.bind_congr (routeExtension_configured same) fun _ _ => rfl
  | parkExtension =>
    cases configured : rig.bus.extension with
    | some selector =>
      exact ⟨_,
        .bind (built_writeCode lawful_writeZero selector parkedCode) fun _ => .pure .nothing,
        Action.bind_congr (parkExtension_configured configured) fun _ _ => rfl⟩
    | none =>
      refine ⟨_, .pure .nothing, ?_⟩
      simp only [Command.run, Serial.parkExtension, Action.bind_apply, Rig.memory, configured]
      rfl

/-! ### Faults of lines -/

/-- A call on the serial device. -/
def OnDevice : Event → Prop
  | .configure _ _ | .exchange _ _ _ | .write _ _ | .read _ _ => True
  | _ => False

/-- The serial device has faults of its own, and none of them is a breach of contract. -/
theorem lawful_of_onDevice {event : Event} {fault : Fault} (device : OnDevice event)
    (failed : event.fault? = some fault) : Lawful fault := by
  have reported := (Event.fault?_eq_some event fault).mp failed
  cases event with
  | configure setting failure =>
    obtain ⟨cause, -, rfl⟩ := reported
    exact fun _ => nofun
  | exchange sent under failure =>
    obtain ⟨cause, -, rfl⟩ := reported
    exact fun _ => nofun
  | write data count =>
    rcases reported with ⟨cause, -, rfl⟩ | ⟨moved, -, -, rfl⟩
    · exact fun _ => nofun
    · exact fun _ => nofun
  | read length count =>
    rcases reported with ⟨cause, -, rfl⟩ | ⟨moved, -, -, rfl⟩
    · exact fun _ => nofun
    · exact fun _ => nofun
  | _ => cases device

/-- A call of a phrase is one on the serial device or drives a line. -/
theorem Phrase.onDevice {phrase : Phrase} {event : Event} (member : event ∈ phrase.calls) :
    OnDevice event ∨ ∃ line how failure, event = .drive line how failure := by
  cases phrase with
  | setting written failure =>
    rw [List.mem_singleton.mp member]
    exact .inl trivial
  | plain sent under failure =>
    rw [List.mem_singleton.mp member]
    exact .inl trivial
  | unframed fault =>
    rw [List.mem_singleton.mp member]
    exact .inr ⟨_, _, _, rfl⟩
  | framed sent under failure raised =>
    simp only [calls, List.mem_cons, List.not_mem_nil, or_false] at member
    rcases member with rfl | rfl | rfl
    · exact .inr ⟨_, _, _, rfl⟩
    · exact .inl trivial
    · exact .inr ⟨_, _, _, rfl⟩
  | selected touches raised =>
    rcases Phrase.mem_selected member with ⟨touch, rfl⟩ | rfl
    · cases touch with
      | drive how failure => exact .inr ⟨_, _, _, rfl⟩
      | write data count => exact .inl trivial
      | read length count => exact .inl trivial
    · exact .inr ⟨_, _, _, rfl⟩

/-- No line of a run reports a breach of contract. -/
def LawfulLines (events : List Event) : Prop :=
  ∀ line how fault, .drive line how (some fault) ∈ events → Lawful fault

theorem lawfulLines_nil : LawfulLines [] := fun _ _ _ member => absurd member List.not_mem_nil

/-- **If the lines report no breach, no call of a stage does.** -/
theorem Stage.lawful_calls (stage : Stage σ) (lines : LawfulLines stage.events) :
    ∀ event ∈ stage.events, ∀ fault, event.fault? = some fault → Lawful fault := by
  intro event member fault failed
  obtain ⟨phrases, -, made⟩ := stage.phrases
  have among := member
  rw [made] at among
  obtain ⟨phrase, -, called⟩ := List.mem_flatMap.mp among
  rcases Phrase.onDevice called with device | ⟨line, how, failure, rfl⟩
  · exact lawful_of_onDevice device failed
  · rw [show failure = some fault from failed] at member
    exact lines line how fault member

theorem Stage.lawful_of_built (stage : Stage σ) {body : OnBus σ Bus Reply}
    (built : Built Lawful body) (same : stage.act.run stage.start = body stage.start)
    (lines : LawfulLines stage.events) {fault : Fault}
    (failed : (stage.act.run stage.start).result = .error fault) : Lawful fault := by
  have calls := stage.lawful_calls lines
  rw [Stage.events, same] at calls
  rw [same] at failed
  exact ((built.lawful stage.start.bus).run () stage.start calls).2 fault failed

/-- **An operation with valid arguments reports no breach of contract**, unless a line does. -/
theorem Command.lawful (valid : command.Valid rig.bus)
    (lines : LawfulLines (command.run rig).journal.events) {fault : Fault}
    (failed : (command.run rig).result = .error fault) : Lawful fault := by
  obtain ⟨body, built, same⟩ := Command.built_lawful valid
  exact Stage.lawful_of_built ⟨.operation command, rig⟩ built same lines failed

/-! ### The address of the selector -/

theorem switchTo_extension (profile : Profile) (rig : Rig σ Bus) :
    (switchTo profile rig).state.bus.extension = rig.bus.extension := by
  have ended := (switchTo_settings profile rig).2
  cases result : (switchTo profile rig).result with
  | ok done =>
    rw [result] at ended
    rw [ended.2]
    rfl
  | error fault =>
    rw [result] at ended
    obtain ⟨-, applied, same⟩ := ended
    rw [same]

theorem Work.run_extension (work : Work) (rig : Rig σ Bus) :
    (work.run rig).state.bus.extension = rig.bus.extension := by
  rw [Work.run]
  cases entered : (switchTo work.profile rig).result with
  | ok done =>
    rw [withProfile_entered entered]
    show (switchTo _ _).state.bus.extension = _
    rw [switchTo_extension, work.steady, switchTo_extension]
  | error fault =>
    rw [withProfile_refused entered]
    show (switchTo _ _).state.bus.extension = _
    rw [switchTo_extension, switchTo_extension]

/-- An operation with valid arguments that has nothing to do assigns an address, or parks a board
that there is not. -/
theorem Command.idle_cases (valid : command.Valid rig.bus)
    (idle : command.work? rig.bus = none) :
    (∃ address, command = .assignExtension address) ∨
      command = .parkExtension ∧ rig.bus.extension = none := by
  cases command with
  | assignExtension address => exact .inl ⟨address, rfl⟩
  | parkExtension => exact .inr ⟨rfl, Option.map_eq_none_iff.mp idle⟩
  | transfer data => cases idle
  | transferSecondary data => cases idle
  | select address intent => cases (dif_pos valid).symm.trans idle
  | writeModule address data => cases (dif_pos valid).symm.trans idle
  | readModule address => cases (dif_pos valid).symm.trans idle
  | selectExtension channel =>
    obtain ⟨inRange, low, high, configured⟩ := valid
    obtain ⟨code, checked⟩ := extensionCode_checked inRange low high
    simp only [work?, checked, Option.map_eq_none_iff] at idle
    exact absurd idle configured

/-- The address that an operation assigns to the selector. -/
def Command.assigned? : Command → Option ModuleAddress
  | .assignExtension address => (ModuleAddress.checked address).toOption
  | _ => none

/-- An assignment of an address in range succeeds, and the selector has that address. -/
theorem assignExtension_run (address : ModuleAddress) (rig : Rig σ Bus) :
    ((Command.assignExtension address.value).run rig).result = .ok .nothing ∧
      ((Command.assignExtension address.value).run rig).state.bus.extension = some address := by
  rw [Command.run, Serial.assignExtension, ModuleAddress.checked_value]
  exact ⟨rfl, rfl⟩

theorem Command.eq_of_assigned {address : ModuleAddress}
    (assigned : command.assigned? = some address) : command = .assignExtension address.value := by
  cases command with
  | assignExtension byte =>
    by_cases valid : byte ≤ 15
    · rw [assigned?, moduleAddress_checked valid] at assigned
      cases assigned
      rfl
    · rw [assigned?, moduleAddress_refused valid] at assigned
      cases assigned
  | _ => cases assigned

/-- **The address of the selector changes by an assignment and by nothing else.** -/
theorem Command.run_extension (command : Command) (rig : Rig σ Bus) :
    (command.run rig).state.bus.extension = command.assigned?.or rig.bus.extension := by
  by_cases valid : command.Valid rig.bus
  · cases found : command.work? rig.bus with
    | some work =>
      rw [(Command.run_calls found).2, work.run_extension]
      cases Command.comesTo found <;> rfl
    | none =>
      rcases Command.idle_cases valid found with ⟨address, rfl⟩ | ⟨rfl, missing⟩
      · rw [assigned?, moduleAddress_checked valid]
        exact (assignExtension_run ⟨address, valid⟩ rig).2
      · simp only [Command.run, Serial.parkExtension, Action.bind_apply, Rig.memory, missing]
        exact missing
  · obtain ⟨breach, ended⟩ := Command.refused valid
    rw [ended]
    cases command with
    | assignExtension address =>
      rw [assigned?, moduleAddress_refused valid]
      rfl
    | _ => rfl

/-! ### Stages -/

/-- The address that a stage assigns to the selector. -/
def Stage.assigned? (stage : Stage σ) : Option ModuleAddress :=
  match stage.act with
  | .operation command => command.assigned?
  | .switch _ => none

theorem Stage.finish_extension (stage : Stage σ) :
    stage.finish.bus.extension = stage.assigned?.or stage.start.bus.extension := by
  obtain ⟨act, rig⟩ := stage
  cases act with
  | operation command => exact command.run_extension rig
  | switch profile =>
    rw [Stage.finish_switch]
    exact switchTo_extension profile rig

/-- How a stage treats arguments, and the address of the selector. -/
structure Stage.Judges (stage : Stage σ) : Prop where
  /-- An operation reports a breach of contract exactly if its arguments make one. -/
  refuses : ∀ command, stage.act = .operation command →
    ((∃ breach, (command.run stage.start).result = .error (.contractViolation breach)) ↔
      command.Breaks stage.start.bus)
  /-- Where a breach is reported no call was made, and all is as before. -/
  untouched : ∀ breach, (stage.act.run stage.start).result = .error (.contractViolation breach) →
    stage.events = [] ∧ stage.finish = stage.start
  /-- An assignment that succeeds gives the selector its argument. -/
  assigns : ∀ address, stage.act = .operation (.assignExtension address) →
    (stage.act.run stage.start).result = .ok .nothing →
      stage.finish.bus.extension.map (·.value) = some address
  /-- Nothing else changes the address of the selector. -/
  keeps : stage.finish.bus.extension ≠ stage.start.bus.extension →
    ∃ address, stage.act = .operation (.assignExtension address) ∧
      (stage.act.run stage.start).result = .ok .nothing

/-- **A breach of contract is reported for the arguments, and before anything is done.** -/
theorem Stage.judges (stage : Stage σ) (lines : LawfulLines stage.events) : stage.Judges := by
  obtain ⟨act, rig⟩ := stage
  cases act with
  | switch profile =>
    have lawful {fault : Fault} (failed : ((Act.switch profile).run rig).result = .error fault) :
        Lawful fault :=
      Stage.lawful_of_built ⟨.switch profile, rig⟩
        (.bind (.switchTo profile) fun _ => .pure .nothing) rfl lines failed
    refine ⟨nofun, fun breach failed => absurd rfl (lawful failed breach), nofun, fun moved => ?_⟩
    exact absurd (Stage.finish_extension ⟨.switch profile, rig⟩) moved
  | operation command =>
    have broken {breach : Breach}
        (failed : (command.run rig).result = .error (.contractViolation breach)) :
        ¬ command.Valid rig.bus := fun valid => Command.lawful valid lines failed breach rfl
    refine ⟨?_, fun breach failed => ?_, ?_, fun moved => ?_⟩
    · rintro _ ⟨⟩
      rw [Command.breaks_iff]
      refine ⟨fun ⟨breach, failed⟩ => broken failed, fun invalid => ?_⟩
      obtain ⟨breach, ended⟩ := Command.refused invalid
      exact ⟨breach, by rw [ended]⟩
    · obtain ⟨again, ended⟩ := Command.refused (broken failed)
      exact ⟨congrArg (·.journal.events) ended, congrArg (·.state) ended⟩
    · rintro address ⟨⟩ succeeded
      by_cases valid : address ≤ 15
      · exact congrArg (Option.map (·.value)) (assignExtension_run ⟨address, valid⟩ rig).2
      · have invalid : ¬ (Command.assignExtension address).Valid rig.bus := valid
        obtain ⟨breach, ended⟩ := Command.refused invalid
        cases (congrArg Outcome.result ended).symm.trans succeeded
    · cases assigned : command.assigned? with
      | none =>
        have same := command.run_extension rig
        rw [assigned, Option.none_or] at same
        exact absurd same moved
      | some address =>
        obtain rfl := Command.eq_of_assigned assigned
        exact ⟨address.value, rfl, (assignExtension_run address rig).1⟩

section Sessions

variable {session : Session σ} {start : Rig σ Bus} {earlier later : List (Stage σ)}
  {stage : Stage σ}

/-- Wherever a stage begins, the selector has the address that was assigned to it last. -/
theorem Session.extension_eq (opened : session.start? = some start)
    (split : session.stages start = earlier ++ stage :: later) :
    stage.start.bus.extension = (earlier.filterMap Stage.assigned?).getLast? := by
  obtain ⟨path, -⟩ := Script.run_stages session.script start
  rw [show session.script.stages start = _ from split] at path
  refine path.reach (fun gone rig =>
    rig.bus.extension = (gone.filterMap Stage.assigned?).getLast?) ?_ ?_
  · rw [Session.start_bus opened]
    rfl
  · rintro gone passed - same
    rw [passed.finish_extension, same, List.filterMap_append, List.getLast?_append]
    cases assigned : passed.assigned? with
    | none => simp [assigned]
    | some address => simp [assigned]

/-- **Breaches of contract are exact**: at every stage of every script, at the top or inside any
brackets, on every bus that could be brought up and whatever failed before. -/
theorem refusals_are_exact (opened : session.start? = some start)
    (split : session.stages start = earlier ++ stage :: later)
    (lines : LawfulLines stage.events) :
    stage.Judges ∧ stage.start.bus.extension = (earlier.filterMap Stage.assigned?).getLast? :=
  ⟨stage.judges lines, Session.extension_eq opened split⟩

/-- A session whose first way back is refused, so that it goes on under the secondary profile, and
in which channels are asked for before and after the selector got its address. -/
def disputed : Session (Bench.Board Unit) where
  primary := ⟨⟨0⟩, 16, 500000⟩
  devices := (Bench.Board.fresh []).planned [⟨.mode, 2, .cause .timedOut⟩]
  script :=
    .step (.transferSecondary [1]) true <|
    .bracket .primary
      (.step (.selectExtension 5) true <| .step (.assignExtension 6) true <|
        .step (.assignExtension 99) true <| .step (.selectExtension 4) true .finish)
      true .finish

/-- A channel that leaves a side of the board off is refused inside the bracket without a trace, and
the selector keeps the address that was in range. -/
theorem disputed_channel : ∃ (start : Rig (Bench.Board Unit) Bus)
    (earlier : List (Stage (Bench.Board Unit))) (stage : Stage (Bench.Board Unit))
    (later : List (Stage (Bench.Board Unit))), disputed.start? = some start ∧
      disputed.stages start = earlier ++ stage :: later ∧
      stage.act = .operation (.selectExtension 4) ∧ LawfulLines stage.events ∧
      (∃ breach, ((Command.selectExtension 4).run stage.start).result =
        .error (.contractViolation breach)) ∧
      stage.finish = stage.start ∧ stage.start.bus.extension.map (·.value) = some 6 := by
  have opened : disputed.start? = some ⟨disputed.opening.state.devices, .fresh disputed.primary⟩ :=
    rfl
  have split : disputed.stages ⟨disputed.opening.state.devices, .fresh disputed.primary⟩ =
    [_, _, _, _, _] ++ _ :: _ := rfl
  have lines := lawfulLines_nil
  obtain ⟨judges, assigned⟩ := refusals_are_exact opened split lines
  obtain ⟨breach, failed⟩ :=
    (judges.refuses (.selectExtension 4) rfl).mpr (.inr (.inl rfl))
  exact ⟨_, _, _, _, opened, split, rfl, lines, ⟨breach, failed⟩,
    (judges.untouched breach failed).2, by rw [assigned]; rfl⟩

end Sessions

end SensorCape.Serial
