/-
**The work of an operation.**

Every operation of the serial bus comes down to one bracket around calls that leave the bus alone:
an exchange, a framed exchange, a payload pushed to a module or a byte pulled from one. The brackets
that an operation nests inside its own are for the same profile and vanish.

* `pushPayload_eq`, `pullByte_eq`: the payload operations with one bracket only.
* `Command.run_work`: an operation is its work under its profile; `Command.run_idle`: an operation
  without work makes no calls.
-/

import SensorCape.Proofs.Serial.Bracket
import SensorCape.Serial.Script

namespace SensorCape.Serial

variable {σ α : Type} [Devices σ]

/-! ### Work -/

/-- An exchange with the strobe held low for its duration. -/
def strobed (sent : List UInt8) : OnBus σ Bus (List UInt8) := do
  Rig.drive .strobe .low
  Action.ensuring (exchange sent .secondary) (Rig.drive .strobe .high)

/-- A frame for a module and a payload after it. -/
def pushed (address : ModuleAddress) (data : List UInt8) : OnBus σ Bus Nat := do
  let _ ← strobed [Frame.byte ⟨address, .write⟩]
  chipSelected do
    Rig.drive .chipSelect .high
    Rig.drive .chipSelect .low
    Rig.drive .chipSelect .low
    writeRaw data

/-- Two frames for a module and the byte that it gives out. -/
def pulled (address : ModuleAddress) : OnBus σ Bus UInt8 := do
  let _ ← strobed [Frame.byte ⟨address, .readReady⟩]
  chipSelected (Rig.drive .chipSelect .low)
  let _ ← strobed [Frame.byte ⟨address, .readExecute⟩]
  chipSelected do
    Rig.drive .chipSelect .low
    let bytes ← readRaw 1
    pure (bytes.headD 0)

/-- What an operation does between its switches. -/
inductive Work
  | exchange (sent : List UInt8)
  | strobed (sent : List UInt8)
  | push (address : ModuleAddress) (data : List UInt8)
  | pull (address : ModuleAddress)

namespace Work

/-- The profile that work is done under. -/
def profile : Work → Profile
  | exchange _ => .primary
  | strobed _ | push _ _ | pull _ => .secondary

/-- What work yields. -/
def Yield : Work → Type
  | exchange _ | strobed _ => List UInt8
  | push _ _ => Nat
  | pull _ => UInt8

/-- The calls of work. -/
def body : (work : Work) → OnBus σ Bus work.Yield
  | exchange sent => Serial.exchange sent .primary
  | strobed sent => Serial.strobed sent
  | push address data => pushed address data
  | pull address => pulled address

/-- Work under its profile. -/
def run (work : Work) : OnBus σ Bus work.Yield := withProfile work.profile work.body

end Work

/-! ### Work leaves the bus alone -/

theorem steady_exchange (sent : List UInt8) (profile : Profile) :
    Steady (exchange sent profile : OnBus σ Bus (List UInt8)) := by
  refine steady_bind (fun _ => rfl) fun bus => steady_bind (fun _ => rfl) fun answer => ?_
  cases answer with
  | ok received => exact steady_pure _
  | error cause => exact fun _ => rfl

theorem steady_strobed (sent : List UInt8) :
    Steady (strobed sent : OnBus σ Bus (List UInt8)) :=
  steady_bind (steady_drive _ _) fun _ =>
    steady_ensuring (steady_exchange _ _) (steady_drive _ _)

theorem steady_chipSelected {body : OnBus σ Bus α} (steady : Steady body) :
    Steady (chipSelected body) :=
  steady_ensuring steady (steady_drive _ _)

theorem steady_pushed (address : ModuleAddress) (data : List UInt8) :
    Steady (pushed address data : OnBus σ Bus Nat) :=
  steady_bind (steady_strobed _) fun _ => steady_chipSelected <|
    steady_bind (steady_drive _ _) fun _ => steady_bind (steady_drive _ _) fun _ =>
      steady_bind (steady_drive _ _) fun _ =>
        steady_bind (fun _ => rfl) fun _ => steady_ofExcept _

theorem steady_pulled (address : ModuleAddress) :
    Steady (pulled address : OnBus σ Bus UInt8) :=
  steady_bind (steady_strobed _) fun _ =>
    steady_bind (steady_chipSelected (steady_drive _ _)) fun _ =>
      steady_bind (steady_strobed _) fun _ => steady_chipSelected <|
        steady_bind (steady_drive _ _) fun _ => steady_bind
          (steady_bind (fun _ => rfl) fun _ => steady_bind (steady_ofExcept _) fun _ =>
            steady_pure _)
          fun _ => steady_pure _

theorem Work.steady (work : Work) : Steady (work.body : OnBus σ Bus work.Yield) := by
  cases work with
  | exchange sent => exact steady_exchange _ _
  | strobed sent => exact steady_strobed _
  | push address data => exact steady_pushed _ _
  | pull address => exact steady_pulled _

/-! ### The calls of work, watched -/

section Watched

variable {G : Type} {watch : Monitor G} {past : G} {bus : Bus}

/-- An exchange is one call under the configuration of its profile. -/
theorem leads_exchange {sent : List UInt8} {profile : Profile}
    {post : Except Fault (List UInt8) → G → Bus → Prop}
    (made : ∀ received, watch.assumes (.exchange sent (bus.configuration profile) none) →
      watch.allows past (.exchange sent (bus.configuration profile) none) ∧
        post (.ok received) (watch.next past (.exchange sent (bus.configuration profile) none)) bus)
    (refused : ∀ cause, watch.assumes (.exchange sent (bus.configuration profile) (some cause)) →
      watch.allows past (.exchange sent (bus.configuration profile) (some cause)) ∧
        post (.error (.transferFailed sent.length cause))
          (watch.next past (.exchange sent (bus.configuration profile) (some cause))) bus) :
    watch.Leads past bus (exchange sent profile : OnBus σ Bus (List UInt8)) post := by
  refine Monitor.leads_bind (Monitor.leads_memory (Monitor.leads_bind
    (Monitor.leads_call fun answer assumed => ?_)))
  cases answer with
  | ok received =>
    have ended := made (buffered sent.length received) assumed
    exact ⟨ended.1, Monitor.leads_pure ended.2⟩
  | error cause =>
    have ended := refused cause assumed
    exact ⟨ended.1, Monitor.leads_fail ended.2⟩

/-- A raw write is one call. -/
theorem leads_writeRaw {data : List UInt8} {post : Except Fault Nat → G → Bus → Prop}
    (answered : ∀ count, watch.assumes (.write data count) →
      watch.allows past (.write data count) ∧
        post (checkWritten data.length count) (watch.next past (.write data count)) bus) :
    watch.Leads past bus (writeRaw data : OnBus σ Bus Nat) post :=
  Monitor.leads_bind (Monitor.leads_call fun count assumed =>
    ⟨(answered count assumed).1, Monitor.leads_ofExcept (answered count assumed).2⟩)

/-- A raw read is one call. -/
theorem leads_readRaw {length : Nat} {post : Except Fault (List UInt8) → G → Bus → Prop}
    (answered : ∀ filling : Filling, watch.assumes (.read length filling.count) →
      watch.allows past (.read length filling.count) ∧
        post ((checkRead length filling.count).map fun _ => buffered length filling.bytes)
          (watch.next past (.read length filling.count)) bus) :
    watch.Leads past bus (readRaw length : OnBus σ Bus (List UInt8)) post := by
  refine Monitor.leads_bind (Monitor.leads_call fun filling assumed =>
    ⟨(answered filling assumed).1, Monitor.leads_bind (Monitor.leads_ofExcept ?_)⟩)
  have ended := (answered filling assumed).2
  cases checked : checkRead length filling.count with
  | ok count =>
    rw [checked] at ended
    exact Monitor.leads_pure ended
  | error fault =>
    rw [checked] at ended
    exact ended

end Watched

/-! ### One bracket each -/

/-- Under the secondary profile a frame is sent without switching. -/
theorem sendFrame_settled {frame : Frame} {rig : Rig σ Bus} {next : Unit → OnBus σ Bus α}
    (settled : rig.bus.Settled .secondary) :
    (sendFrame frame >>= next) rig = (strobed [frame.byte] >>= fun _ => next ()) rig := by
  rw [sendFrame, Action.bind_assoc]
  refine Action.bind_congr (withProfile_settled settled (steady_strobed _)) fun received _ => ?_
  rw [Action.pure_bind]

/-- **Pushing a payload takes one bracket.** -/
theorem pushPayload_eq (address : ModuleAddress) (data : List UInt8) :
    (pushPayload address data : OnBus σ Bus Nat) =
      withProfile .secondary (pushed address data) := by
  funext rig
  refine withProfile_congr fun inner entered => sendFrame_settled ?_
  rw [entered]
  exact Bus.switched_settled _ _

/-- **Pulling a byte takes one bracket.** -/
theorem pullByte_eq (address : ModuleAddress) :
    (pullByte address : OnBus σ Bus UInt8) = withProfile .secondary (pulled address) := by
  funext rig
  refine withProfile_congr fun inner entered => ?_
  have settled : inner.bus.Settled .secondary := by
    rw [entered]
    exact Bus.switched_settled _ _
  refine (sendFrame_settled settled).trans (Action.bind_congr rfl fun _ _ =>
    Action.bind_congr rfl fun _ _ => sendFrame_settled ?_)
  rw [steady_chipSelected (steady_drive _ _), steady_strobed]
  exact settled

/-! ### Operations -/

/-- The work of an operation, if it is not refused and there is anything to do. -/
def Command.work? (bus : Bus) : Command → Option Work
  | .transfer data => some (.exchange data)
  | .transferSecondary data => some (.strobed data)
  | .select address intent =>
    if inRange : address ≤ maxModuleAddress then
      some (.strobed [Frame.byte ⟨⟨address, inRange⟩, intent⟩])
    else none
  | .writeModule address data =>
    if inRange : address ≤ maxModuleAddress then some (.push ⟨address, inRange⟩ data) else none
  | .readModule address =>
    if inRange : address ≤ maxModuleAddress then some (.pull ⟨address, inRange⟩) else none
  | .assignExtension _ => none
  | .selectExtension channel =>
    match ExtensionCode.checked channel with
    | .ok code => bus.extension.map fun selector => .push selector [code.value]
    | .error _ => none
  | .parkExtension => bus.extension.map fun selector => .push selector [parkedCode]

/-- An operation comes down to work. -/
inductive Command.ComesTo (bus : Bus) : Command → Work → Prop
  | transfer (data : List UInt8) : ComesTo bus (.transfer data) (.exchange data)
  | transferSecondary (data : List UInt8) : ComesTo bus (.transferSecondary data) (.strobed data)
  | select (address : ModuleAddress) (intent : Intent) :
      ComesTo bus (.select address.value intent) (.strobed [Frame.byte ⟨address, intent⟩])
  | writeModule (address : ModuleAddress) (data : List UInt8) :
      ComesTo bus (.writeModule address.value data) (.push address data)
  | readModule (address : ModuleAddress) : ComesTo bus (.readModule address.value) (.pull address)
  | selectExtension (code : ExtensionCode) {selector : ModuleAddress}
      (configured : bus.extension = some selector) :
      ComesTo bus (.selectExtension code.value) (.push selector [code.value])
  | parkExtension {selector : ModuleAddress} (configured : bus.extension = some selector) :
      ComesTo bus .parkExtension (.push selector [parkedCode])

/-- **What the work of an operation can be.** -/
theorem Command.comesTo {command : Command} {bus : Bus} {work : Work}
    (found : command.work? bus = some work) : command.ComesTo bus work := by
  cases command with
  | transfer data =>
    cases found
    exact .transfer data
  | transferSecondary data =>
    cases found
    exact .transferSecondary data
  | select address intent =>
    obtain ⟨inRange, same⟩ := Option.dite_none_right_eq_some.mp found
    cases same
    exact .select ⟨address, inRange⟩ intent
  | writeModule address data =>
    obtain ⟨inRange, same⟩ := Option.dite_none_right_eq_some.mp found
    cases same
    exact .writeModule ⟨address, inRange⟩ data
  | readModule address =>
    obtain ⟨inRange, same⟩ := Option.dite_none_right_eq_some.mp found
    cases same
    exact .readModule ⟨address, inRange⟩
  | assignExtension address => cases found
  | selectExtension channel =>
    cases valid : ExtensionCode.checked channel with
    | error fault =>
      simp only [work?, valid] at found
      cases found
    | ok code =>
      simp only [work?, valid] at found
      obtain ⟨selector, configured, same⟩ := Option.map_eq_some_iff.mp found
      cases same
      rw [(ExtensionCode.checked_eq_ok channel code).mp valid]
      exact .selectExtension code configured
  | parkExtension =>
    obtain ⟨selector, configured, same⟩ := Option.map_eq_some_iff.mp found
    cases same
    exact .parkExtension configured

/-- An action that makes no calls and changes nothing. -/
def Quiet (body : OnBus σ Bus α) : Prop :=
  ∀ rig, (body rig).journal.events = [] ∧ (body rig).state = rig

omit [Devices σ] in
theorem quiet_pure (value : α) : Quiet (pure value : OnBus σ Bus α) := fun _ => ⟨rfl, rfl⟩

/-- What becomes of a code that was pushed. -/
def codeWritten (code : UInt8) (written : Nat) : OnBus σ Bus Unit :=
  if written = 1 then Action.note .debug s!"addressing: extension code {codeText code}"
  else Action.fail (.writeFailed 1 .writeZero)

omit [Devices σ] in
theorem quiet_codeWritten (code : UInt8) (written : Nat) :
    Quiet (codeWritten code written >>= fun _ => pure Reply.nothing : OnBus σ Bus Reply) := by
  intro rig
  unfold codeWritten
  split
  · exact ⟨rfl, rfl⟩
  · exact ⟨rfl, rfl⟩

/-- Writing a code is pushing it to the selector. -/
theorem writeCode_eq (selector : ModuleAddress) (code : UInt8) :
    (writeCode selector code : OnBus σ Bus Unit) =
      (Work.push selector [code]).run >>= codeWritten code := by
  rw [writeCode, pushPayload_eq]
  rfl

theorem writeCode_reply (selector : ModuleAddress) (code : UInt8) (rig : Rig σ Bus) :
    (writeCode selector code >>= fun _ => pure Reply.nothing) rig =
      ((Work.push selector [code]).run >>= fun written =>
        codeWritten code written >>= fun _ => pure Reply.nothing) rig := by
  rw [writeCode_eq]
  exact congrFun (Action.bind_assoc _ _ _) rig

/-- With a selector configured, routing the board writes the channel's code. -/
theorem routeExtension_configured {code : ExtensionCode} {selector : ModuleAddress}
    {rig : Rig σ Bus} (configured : rig.bus.extension = some selector) :
    routeExtension code rig = writeCode selector code.value rig := by
  simp only [routeExtension, Action.bind_apply, Rig.memory, configured, Journal.empty_append]

/-- With a selector configured, parking the board writes the parked code. -/
theorem parkExtension_configured {selector : ModuleAddress} {rig : Rig σ Bus}
    (configured : rig.bus.extension = some selector) :
    parkExtension rig = writeCode selector parkedCode rig := by
  simp only [parkExtension, Action.bind_apply, Rig.memory, configured, Journal.empty_append]

/-- **An operation is its work under its profile**, and then makes no more calls. -/
theorem Command.run_work {command : Command} {rig : Rig σ Bus} {work : Work}
    (found : command.work? rig.bus = some work) :
    ∃ finish : work.Yield → OnBus σ Bus Reply,
      (∀ value, Quiet (finish value)) ∧ command.run rig = (work.run >>= finish) rig := by
  cases Command.comesTo found with
  | transfer data => exact ⟨_, fun _ => quiet_pure _, rfl⟩
  | transferSecondary data => exact ⟨_, fun _ => quiet_pure _, rfl⟩
  | select address intent =>
    refine ⟨fun _ => pure .nothing, fun _ => quiet_pure _, ?_⟩
    simp only [Command.run, Serial.select, Frame.checked, ModuleAddress.checked_value,
      Except.map, Action.ofExcept_ok, Action.pure_bind, sendFrame, Action.bind_assoc]
    rfl
  | writeModule address data =>
    refine ⟨fun written => pure (.count written), fun _ => quiet_pure _, ?_⟩
    simp only [Command.run, Serial.writeModule, ModuleAddress.checked_value,
      Action.ofExcept_ok, Action.pure_bind, pushPayload_eq]
    rfl
  | readModule address =>
    refine ⟨fun byte => pure (.byte byte), fun _ => quiet_pure _, ?_⟩
    simp only [Command.run, Serial.readModule, ModuleAddress.checked_value,
      Action.ofExcept_ok, Action.pure_bind, pullByte_eq]
    rfl
  | selectExtension code configured =>
    refine ⟨_, fun written => quiet_codeWritten code.value written, ?_⟩
    refine Eq.trans ?_ (writeCode_reply _ code.value rig)
    simp only [Command.run, Serial.selectExtension,
      (ExtensionCode.checked_eq_ok code.value code).mpr rfl, Action.ofExcept_ok, Action.pure_bind]
    exact Action.bind_congr (routeExtension_configured configured) fun _ _ => rfl
  | parkExtension configured =>
    refine ⟨_, fun written => quiet_codeWritten parkedCode written, ?_⟩
    exact (Action.bind_congr (parkExtension_configured configured) fun _ _ => rfl).trans
      (writeCode_reply _ parkedCode rig)

/-- The calls of an operation are those of its work, and it ends where its work ends. -/
theorem Command.run_calls {command : Command} {rig : Rig σ Bus} {work : Work}
    (found : command.work? rig.bus = some work) :
    (command.run rig).journal.events = (work.run rig).journal.events ∧
      (command.run rig).state = (work.run rig).state := by
  obtain ⟨finish, quiet, same⟩ := Command.run_work found
  rw [same, Action.bind_apply]
  cases (work.run rig).result with
  | error fault => exact ⟨rfl, rfl⟩
  | ok value =>
    obtain ⟨silent, still⟩ := quiet value (work.run rig).state
    simp only [Journal.events_append, silent, List.append_nil, still, and_self]

/-- **An operation without work makes no calls** and changes at most the selector's address. -/
theorem Command.run_idle {command : Command} {rig : Rig σ Bus}
    (idle : command.work? rig.bus = none) :
    (command.run rig).journal.events = [] ∧ ∃ extension,
      (command.run rig).state = ⟨rig.devices, { rig.bus with extension }⟩ := by
  cases command with
  | transfer data => cases idle
  | transferSecondary data => cases idle
  | select address intent =>
    have outside : ¬ address ≤ maxModuleAddress := fun inRange => by
      simp [Command.work?, inRange] at idle
    simp only [Command.run, Serial.select, Frame.checked, ModuleAddress.checked, outside]
    exact ⟨rfl, rig.bus.extension, rfl⟩
  | writeModule address data =>
    have outside : ¬ address ≤ maxModuleAddress := fun inRange => by
      simp [Command.work?, inRange] at idle
    simp only [Command.run, Serial.writeModule, ModuleAddress.checked, outside]
    exact ⟨rfl, rig.bus.extension, rfl⟩
  | readModule address =>
    have outside : ¬ address ≤ maxModuleAddress := fun inRange => by
      simp [Command.work?, inRange] at idle
    simp only [Command.run, Serial.readModule, ModuleAddress.checked, outside]
    exact ⟨rfl, rig.bus.extension, rfl⟩
  | assignExtension address =>
    simp only [Command.run, Serial.assignExtension]
    cases ModuleAddress.checked address with
    | error fault => exact ⟨rfl, rig.bus.extension, rfl⟩
    | ok selector => exact ⟨rfl, some selector, rfl⟩
  | selectExtension channel =>
    simp only [Command.run, Serial.selectExtension]
    cases valid : ExtensionCode.checked channel with
    | error fault => exact ⟨rfl, rig.bus.extension, rfl⟩
    | ok code =>
      simp only [Command.work?, valid, Option.map_eq_none_iff] at idle
      simp only [Action.ofExcept_ok, Action.pure_bind, routeExtension, Action.bind_apply,
        Rig.memory, idle]
      exact ⟨rfl, none, by rw [← idle]; rfl⟩
  | parkExtension =>
    have missing : rig.bus.extension = none := Option.map_eq_none_iff.mp idle
    simp only [Command.run, Serial.parkExtension, Action.bind_apply, Rig.memory, missing]
    exact ⟨rfl, none, by rw [← missing]; rfl⟩

end SensorCape.Serial
