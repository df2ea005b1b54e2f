/-
**The addressing protocol.**

Raw traffic reaches whichever module was addressed last, so a payload must follow its own frame with
nothing in between. Every raw write and raw read of every run comes right after the calls that
address its module, all of them successful, and carries the data of the operation that made it.

* `Frames`: the layout of an address frame, bit by bit; `frame_frames` — frames are laid out so.
* `Command.raw_traffic`: an operation makes at most one raw call, right after its lead.
* `raw_traffic_addressed`: **so does every raw call of every script.**
-/

import SensorCape.Bench.Board
import SensorCape.Proofs.Serial.Stages

set_option linter.unusedSectionVars false

namespace SensorCape.Serial

/-! ### Frames -/

/-- A byte frames a module address and an intent: the address stands in bits 3 to 6, the code of the
intent in bits 0 to 2, and the number of ones among bits 3 to 7 is even. -/
structure Frames (byte address : UInt8) (intent : Intent) : Prop where
  addressed : ∀ place < 4, byte.toNat.testBit (3 + place) = address.toNat.testBit place
  intended : ∀ place < 3, byte.toNat.testBit place = intent.code.toNat.testBit place
  even : [3, 4, 5, 6, 7].countP byte.toNat.testBit % 2 = 0

/-- What holds of sixteen bytes holds of every module address. -/
theorem ModuleAddress.forall_value (holds : UInt8 → Prop)
    (all : ∀ number : Fin 16, holds (UInt8.ofNat number)) (address : ModuleAddress) :
    holds address.value := by
  have below : address.value.toNat < 16 := by
    have atMost : address.value.toNat ≤ 15 := UInt8.le_iff_toNat_le.mp address.inRange
    omega
  have found := all ⟨address.value.toNat, below⟩
  rwa [UInt8.ofNat_toNat] at found

/-- **An address frame is laid out as documented.** -/
theorem frame_frames (address : ModuleAddress) (intent : Intent) :
    Frames (Frame.byte ⟨address, intent⟩) address.value intent := by
  refine ModuleAddress.forall_value (fun value =>
    Frames ((((parity value <<< 4) ||| value) <<< 3) ||| intent.code) value intent) ?_ address
  intro number
  cases intent with
  | write => exact ⟨by decide +revert, by decide +revert, by decide +revert⟩
  | readReady => exact ⟨by decide +revert, by decide +revert, by decide +revert⟩
  | readExecute => exact ⟨by decide +revert, by decide +revert, by decide +revert⟩

/-- The layout leaves no choice. -/
theorem Frames.unique {byte other address : UInt8} {intent : Intent}
    (frames : Frames byte address intent) (same : Frames other address intent) : byte = other := by
  refine UInt8.toNat_inj.mp (Nat.eq_of_testBit_eq fun place => ?_)
  have middle : ∀ place < 4, byte.toNat.testBit (3 + place) = other.toNat.testBit (3 + place) :=
    fun place below => (frames.addressed place below).trans (same.addressed place below).symm
  have top : byte.toNat.testBit 7 = other.toNat.testBit 7 := by
    have three : byte.toNat.testBit 3 = other.toNat.testBit 3 := middle 0 (by decide)
    have four : byte.toNat.testBit 4 = other.toNat.testBit 4 := middle 1 (by decide)
    have five : byte.toNat.testBit 5 = other.toNat.testBit 5 := middle 2 (by decide)
    have six : byte.toNat.testBit 6 = other.toNat.testBit 6 := middle 3 (by decide)
    have parity := frames.even.trans same.even.symm
    simp only [List.countP_cons, List.countP_nil, three, four, five, six] at parity
    cases ours : byte.toNat.testBit 7 <;> cases theirs : other.toNat.testBit 7 <;>
      simp only [ours, theirs, Bool.false_eq_true, if_true, if_false] at parity ⊢ <;> omega
  by_cases low : place < 3
  · exact (frames.intended place low).trans (same.intended place low).symm
  by_cases inside : place < 7
  · have shifted := middle (place - 3) (by omega)
    rwa [Nat.add_sub_cancel' (Nat.le_of_not_lt low)] at shifted
  by_cases last : place = 7
  · rw [last]
    exact top
  · have small : ∀ value : UInt8, value.toNat < 2 ^ place := fun value =>
      Nat.lt_of_lt_of_le value.toNat_lt
        (Nat.pow_le_pow_right Nat.zero_lt_two (by omega : 8 ≤ place))
    rw [Nat.testBit_lt_two_pow (small byte), Nat.testBit_lt_two_pow (small other)]

/-! ### The protocol -/

/-- Raw traffic: bytes that move without a frame of their own. -/
def IsRaw : Event → Prop
  | .write _ _ | .read _ _ => True
  | _ => False

/-- What comes right before a payload: its frame goes out under the strobe, and chip-select
falls. -/
def writeLead (frame : UInt8) (under : Configuration) : List Event :=
  [.drive .strobe .low none, .exchange [frame] under none, .drive .strobe .high none,
    .drive .chipSelect .high none, .drive .chipSelect .low none, .drive .chipSelect .low none]

/-- What comes right before a byte is taken: the frame that arms the module and, with chip-select
fallen and raised in between, the frame that makes it give out the byte. -/
def readLead (ready execute : UInt8) (under : Configuration) : List Event :=
  [.drive .strobe .low none, .exchange [ready] under none, .drive .strobe .high none,
    .drive .chipSelect .low none, .drive .chipSelect .high none, .drive .strobe .low none,
    .exchange [execute] under none, .drive .strobe .high none, .drive .chipSelect .low none]

/-- The payload that an operation pushes to a module: the data it was given, the code of a channel,
or the parked code; the codes go to the selector that is configured. -/
def Command.Pushes (bus : Bus) : Command → UInt8 → List UInt8 → Prop
  | .writeModule module payload, address, data => address = module ∧ data = payload
  | .selectExtension channel, address, data =>
    (∃ selector, bus.extension = some selector ∧ address = selector.value) ∧ data = [channel]
  | .parkExtension, address, data =>
    (∃ selector, bus.extension = some selector ∧ address = selector.value) ∧ data = [0]
  | _, _, _ => False

/-- A raw call of an operation comes right after the lead that addresses its module: a write carries
what the operation pushes to that module, and a read takes the one byte that the operation asks the
module for. -/
def Command.Addresses (bus : Bus) (command : Command) (before : List Event) : Event → Prop
  | .write data _ => ∃ address frame, command.Pushes bus address data ∧
      Frames frame address .write ∧ writeLead frame (bus.configuration .secondary) <:+ before
  | .read length _ => ∃ address ready execute, command = .readModule address ∧ length = 1 ∧
      Frames ready address .readReady ∧ Frames execute address .readExecute ∧
        readLead ready execute (bus.configuration .secondary) <:+ before
  | _ => True

/-! ### Calls that come out in order -/

/-- Remembers every call, and lets a raw call pass only if it is the first one and `judge` accepts
it after the calls before it. -/
def addressing (judge : List Event → Event → Prop) : Monitor (List Event) :=
  .history fun past event => IsRaw event → (∀ other ∈ past, ¬ IsRaw other) ∧ judge past event

section Ordered

variable {σ α β : Type} {judge : List Event → Event → Prop} {past events more : List Event}
  {bus : Bus}

/-- If a body succeeds, it has made exactly some calls and left the bus as it was. -/
def Emits (judge : List Event → Event → Prop) (past : List Event) (bus : Bus)
    (body : OnBus σ Bus α) (events : List Event) : Prop :=
  (addressing judge).Leads past bus body fun result after last =>
    ∀ value, result = .ok value → after = past ++ events ∧ last = bus

/-- The raw calls of a body pass. -/
def Passes (judge : List Event → Event → Prop) (past : List Event) (bus : Bus)
    (body : OnBus σ Bus α) : Prop :=
  (addressing judge).Leads past bus body fun _ _ _ => True

theorem Emits.passes {body : OnBus σ Bus α} (emits : Emits judge past bus body events) :
    Passes judge past bus body := Monitor.leads_mono emits fun _ _ _ _ => trivial

theorem emits_bind {first : OnBus σ Bus α} {next : α → OnBus σ Bus β}
    (emits : Emits judge past bus first events)
    (follow : ∀ value, Emits judge (past ++ events) bus (next value) more) :
    Emits judge past bus (first >>= next) (events ++ more) := by
  refine Monitor.leads_bind (Monitor.leads_mono emits ?_)
  rintro (fault | value) after last reached
  · exact nofun
  · obtain ⟨rfl, rfl⟩ := reached value rfl
    rw [← List.append_assoc]
    exact follow value

theorem emits_ensuring {body : OnBus σ Bus α} {cleanup : OnBus σ Bus Unit}
    (emits : Emits judge past bus body events)
    (follow : ∀ past bus, Emits judge past bus cleanup more) :
    Emits judge past bus (Action.ensuring body cleanup) (events ++ more) := by
  refine Monitor.leads_ensuring (Monitor.leads_mono emits ?_)
  intro inner after last reached
  refine Monitor.leads_mono (follow after last) ?_
  intro outer finished final ended value settled
  obtain ⟨went, cleaned⟩ := (Action.settled_eq_ok inner outer value).mp settled
  obtain ⟨rfl, rfl⟩ := reached value went
  rw [← List.append_assoc]
  exact ended () cleaned

theorem passes_bind {first : OnBus σ Bus α} {next : α → OnBus σ Bus β}
    (emits : Emits judge past bus first events)
    (follow : ∀ value, Passes judge (past ++ events) bus (next value)) :
    Passes judge past bus (first >>= next) := by
  refine Monitor.leads_bind (Monitor.leads_mono emits ?_)
  rintro (fault | value) after last reached
  · exact trivial
  · obtain ⟨rfl, rfl⟩ := reached value rfl
    exact follow value

theorem passes_ensuring {body : OnBus σ Bus α} {cleanup : OnBus σ Bus Unit}
    (passes : Passes judge past bus body) (follow : ∀ past bus, Passes judge past bus cleanup) :
    Passes judge past bus (Action.ensuring body cleanup) :=
  Monitor.leads_ensuring (Monitor.leads_mono passes fun _ after last _ => follow after last)

variable [Devices σ]

theorem emits_drive (line : Line) (how : Drive) (past : List Event) (bus : Bus) :
    Emits judge past bus (Rig.drive line how : OnBus σ Bus Unit) [.drive line how none] :=
  Monitor.leads_drive (fun _ => ⟨False.elim, fun _ _ => ⟨rfl, rfl⟩⟩) fun _ _ => ⟨False.elim, nofun⟩

theorem emits_exchange (sent : List UInt8) (profile : Profile) :
    Emits judge past bus (exchange sent profile : OnBus σ Bus (List UInt8))
      [.exchange sent (bus.configuration profile) none] :=
  leads_exchange (fun _ _ => ⟨False.elim, fun _ _ => ⟨rfl, rfl⟩⟩) fun _ _ => ⟨False.elim, nofun⟩

theorem emits_strobed (sent : List UInt8) :
    Emits judge past bus (strobed sent : OnBus σ Bus (List UInt8))
      [.drive .strobe .low none, .exchange sent (bus.configuration .secondary) none,
        .drive .strobe .high none] :=
  emits_bind (emits_drive _ _ _ _) fun _ => emits_ensuring (emits_exchange _ _) (emits_drive _ _)

theorem passes_chipSelected {body : OnBus σ Bus α} (passes : Passes judge past bus body) :
    Passes judge past bus (chipSelected body) :=
  passes_ensuring passes fun past bus => (emits_drive _ _ past bus).passes

theorem passes_writeRaw {data : List UInt8} (first : ∀ other ∈ past, ¬ IsRaw other)
    (judged : ∀ count, judge past (.write data count)) :
    Passes judge past bus (writeRaw data : OnBus σ Bus Nat) :=
  leads_writeRaw fun count _ => ⟨fun _ => ⟨first, judged count⟩, trivial⟩

theorem passes_readRaw {length : Nat} (first : ∀ other ∈ past, ¬ IsRaw other)
    (judged : ∀ count, judge past (.read length count)) :
    Passes judge past bus (readRaw length : OnBus σ Bus (List UInt8)) :=
  leads_readRaw fun filling _ => ⟨fun _ => ⟨first, judged filling.count⟩, trivial⟩

/-- Calls before a lead that are not raw, and the lead itself, hold no raw call. -/
theorem first_after {lead : List Event} (first : ∀ other ∈ past, ¬ IsRaw other)
    (leading : ∀ other ∈ lead, ¬ IsRaw other) : ∀ other ∈ past ++ lead, ¬ IsRaw other :=
  List.forall_mem_append.mpr ⟨first, leading⟩

theorem passes_pushed {address : ModuleAddress} {data : List UInt8}
    (first : ∀ other ∈ past, ¬ IsRaw other)
    (judged : ∀ count, judge (past ++ writeLead (Frame.byte ⟨address, .write⟩)
      (bus.configuration .secondary)) (.write data count)) :
    Passes judge past bus (pushed address data : OnBus σ Bus Nat) := by
  refine passes_bind (emits_strobed _) fun _ => passes_chipSelected ?_
  refine passes_bind (emits_drive _ _ _ _) fun _ => passes_bind (emits_drive _ _ _ _) fun _ =>
    passes_bind (emits_drive _ _ _ _) fun _ => ?_
  simp only [List.append_assoc]
  exact passes_writeRaw (first_after first (by simp [IsRaw])) judged

theorem passes_pulled {address : ModuleAddress} (first : ∀ other ∈ past, ¬ IsRaw other)
    (judged : ∀ count, judge (past ++ readLead (Frame.byte ⟨address, .readReady⟩)
      (Frame.byte ⟨address, .readExecute⟩) (bus.configuration .secondary)) (.read 1 count)) :
    Passes judge past bus (pulled address : OnBus σ Bus UInt8) := by
  refine passes_bind (emits_strobed _) fun _ => ?_
  refine passes_bind (emits_ensuring (emits_drive _ _ _ _) (emits_drive _ _)) fun _ => ?_
  refine passes_bind (emits_strobed _) fun _ => passes_chipSelected ?_
  refine passes_bind (emits_drive _ _ _ _) fun _ => ?_
  simp only [List.append_assoc]
  refine Monitor.leads_bind (Monitor.leads_mono
    (passes_readRaw (first_after first (by simp [IsRaw])) judged) ?_)
  rintro (fault | bytes) after last -
  · exact trivial
  · exact Monitor.leads_pure trivial

/-! ### Work and operations -/

/-- The raw call of work is accepted right after its lead. -/
def Work.Judged (judge : List Event → Event → Prop) (under : Configuration) : Work → Prop
  | .exchange _ | .strobed _ => True
  | .push address data => ∀ before count,
      judge (before ++ writeLead (Frame.byte ⟨address, .write⟩) under) (.write data count)
  | .pull address => ∀ before count,
      judge (before ++ readLead (Frame.byte ⟨address, .readReady⟩)
        (Frame.byte ⟨address, .readExecute⟩) under) (.read 1 count)

theorem Work.passes (work : Work) (judged : work.Judged judge (bus.configuration .secondary))
    (first : ∀ other ∈ past, ¬ IsRaw other) :
    Passes judge past bus (work.body : OnBus σ Bus work.Yield) := by
  cases work with
  | exchange sent => exact (emits_exchange sent .primary).passes
  | strobed sent => exact (emits_strobed sent).passes
  | push address data => exact passes_pushed first (judged past)
  | pull address => exact passes_pulled first (judged past)

/-- A switch makes no raw calls. -/
theorem leads_switchTo_addressing (profile : Profile) (first : ∀ other ∈ past, ¬ IsRaw other) :
    (addressing judge).Leads past bus (switchTo profile : OnBus σ Bus Unit) fun result after last =>
      (∀ other ∈ after, ¬ IsRaw other) ∧ (result = .ok () → last = bus.switched profile) := by
  have tracks : Tracks (addressing judge) (bus.configuration profile)
      (fun past _ => ∀ other ∈ past, ¬ IsRaw other)
      fun _ past _ => ∀ other ∈ past, ¬ IsRaw other := by
    refine Tracks.unwatched _ (fun _ _ _ _ => False.elim) fun past setting failure first => ?_
    refine first_after first fun other member => ?_
    rw [List.mem_singleton.mp member]
    exact False.elim
  refine Monitor.leads_mono (leads_switchTo tracks first) ?_
  rintro (fault | _) after last reached
  · exact ⟨reached.1, nofun⟩
  · exact ⟨reached.1, fun _ => reached.2⟩

theorem passes_switchTo (profile : Profile) (past : List Event) (bus : Bus) :
    Passes judge past bus (switchTo profile : OnBus σ Bus Unit) := by
  have tracks : Tracks (addressing judge) (bus.configuration profile)
      (fun _ _ => True) fun _ _ _ => True :=
    Tracks.unwatched (fun _ => True) (fun _ _ _ _ => False.elim) fun _ _ _ _ => trivial
  exact Monitor.leads_mono (leads_switchTo tracks trivial) fun _ _ _ _ => trivial

/-- **Work makes at most one raw call**, right after its lead, in whatever profile the bus is. -/
theorem Work.passes_run (work : Work) (judged : work.Judged judge (bus.configuration .secondary)) :
    Passes judge [] bus (work.run : OnBus σ Bus work.Yield) := by
  refine leads_withProfile (Monitor.leads_mono
    (leads_switchTo_addressing _ fun _ member => absurd member List.not_mem_nil) ?_)
  rintro (fault | _) past inner ⟨first, entered⟩
  · exact passes_switchTo _ _ _
  · obtain rfl := entered rfl
    rw [← bus.switched_configuration work.profile] at judged
    exact Monitor.leads_mono (work.passes judged first) fun _ past last _ => passes_switchTo _ _ _

end Ordered

/-- The raw call of an operation's work is the one that the operation asks for. -/
theorem Command.work_judged {command : Command} {bus : Bus} {work : Work}
    (found : command.work? bus = some work) :
    work.Judged (command.Addresses bus) (bus.configuration .secondary) := by
  cases Command.comesTo found with
  | transfer data => exact trivial
  | transferSecondary data => exact trivial
  | select address intent => exact trivial
  | writeModule address data =>
    exact fun before _ => ⟨address.value, _, ⟨rfl, rfl⟩, frame_frames address .write,
      List.suffix_append before _⟩
  | readModule address =>
    exact fun before _ => ⟨address.value, _, _, rfl, rfl, frame_frames address .readReady,
      frame_frames address .readExecute, List.suffix_append before _⟩
  | selectExtension code configured =>
    exact fun before _ => ⟨_, _, ⟨⟨_, configured, rfl⟩, rfl⟩, frame_frames _ .write,
      List.suffix_append before _⟩
  | parkExtension configured =>
    exact fun before _ => ⟨_, _, ⟨⟨_, configured, rfl⟩, rfl⟩, frame_frames _ .write,
      List.suffix_append before _⟩

variable {σ : Type} [Devices σ]

/-- **An operation makes at most one raw call**, and that one right after the lead that addresses
its module. -/
theorem Command.raw_traffic (command : Command) (rig : Rig σ Bus) :
    (addressing (command.Addresses rig.bus)).Admits [] (command.run rig).journal.events := by
  cases found : command.work? rig.bus with
  | none =>
    rw [(Command.run_idle found).1]
    exact trivial
  | some work =>
    rw [(Command.run_calls found).1]
    exact (Monitor.Leads.run [] rig (work.passes_run (Command.work_judged found))
      fun _ _ => trivial).1

/-- A raw call that was let through was judged by the calls before it, and is the only one. -/
theorem only_raw {judge : List Event → Event → Prop} {inside rest : List Event} {event : Event}
    (admitted : (addressing judge).Admits [] (inside ++ event :: rest)) (raw : IsRaw event) :
    judge inside event ∧ ∀ other ∈ inside ++ rest, ¬ IsRaw other := by
  obtain ⟨first, judged⟩ := Monitor.admits_split admitted raw
  simp only [addressing, Monitor.after_history, List.nil_append] at first judged
  refine ⟨judged, List.forall_mem_append.mpr ⟨first, fun other member another => ?_⟩⟩
  obtain ⟨between, tail, rfl⟩ := List.append_of_mem member
  rw [← List.cons_append, ← List.append_assoc] at admitted
  have alone := (Monitor.admits_split admitted another).1 event
  rw [addressing, Monitor.after_history] at alone
  exact alone (by simp) raw

/-! ### Runs -/

/-- A switch of a bracket makes no raw calls. -/
theorem Stage.switch_not_raw (profile : Profile) (rig : Rig σ Bus) :
    ∀ event ∈ (⟨.switch profile, rig⟩ : Stage σ).events, ¬ IsRaw event := by
  have leads : (addressing fun _ _ => True).Leads [] rig.bus (switchTo profile : OnBus σ Bus Unit)
      _ := leads_switchTo_addressing profile fun _ member => absurd member List.not_mem_nil
  have switched := (Monitor.Leads.run [] rig leads fun _ _ => trivial).2.1
  rw [addressing, Monitor.after_history, List.nil_append] at switched
  rw [Stage.events_switch]
  exact switched

/-- **Raw traffic obeys the addressing protocol.** In every run of every script, from any state of
the bus and whichever calls fail, a raw call is made by an operation; right before it that operation
has made the calls that address its module; and it makes no other raw call. -/
theorem raw_traffic_addressed (script : Script) (start : Rig σ Bus) {before after : List Event}
    {event : Event} (split : (script.run start).journal.events = before ++ event :: after)
    (raw : IsRaw event) :
    ∃ earlier command rig later inside rest,
      script.stages start = earlier ++ ⟨.operation command, rig⟩ :: later ∧
        before = trace earlier ++ inside ∧ after = rest ++ trace later ∧
        (command.run rig).journal.events = inside ++ event :: rest ∧
        command.Addresses rig.bus inside event ∧ ∀ other ∈ inside ++ rest, ¬ IsRaw other := by
  rw [(Script.run_stages script start).2] at split
  obtain ⟨earlier, ⟨act, rig⟩, later, inside, rest, stages, calls, rfl, rfl⟩ := trace_split split
  cases act with
  | switch profile =>
    have member : event ∈ (⟨.switch profile, rig⟩ : Stage σ).events := by
      rw [calls]
      exact List.mem_append_right inside List.mem_cons_self
    exact absurd raw (Stage.switch_not_raw profile rig event member)
  | operation command =>
    have admitted := command.raw_traffic rig
    have made : (command.run rig).journal.events = inside ++ event :: rest := calls
    rw [made] at admitted
    obtain ⟨addressed, alone⟩ := only_raw admitted raw
    exact ⟨earlier, command, rig, later, inside, rest, stages, rfl, rfl, made, addressed, alone⟩

/-- A bus with a selector, on a device that refuses its first exchange. -/
def refusing : Rig (Bench.Board Unit) Bus where
  devices := (Bench.Board.fresh []).planned [⟨.exchange, 0, .cause .timedOut⟩]
  bus := { Bus.fresh ⟨⟨0⟩, 16, 500000⟩ with extension := some ⟨6, by decide⟩ }

/-- A payload whose fault is ignored, and then a channel of the extension board. -/
def retried : Script :=
  .bracket .primary
    (.step (.writeModule 3 [7]) true (.step (.selectExtension 5) false .finish)) false .finish

/-- The payload of which the frame was refused never goes out. The code of the channel does, after
a frame of its own. -/
theorem retried_code_addressed : ∃ before after,
    (retried.run refusing).journal.events = before ++ .write [5] (.moved 1) :: after ∧
      ∃ earlier command rig later inside rest,
        retried.stages refusing = earlier ++ ⟨.operation command, rig⟩ :: later ∧
          before = trace earlier ++ inside ∧ after = rest ++ trace later ∧
          (command.run rig).journal.events = inside ++ .write [5] (.moved 1) :: rest ∧
          command.Addresses rig.bus inside (.write [5] (.moved 1)) ∧
          ∀ other ∈ inside ++ rest, ¬ IsRaw other := by
  have split : (retried.run refusing).journal.events =
      (retried.run refusing).journal.events.take 15 ++
        .write [5] (.moved 1) :: (retried.run refusing).journal.events.drop 16 := by decide
  exact ⟨_, _, split, raw_traffic_addressed retried refusing split trivial⟩

end SensorCape.Serial
