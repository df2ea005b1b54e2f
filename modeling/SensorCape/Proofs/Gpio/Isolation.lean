/-
**Lines do not disturb each other.**

All lines of a bank share the word of their directions, which is read and written as a whole, and the
four banks share one memory. On memory that keeps what was stored, the direction of a line is
nevertheless the last one that the line itself was given, through whichever of its objects.

* `PlainMemory`: a word of the four windows keeps what was stored there last. `Flat` is such memory:
  one word at every physical address, and the windows do not overlap.
* `load_apply`: which word a use of a line changes, and how.
* `last_wins`: what every use either sets or leaves is at the end as it was set last.
* `lines_isolated`: **all words of the four windows, and all samples, after any uses of any lines.**
-/

import Mathlib.Data.Nat.Bitwise
import SensorCape.Gpio.Banks

namespace SensorCape.Gpio

/-! ### Plain memory -/

/-- The number of words in a window. -/
def windowWords : Nat := windowLength / wordLength

/-- A memory device whose windows are memory: a word keeps what was stored there last. -/
class PlainMemory (σ : Type) [MemoryDevice σ] : Prop where
  load_store {bank word other place : Nat} (value : UInt32) (memory : σ)
    (onBank : bank < bankCount) (inWindow : word < windowWords)
    (onOther : other < bankCount) (alsoInWindow : place < windowWords) :
    MemoryDevice.load other place (MemoryDevice.store bank word value memory) =
      if other = bank ∧ place = word then value else MemoryDevice.load other place memory

instance : PlainMemory Memory where
  load_store value memory _ _ _ _ := by
    simp only [MemoryDevice.load, MemoryDevice.store, Memory.store]

/-- Physical memory, with one word at every address. -/
structure Flat where
  words : (address : Nat) → UInt32

/-- The physical address of a word in a bank's window. -/
def wordAddress (bank word : Nat) : Nat :=
  bankBases.getD bank 0 + wordLength * word

instance : MemoryDevice Flat where
  acquire memory := (none, memory)
  map _ memory := (none, memory)
  load bank word memory := memory.words (wordAddress bank word)
  store bank word value memory :=
    ⟨fun address => if address = wordAddress bank word then value else memory.words address⟩

section Addresses

variable {bank word other place : Nat}

/-- The windows of two banks do not overlap. -/
theorem windows_apart : ∀ bank < bankCount, ∀ other < bankCount, bank ≠ other →
    bankBases.getD bank 0 + windowLength ≤ bankBases.getD other 0 ∨
      bankBases.getD other 0 + windowLength ≤ bankBases.getD bank 0 := by
  decide

/-- No two words of the four windows have one address. -/
theorem wordAddress_inj (onBank : bank < bankCount) (inWindow : word < windowWords)
    (onOther : other < bankCount) (alsoInWindow : place < windowWords) :
    wordAddress other place = wordAddress bank word ↔ other = bank ∧ place = word := by
  constructor
  · intro same
    simp only [wordAddress, wordLength] at same
    simp only [windowWords, windowLength, wordLength] at inWindow alsoInWindow
    by_cases alike : other = bank
    · subst alike
      exact ⟨rfl, by omega⟩
    · have apart := windows_apart other onOther bank onBank alike
      simp only [windowLength] at apart
      omega
  · rintro ⟨rfl, rfl⟩
    rfl

end Addresses

instance : PlainMemory Flat where
  load_store value memory onBank inWindow onOther alsoInWindow := by
    simp only [MemoryDevice.load, MemoryDevice.store,
      wordAddress_inj onBank inWindow onOther alsoInWindow]

/-! ### Bits of a word -/

/-- Whether a word has a one at a bit. -/
def hasBit (word : UInt32) (bit : Nat) : Bool := word.toNat.testBit bit

section Bits

variable {bit : Nat} (word : UInt32) (pin : Pin)

theorem mask_toNat : pin.mask.toNat = 2 ^ pin.bit := by
  have all : ∀ bit < linesPerBank, ((1 : UInt32) <<< UInt32.ofNat bit).toNat = 2 ^ bit := by decide
  exact all pin.bit pin.bit_lt

theorem mask_eq : pin.mask = .ofNat (2 ^ pin.bit) := by
  have small : 2 ^ pin.bit < 2 ^ 32 := Nat.pow_lt_pow_right (by decide) pin.bit_lt
  rw [← UInt32.toNat_inj, mask_toNat, UInt32.toNat_ofNat', Nat.mod_eq_of_lt small]

theorem hasBit_mask : hasBit pin.mask bit = decide (pin.bit = bit) := by
  rw [hasBit, mask_toNat, Nat.testBit_two_pow]

theorem hasBit_and (other : UInt32) :
    hasBit (word &&& other) bit = (hasBit word bit && hasBit other bit) := by
  simp only [hasBit, UInt32.toNat_and, Nat.testBit_and]

theorem hasBit_or (other : UInt32) :
    hasBit (word ||| other) bit = (hasBit word bit || hasBit other bit) := by
  simp only [hasBit, UInt32.toNat_or, Nat.testBit_or]

theorem hasBit_not (inWord : bit < linesPerBank) : hasBit (~~~word) bit = !hasBit word bit := by
  rw [hasBit, hasBit, ← UInt32.toNat_toBitVec, ← UInt32.toNat_toBitVec, UInt32.toBitVec_not,
    BitVec.testBit_toNat, BitVec.testBit_toNat, BitVec.getLsbD_not]
  simp [show bit < 32 from inWord]

theorem and_mask_ne_zero : (word &&& pin.mask != 0) = hasBit word pin.bit := by
  have zero : word &&& pin.mask = 0 ↔ (word &&& pin.mask).toNat = 0 := UInt32.toNat_inj.symm
  rw [UInt32.toNat_and, mask_toNat, Nat.and_two_pow] at zero
  rw [hasBit]
  cases there : word.toNat.testBit pin.bit <;> simp [there, zero]

end Bits

/-! ### One use of a line -/

/-- What can be done with a line. -/
inductive Act
  | drive (how : Drive)
  | sample
  deriving DecidableEq, Repr

/-- A line and what is done with it. -/
structure Use where
  line : Line
  act : Act
  deriving DecidableEq, Repr

/-- The register that driving a line writes. -/
def written : Drive → Register
  | .output | .input => .outputEnable
  | .high => .setDataOut
  | .low => .clearDataOut

variable {σ : Type} [MemoryDevice σ]

namespace Use

/-- Uses a line; a sample gives a level. -/
def perform (use : Use) : OnBanks σ (Option Level) :=
  match use.act with
  | .drive how => do
    use.line.drive how
    pure none
  | .sample => do
    let level ← use.line.level
    pure (some level)

/-- The memory after a use. -/
def after (memory : σ) (use : Use) : σ :=
  match use.act with
  | .drive how => use.line.pin.apply how memory
  | .sample => memory

/-- What a use sees: the line's own bit among the levels of its bank. -/
def seen (memory : σ) (use : Use) : Option Level :=
  match use.act with
  | .drive _ => none
  | .sample =>
    some (.ofBool (hasBit (MemoryDevice.load use.line.pin.bank Register.dataIn.word memory)
      use.line.pin.bit))

/-- The direction bit that a use gives to a line by its number across the banks, if it does. -/
def direction? (number : Nat) (use : Use) : Option Bool :=
  if use.line.pin.number.toNat = number then
    match use.act with
    | .drive .output => some false
    | .drive .input => some true
    | _ => none
  else none

/-- The word with a single one that a use writes to drive a line of a bank to a level, if it
does. -/
def single? (how : Drive) (bank : Nat) (use : Use) : Option UInt32 :=
  if use.act = .drive how ∧ use.line.pin.bank = bank then some (.ofNat (2 ^ use.line.pin.bit))
  else none

end Use

/-- Uses lines one after the other. -/
def performAll : List Use → OnBanks σ (List (Option Level))
  | [] => pure []
  | use :: rest => do
    let seen ← use.perform
    let others ← performAll rest
    pure (seen :: others)

section Single

variable (use : Use) (controller : Controller σ) (memory : σ)

theorem Line.onBank (line : Line) : line.pin.bank < bankCount := by
  rw [← line.onWindow]
  exact line.window.inRange

theorem Use.perform_eq : use.perform controller =
    ⟨.ok (use.seen controller.memory), .empty,
      { controller with memory := use.after controller.memory }⟩ := by
  obtain ⟨line, how | _⟩ := use
  · rfl
  · have level : line.pin.level controller.memory =
        .ofBool (hasBit (MemoryDevice.load line.pin.bank Register.dataIn.word controller.memory)
          line.pin.bit) := by
      rw [Pin.level, and_mask_ne_zero, Pin.load]
    simp [perform, Action.bind_apply, Line.level, level, seen, after]

/-- The word that driving a pin writes, made from the one that was there. -/
def driven (pin : Pin) (how : Drive) (old : UInt32) : UInt32 :=
  match how with
  | .output => old &&& ~~~pin.mask
  | .input => old ||| pin.mask
  | .high | .low => pin.mask

theorem driven_toLevel (pin : Pin) (level : Level) (old : UInt32) :
    driven pin (.toLevel level) old = pin.mask := by
  cases level <;> rfl

theorem written_toLevel {level : Level} {how : Drive}
    (same : (written (.toLevel level)).word = (written how).word) : .toLevel level = how := by
  cases level <;> cases how <;> first | rfl | exact absurd same (by decide)

theorem word_lt (register : Register) : register.word < windowWords := by
  cases register <;> decide

variable [PlainMemory σ]

/-- **Driving a pin changes one word of its own bank.** -/
theorem load_apply {pin : Pin} {bank word : Nat} (how : Drive) (onBank : pin.bank < bankCount)
    (onOther : bank < bankCount) (inWindow : word < windowWords) :
    MemoryDevice.load bank word (pin.apply how memory) =
      if bank = pin.bank ∧ word = (written how).word then
        driven pin how (MemoryDevice.load bank word memory)
      else MemoryDevice.load bank word memory := by
  have stored (register : Register) (value : UInt32) :
      MemoryDevice.load bank word (pin.store register value memory) =
        if bank = pin.bank ∧ word = register.word then value
        else MemoryDevice.load bank word memory :=
    PlainMemory.load_store value memory onBank (word_lt register) onOther inWindow
  by_cases here : bank = pin.bank ∧ word = (written how).word
  · obtain ⟨rfl, rfl⟩ := here
    rw [if_pos ⟨rfl, rfl⟩]
    cases how <;> exact (stored _ _).trans (if_pos ⟨rfl, rfl⟩)
  · rw [if_neg here]
    cases how <;> exact (stored _ _).trans (if_neg here)

variable {use memory} {bank bit word : Nat}

theorem number_eq_iff {pin : Pin} (inWord : bit < linesPerBank) :
    pin.number.toNat = linesPerBank * bank + bit ↔ pin.bank = bank ∧ pin.bit = bit := by
  have own := pin.number_eq
  have small := pin.bit_lt
  simp only [linesPerBank] at *
  omega

/-- A use changes a direction only if it gives that very line another one. -/
theorem direction_after (onBank : bank < bankCount) (inWord : bit < linesPerBank) :
    hasBit (MemoryDevice.load bank Register.outputEnable.word (use.after memory)) bit =
      (use.direction? (linesPerBank * bank + bit)).getD
        (hasBit (MemoryDevice.load bank Register.outputEnable.word memory) bit) := by
  obtain ⟨line, how | _⟩ := use
  · rw [Use.after, load_apply memory how line.onBank onBank (word_lt _)]
    simp only [Use.direction?, number_eq_iff inWord]
    by_cases here : bank = line.pin.bank
    · subst here
      -- the word is rewritten by either direction, and the bit is the line's own or another one's
      cases how with
      | output =>
        rw [if_pos ⟨rfl, rfl⟩, driven, hasBit_and, hasBit_not _ inWord, hasBit_mask]
        by_cases own : line.pin.bit = bit <;> simp [own]
      | input =>
        rw [if_pos ⟨rfl, rfl⟩, driven, hasBit_or, hasBit_mask]
        by_cases own : line.pin.bit = bit <;> simp [own]
      | high => simp [written, Register.word, Register.offset, wordLength]
      | low => simp [written, Register.word, Register.offset, wordLength]
    · simp [here, Ne.symm here]
  · simp [Use.after, Use.direction?]

/-- A use changes what drives the lines of a bank to a level only if it does so itself. -/
theorem single_after (level : Level) (onBank : bank < bankCount) :
    MemoryDevice.load bank (written (.toLevel level)).word (use.after memory) =
      (use.single? (.toLevel level) bank).getD
        (MemoryDevice.load bank (written (.toLevel level)).word memory) := by
  obtain ⟨line, how | _⟩ := use
  · rw [Use.after, load_apply memory how line.onBank onBank (word_lt _)]
    -- the two registers differ, so the other level does not count as this one
    by_cases here : how = .toLevel level ∧ line.pin.bank = bank
    · obtain ⟨rfl, rfl⟩ := here
      simp [Use.single?, driven_toLevel, mask_eq]
    · have apart : ¬ (bank = line.pin.bank ∧
          (written (.toLevel level)).word = (written how).word) :=
        fun same => here ⟨(written_toLevel same.2).symm, same.1.symm⟩
      simp [Use.single?, here, apart]
  · simp [Use.after, Use.single?]

theorem other_after (onBank : bank < bankCount) (inWindow : word < windowWords)
    (other : ∀ how, word ≠ (written how).word) :
    MemoryDevice.load bank word (use.after memory) = MemoryDevice.load bank word memory := by
  obtain ⟨line, how | _⟩ := use
  · rw [Use.after, load_apply memory how line.onBank onBank inWindow,
      if_neg fun here => other how here.2]
  · rfl

end Single

/-! ### Uses in turn -/

/-- What some uses set last, if any of them did. -/
def last? {α : Type} (set : Use → Option α) (uses : List Use) : Option α :=
  (uses.filterMap set).getLast?

section Runs

/-- **What every use either sets or leaves is at the end as it was set last.** -/
theorem last_wins {α : Type} (view : σ → α) (set : Use → Option α)
    (step : ∀ use memory, view (use.after memory) = (set use).getD (view memory)) (uses : List Use)
    (memory : σ) : view (uses.foldl Use.after memory) = (last? set uses).getD (view memory) := by
  induction uses generalizing memory with
  | nil => rfl
  | cons use rest ih =>
    rw [List.foldl_cons, ih, step, last?, last?, List.filterMap_cons]
    cases set use with
    | none => rfl
    | some value =>
      simp only [Option.getD_some]
      cases rest.filterMap set <;> simp [List.getLast?_cons]

theorem last_direction_own (pin : Pin) (uses : List Use) :
    last? (Use.direction? pin.number.toNat) (uses.filter (·.line.pin = pin)) =
      last? (Use.direction? pin.number.toNat) uses := by
  rw [last?, last?, List.filterMap_filter]
  congr 2
  funext use
  by_cases own : use.line.pin = pin
  · simp [own]
  · have apart : use.line.pin.number ≠ pin.number := fun same => own (by
      cases pin
      exact congrArg Pin.mk same)
    simp [own, Use.direction?, UInt8.toNat_inj, apart]

variable [PlainMemory σ]

theorem Use.seen_after (use other : Use) (memory : σ) :
    use.seen (other.after memory) = use.seen memory := by
  obtain ⟨line, _ | _⟩ := use
  · rfl
  · rw [seen, seen, other_after line.onBank (word_lt .dataIn) fun how => by cases how <;> decide]

/-- Uses in turn never fail; they see what the first memory holds, and change it use by use. -/
theorem performAll_eq (uses : List Use) (controller : Controller σ) : performAll uses controller =
    ⟨.ok (uses.map (Use.seen controller.memory)), .empty,
      { controller with memory := uses.foldl Use.after controller.memory }⟩ := by
  induction uses generalizing controller with
  | nil => rfl
  | cons use rest ih =>
    -- no use writes the levels, so the others see what they would have seen at first
    have alike : rest.map (Use.seen (use.after controller.memory)) =
        rest.map (Use.seen controller.memory) :=
      List.map_congr_left fun other _ => other.seen_after use controller.memory
    simp only [performAll, Action.bind_apply, Use.perform_eq, ih, alike]
    rfl

/-- **Lines do not disturb each other.** After any uses of any lines, on memory that holds anything:
the direction of every line is the one that it was given last; the two words of a bank that drive
its lines hold the single bit of the line that was driven last; all other words of the four windows
are as they were; and every sample was the line's own bit of its bank's levels. So the direction of
a line depends on its own uses only. -/
theorem lines_isolated (uses : List Use) (controller : Controller σ) :
    let before := controller.memory
    let after := (performAll uses controller).state.memory
    (performAll uses controller).result = .ok (uses.map (Use.seen before)) ∧
      (∀ bank < bankCount, ∀ bit < linesPerBank,
        hasBit (MemoryDevice.load bank Register.outputEnable.word after) bit =
          (last? (Use.direction? (linesPerBank * bank + bit)) uses).getD
            (hasBit (MemoryDevice.load bank Register.outputEnable.word before) bit)) ∧
      (∀ bank < bankCount,
        MemoryDevice.load bank Register.setDataOut.word after =
            (last? (Use.single? .high bank) uses).getD
              (MemoryDevice.load bank Register.setDataOut.word before) ∧
          MemoryDevice.load bank Register.clearDataOut.word after =
            (last? (Use.single? .low bank) uses).getD
              (MemoryDevice.load bank Register.clearDataOut.word before)) ∧
      (∀ bank < bankCount, ∀ word < windowWords, word ≠ Register.outputEnable.word →
        word ≠ Register.setDataOut.word → word ≠ Register.clearDataOut.word →
          MemoryDevice.load bank word after = MemoryDevice.load bank word before) ∧
      ∀ pin : Pin, pin.bank < bankCount →
        let alone := (performAll (uses.filter (·.line.pin = pin)) controller).state.memory
        hasBit (MemoryDevice.load pin.bank Register.outputEnable.word after) pin.bit =
          hasBit (MemoryDevice.load pin.bank Register.outputEnable.word alone) pin.bit := by
  have direction (uses : List Use) {bank bit : Nat} (onBank : bank < bankCount)
      (inWord : bit < linesPerBank) :
      hasBit (MemoryDevice.load bank Register.outputEnable.word
          (uses.foldl Use.after controller.memory)) bit =
        (last? (Use.direction? (linesPerBank * bank + bit)) uses).getD
          (hasBit (MemoryDevice.load bank Register.outputEnable.word controller.memory) bit) :=
    last_wins (fun memory => hasBit (MemoryDevice.load bank _ memory) bit) _
      (fun _ _ => direction_after onBank inWord) uses controller.memory
  simp only [performAll_eq]
  refine ⟨trivial, fun bank onBank bit inWord => direction uses onBank inWord,
    fun bank onBank => ⟨?_, ?_⟩, ?_, ?_⟩
  · exact last_wins (MemoryDevice.load bank _) _ (fun _ _ => single_after .high onBank) uses _
  · exact last_wins (MemoryDevice.load bank _) _ (fun _ _ => single_after .low onBank) uses _
  · intro bank onBank word inWindow notEnable notSet notClear
    have kept := last_wins (MemoryDevice.load bank word) (fun _ => none) (fun _ _ =>
      other_after onBank inWindow fun how => by cases how <;> assumption) uses controller.memory
    rwa [last?, List.filterMap_eq_nil_iff.mpr fun _ _ => rfl] at kept
  · intro pin onBank
    rw [direction uses onBank pin.bit_lt, direction _ onBank pin.bit_lt, ← pin.number_eq,
      last_direction_own]

/-- Physical memory with one word everywhere, three lines on two banks, and one of them twice. The
strobe line ends as an output that was driven high, and the multiplexer's low line as an input, by
its other object. -/
theorem lines_isolated_twins :
    let controller : Controller Flat := ⟨⟨fun _ => 0x00FF0000⟩, .unmapped memoryPath⟩
    let strobe : Line := ⟨.strobe, ⟨1, by decide, 0⟩, rfl⟩
    let low : Line := ⟨.muxLow, ⟨1, by decide, 0⟩, rfl⟩
    let twin : Line := ⟨.muxLow, ⟨1, by decide, 1⟩, rfl⟩
    let far : Line := ⟨⟨117⟩, ⟨3, by decide, 2⟩, rfl⟩
    let uses : List Use := [⟨low, .drive .output⟩, ⟨strobe, .drive .output⟩, ⟨low, .drive .high⟩,
      ⟨strobe, .drive .high⟩, ⟨far, .sample⟩, ⟨twin, .drive .input⟩, ⟨far, .drive .low⟩]
    let after := (performAll uses controller).state.memory
    (performAll uses controller).result = .ok [none, none, none, none, some .high, none, none] ∧
      hasBit (MemoryDevice.load 1 Register.outputEnable.word after) 18 = false ∧
      hasBit (MemoryDevice.load 1 Register.outputEnable.word after) 16 = true ∧
      MemoryDevice.load 1 Register.setDataOut.word after = 0x00040000 ∧
      MemoryDevice.load 3 Register.clearDataOut.word after = 0x00200000 ∧
      MemoryDevice.load 3 Register.dataIn.word after = 0x00FF0000 := by
  intro controller strobe low twin far uses after
  obtain ⟨result, direction, single, other, -⟩ := lines_isolated uses controller
  refine ⟨result.trans (congrArg Except.ok (by decide)), ?_, ?_, ?_, ?_, ?_⟩
  · exact (direction 1 (by decide) 18 (by decide)).trans rfl
  · exact (direction 1 (by decide) 16 (by decide)).trans rfl
  · exact (single 1 (by decide)).1.trans (by decide)
  · exact (single 3 (by decide)).2.trans (by decide)
  · exact (other 3 (by decide) Register.dataIn.word (by decide) (by decide) (by decide)
      (by decide)).trans rfl

end Runs

end SensorCape.Gpio
