/-
**Pins answer to their names.**

A written name goes through four changes before the pin-out is asked for it: blanks around it go,
letters are raised, points become underscores, and a lamp's underscore goes. The names are told here
without these changes, and the changes make exactly the spellings of these names acceptable.

* `Pin.Bears`: the names of a pin. `Spells`: how a name may be written.
* `map_pinNameChar_eq_iff`: raised letters and read points are a name exactly if they spell it.
* `Pin.bears_iff`: without a lamp's underscore a name is one of the pin-out exactly if a pin bears it.
* `Pin.named?_eq_some_iff_spells`: **a pin is found under the spellings of its names only.**
* `Pin.names_are_exact`: **that, on the four banks, and with one name in the pin-out for each line.**
-/

import Mathlib.Data.List.Forall2
import Mathlib.Data.List.Nodup
import SensorCape.Pin.Header

namespace SensorCape

/-! ### Names and spellings -/

/-- The names of the lamps with an underscore, each beside the lamp's name in the pin-out. -/
def underscoredLamps : List (String × String) :=
  [("USR_0", "USR0"), ("USR_1", "USR1"), ("USR_2", "USR2"), ("USR_3", "USR3")]

/-- The names of a pin: its own in the pin-out and, for a lamp, the one with an underscore. -/
inductive Pin.Bears (pin : Pin) : String → Prop
  | own {name : String} (listed : (name, pin) ∈ headerPins) : pin.Bears name
  | lamp {name own : String} (lamp : (name, own) ∈ underscoredLamps)
      (listed : (own, pin) ∈ headerPins) : pin.Bears name

/-- A character that may be written for one of a name: the letter in either case, or a point for an
underscore. -/
def MayStandFor (c own : Char) : Prop := c.toLower = own.toLower ∨ c = '.' ∧ own = '_'

/-- A name is written in characters that may stand for its own, with any blanks around them. -/
def Spells (written name : String) : Prop :=
  ∃ letters, Text.Encloses written.toList letters ∧ List.Forall₂ MayStandFor letters name.toList

/-! ### Letters and points -/

section Characters

variable {letters name : List Char}

theorem toUpper_toNat (c : Char) : c.toUpper.toNat =
    if 97 ≤ c.toNat ∧ c.toNat ≤ 122 then c.toNat - 32 else c.toNat := by
  have small : 'a'.val ≤ c.val ∧ c.val ≤ 'z'.val ↔ 97 ≤ c.toNat ∧ c.toNat ≤ 122 := Iff.rfl
  delta Char.toUpper
  by_cases letter : 97 ≤ c.toNat ∧ c.toNat ≤ 122
  · rw [dif_pos (small.mpr letter), if_pos letter]
    exact (UInt32.toNat_add _ _).trans (by simp; omega)
  · rw [dif_neg (mt small.mp letter), if_neg letter]

theorem toLower_toNat (c : Char) : c.toLower.toNat =
    if 65 ≤ c.toNat ∧ c.toNat ≤ 90 then c.toNat + 32 else c.toNat := by
  have capital : c.val ≥ 'A'.val ∧ c.val ≤ 'Z'.val ↔ 65 ≤ c.toNat ∧ c.toNat ≤ 90 := Iff.rfl
  delta Char.toLower
  by_cases letter : 65 ≤ c.toNat ∧ c.toNat ≤ 90
  · rw [dif_pos (capital.mpr letter), if_pos letter]
    exact (UInt32.toNat_add _ _).trans (by simp; omega)
  · rw [dif_neg (mt capital.mp letter), if_neg letter]

/-- Two characters become one when raised exactly if they become one when lowered. -/
theorem toUpper_eq_iff (c d : Char) : c.toUpper = d.toUpper ↔ c.toLower = d.toLower := by
  rw [← Char.toNat_inj, ← Char.toNat_inj, toUpper_toNat, toUpper_toNat, toLower_toNat,
    toLower_toNat]
  split <;> split <;> split <;> split <;> omega

theorem pinNameChar_eq_iff {c own : Char} (normal : pinNameChar own = own) :
    pinNameChar c = own ↔ MayStandFor c own := by
  rw [pinNameChar] at normal
  split at normal
  next point =>
    -- a point is read as an underscore, so it does not stand in a name as it counts
    rw [eq_of_beq point] at normal
    cases normal
  next other =>
    have letter : c.toUpper = own ↔ c.toLower = own.toLower := by rw [← toUpper_eq_iff, normal]
    rw [pinNameChar, MayStandFor, ← letter]
    by_cases point : c = '.'
    · subst point
      have apart : '.'.toUpper ≠ own := fun same => other (beq_iff_eq.mpr same.symm)
      rw [if_pos (beq_self_eq_true _), or_iff_right apart]
      exact ⟨fun same => ⟨rfl, same.symm⟩, fun same => same.2.symm⟩
    · rw [if_neg (mt eq_of_beq point), or_iff_left fun pair => point pair.1]

/-- Characters count as a name exactly if each may stand for the one in its place. -/
theorem map_pinNameChar_eq_iff (normal : name.map pinNameChar = name) :
    letters.map pinNameChar = name ↔ List.Forall₂ MayStandFor letters name := by
  induction name generalizing letters with
  | nil => rw [List.map_eq_nil_iff, List.forall₂_nil_right_iff]
  | cons own rest ih =>
    obtain ⟨first, others⟩ := List.cons.inj normal
    cases letters with
    | nil => simp
    | cons c letters =>
      rw [List.map_cons, List.cons_eq_cons, List.forall₂_cons, pinNameChar_eq_iff first, ih others]

end Characters

theorem spells_iff {written name : String} (normal : name.toList.map pinNameChar = name.toList) :
    Spells written name ↔ (Text.trimmed written.toList).map pinNameChar = name.toList := by
  simp only [map_pinNameChar_eq_iff normal, Spells, ← Text.trimmed_eq_iff, exists_eq_left']

/-! ### The pin-out -/

theorem headerNames_nodup : (headerPins.map Prod.fst).Nodup := by decide +kernel

theorem headerLines_nodup : (headerPins.map Prod.snd).Nodup := by decide +kernel

theorem header_bank_lt : ∀ entry ∈ headerPins, entry.2.bank < bankCount := by decide

theorem header_no_underscore : ∀ entry ∈ headerPins,
    withoutLampUnderscore entry.1.toList = entry.1.toList := by
  decide +kernel

theorem underscored_own : ∀ lamp ∈ underscoredLamps,
    withoutLampUnderscore lamp.1.toList = lamp.2.toList := by
  decide +kernel

/-- No name in the pin-out but those of the four lamps begins as a lamp's does. -/
theorem underscored_of_header : ∀ entry ∈ headerPins, entry.1.toList.take 3 = ['U', 'S', 'R'] →
    (String.ofList ('U' :: 'S' :: 'R' :: '_' :: entry.1.toList.drop 3), entry.1) ∈
      underscoredLamps := by
  decide +kernel

theorem header_normal : ∀ entry ∈ headerPins,
    entry.1.toList.map pinNameChar = entry.1.toList := by
  decide +kernel

theorem underscored_normal : ∀ lamp ∈ underscoredLamps,
    lamp.1.toList.map pinNameChar = lamp.1.toList := by
  decide +kernel

/-- A line is listed once in the pin-out. -/
theorem header_unique {entry other : String × Pin} (listed : entry ∈ headerPins)
    (also : other ∈ headerPins) (same : entry.2 = other.2) : entry = other :=
  List.inj_on_of_nodup_map headerLines_nodup listed also same

/-! ### Pins by name -/

namespace Pin

variable {written name : String} {pin : Pin}

theorem Bears.normal (bears : pin.Bears name) : name.toList.map pinNameChar = name.toList := by
  cases bears with
  | own listed => exact header_normal _ listed
  | lamp lamp _ => exact underscored_normal _ lamp

/-- **A pin bears the names that are its own once a lamp's underscore is gone.** -/
theorem bears_iff :
    pin.Bears name ↔ (String.ofList (withoutLampUnderscore name.toList), pin) ∈ headerPins := by
  constructor
  · rintro (listed | ⟨lamp, listed⟩)
    · rwa [header_no_underscore _ listed, String.ofList_toList]
    · rwa [underscored_own _ lamp, String.ofList_toList]
  · intro listed
    obtain ⟨letters, rfl⟩ : ∃ letters, name = String.ofList letters := ⟨_, String.ofList_toList.symm⟩
    rw [String.toList_ofList] at listed
    unfold withoutLampUnderscore at listed
    split at listed
    next rest =>
      have lamp := underscored_of_header _ listed
      rw [String.toList_ofList] at lamp
      exact .lamp (lamp rfl) listed
    next => exact .own listed

theorem named?_eq_some_iff :
    named? written = some pin ↔ (normalPinName written, pin) ∈ headerPins := by
  rw [named?, List.lookup_eq_some_iff]
  constructor
  · rintro ⟨before, after, parts, -⟩
    rw [parts]
    exact List.mem_append_cons_self
  · intro listed
    obtain ⟨before, after, parts⟩ := List.append_of_mem listed
    refine ⟨before, after, parts, fun entry earlier => bne_iff_ne.mpr fun same => ?_⟩
    have distinct := headerNames_nodup
    rw [parts, List.map_append, List.nodup_append] at distinct
    exact distinct.2.2 _ (List.mem_map_of_mem earlier) _ List.mem_cons_self same.symm

/-- **A pin is found under the spellings of its names, and under nothing else.** -/
theorem named?_eq_some_iff_spells :
    named? written = some pin ↔ ∃ name, pin.Bears name ∧ Spells written name := by
  let letters := (Text.trimmed written.toList).map pinNameChar
  calc named? written = some pin
    _ ↔ (normalPinName written, pin) ∈ headerPins := named?_eq_some_iff
    _ ↔ pin.Bears (String.ofList letters) := by rw [bears_iff, String.toList_ofList]; rfl
    _ ↔ ∃ name, pin.Bears name ∧ Spells written name := by
      constructor
      · intro bears
        refine ⟨_, bears, (spells_iff bears.normal).mpr ?_⟩
        rw [String.toList_ofList]
      · rintro ⟨name, bears, spelt⟩
        have same : letters = name.toList := (spells_iff bears.normal).mp spelt
        rwa [same, String.ofList_toList]

/-- Whatever has a name is on one of the four banks. -/
theorem bank_lt_of_named (named : named? written = some pin) : pin.bank < bankCount :=
  header_bank_lt _ (named?_eq_some_iff.mp named)

/-- **Names are exact.** A written name is accepted exactly if it spells a name of some pin, which is
the pin found and is on one of the four banks; and whatever is found on one line was written for one
name, as every line has only one in the pin-out. -/
theorem names_are_exact :
    (∀ written, (named? written).isSome ↔ ∃ pin name, Bears pin name ∧ Spells written name) ∧
      (∀ written pin name, pin.Bears name → Spells written name →
        named? written = some pin ∧ pin.bank < bankCount) ∧
      (∀ first second pin other, named? first = some pin → named? second = some other →
        pin.bank = other.bank → pin.bit = other.bit →
          normalPinName first = normalPinName second ∧ (normalPinName first, pin) ∈ headerPins) ∧
      ∀ entry ∈ headerPins, ∀ other ∈ headerPins,
        entry.2.bank = other.2.bank → entry.2.bit = other.2.bit → entry = other := by
  refine ⟨fun written => ?_, ?_, ?_, ?_⟩
  · simp only [Option.isSome_iff_exists, named?_eq_some_iff_spells]
  · intro written pin name bears spelt
    have found := named?_eq_some_iff_spells.mpr ⟨name, bears, spelt⟩
    exact ⟨found, bank_lt_of_named found⟩
  · intro first second pin other one two bank bit
    obtain rfl : pin = other := eq_of_line bank bit
    have listed := named?_eq_some_iff.mp one
    have also := named?_eq_some_iff.mp two
    exact ⟨congrArg Prod.fst (header_unique listed also rfl), listed⟩
  · intro entry listed other also bank bit
    exact header_unique listed also (eq_of_line bank bit)

/-- The last lamp, written with a point and between blanks, is found on the line where its name in the
pin-out is found. With two underscores no lamp is meant. -/
theorem names_of_last_lamp :
    let lamp : Pin := ⟨56⟩
    let written := "\tusr.3\u3000"
    (lamp.Bears "USR_3" ∧ Spells written "USR_3") ∧
      (named? written = some lamp ∧ lamp.bank < bankCount) ∧
      named? "Usr3" = some lamp ∧
      (normalPinName written = normalPinName "Usr3" ∧ (normalPinName written, lamp) ∈ headerPins) ∧
      ¬ ∃ pin name, Bears pin name ∧ Spells "USR_.3" name := by
  intro lamp written
  obtain ⟨accepted, found, alike, -⟩ := names_are_exact
  have lampName : ("USR_3", "USR3") ∈ underscoredLamps := by decide +kernel
  have bears : lamp.Bears "USR_3" := .lamp lampName (by decide +kernel)
  have spelt : Spells written "USR_3" := (spells_iff bears.normal).mpr (by decide +kernel)
  have pointed := found _ _ _ bears spelt
  have plain : named? "Usr3" = some lamp := by decide +kernel
  have twice : ¬ (named? "USR_.3").isSome := by decide +kernel
  exact ⟨⟨bears, spelt⟩, pointed, plain, alike _ _ _ _ pointed.1 plain rfl rfl,
    mt (accepted _).mpr twice⟩

end Pin

end SensorCape
