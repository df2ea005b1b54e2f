/-
**One request for a window.**

The window of a bank is mapped at the first request for which the device could be opened and the
bank mapped; from then on it is remembered, and a request for it makes no call. A request that could
not map its bank leaves all banks as they were.

* `window?_share`: where a newly mapped window is found.
* `window_outside`, `window_known`, `window_closed`, `window_refused`, `window_mapped`: the five
  things that a request for a window can come to.
-/

import Mathlib.Data.Option.Basic
import Mathlib.Data.Subtype
import SensorCape.Gpio.Banks

namespace SensorCape.Gpio

variable {σ : Type} [MemoryDevice σ]

/-! ### The windows that are remembered -/

section Windows

variable {banks : Banks} {bank : Nat}

/-- The banks once a newly mapped window is shared. -/
def Banks.share (window : Window) (banks : Banks) : Banks :=
  ⟨banks.path, banks.windows ++ [window], banks.mapped + 1⟩

theorem window?_map (banks : Banks) (bank : Nat) :
    (banks.window? bank).map Subtype.val = banks.windows.find? (·.bank = bank) := by
  rw [Banks.window?]
  split
  · next window found => exact found.symm
  · next free => exact free.symm

theorem WindowOf.bank_lt (found : WindowOf bank) : bank < bankCount := by
  obtain ⟨window, rfl⟩ := found
  exact window.inRange

/-- A window that is shared is found under its bank, and the others as before. -/
theorem window?_share {found : WindowOf bank} (free : banks.window? bank = none) (other : Nat) :
    (banks.share found.1).window? other =
      if own : found.1.bank = other then some ⟨found.1, own⟩ else banks.window? other := by
  obtain ⟨window, rfl⟩ := found
  apply Option.map_injective Subtype.val_injective
  rw [window?_map, Banks.share, List.find?_append]
  by_cases own : window.bank = other
  · subst own
    have none_found := window?_map banks window.bank
    rw [free] at none_found
    rw [dif_pos rfl, ← none_found]
    simp
  · rw [dif_neg own, window?_map]
    simp [own]

end Windows

/-! ### One request for a window -/

section Single

variable {controller : Controller σ} {bank : Nat}

theorem window_outside (beyond : ¬ bank < bankCount) :
    window bank controller = ⟨.error (.contractViolation .bankRange), .empty, controller⟩ := by
  have free : controller.banks.window? bank = none := by
    cases found : controller.banks.window? bank with
    | none => rfl
    | some other => exact absurd (WindowOf.bank_lt other) beyond
  simp only [window, Action.bind_apply, Action.get_apply, free, mapWindow, dif_neg beyond,
    Action.fail_apply, Journal.empty_append]

/-- The window of a mapped bank is there without a call. -/
theorem window_known {found : WindowOf bank} (known : controller.banks.window? bank = some found) :
    window bank controller = ⟨.ok found, .empty, controller⟩ := by
  simp only [window, Action.bind_apply, Action.get_apply, known, Action.pure_apply,
    Journal.empty_append]

/-- What the device answers if it is opened. -/
def opening (memory : σ) : Option Cause := (MemoryDevice.acquire memory).1

/-- What the device answers if it was opened and a bank is mapped. -/
def mapping (bank : Nat) (memory : σ) : Option Cause :=
  (MemoryDevice.map bank (MemoryDevice.acquire memory).2).1

variable (inRange : bank < bankCount) (free : controller.banks.window? bank = none)

include inRange free

theorem window_closed {cause : Cause} (refuses : opening controller.memory = some cause) :
    (window bank controller).result = .error (.openFailed controller.banks.path cause) ∧
      (window bank controller).journal.events = [.acquire (some cause)] ∧
      (window bank controller).state.banks = controller.banks := by
  rw [opening] at refuses
  simp [window, Action.bind_apply, free, mapWindow, inRange, ask, refuses]

theorem window_refused {cause : Cause} (opens : opening controller.memory = none)
    (refuses : mapping bank controller.memory = some cause) :
    (window bank controller).result = .error (.mapFailed bank cause) ∧
      (window bank controller).journal.events = [.acquire none, .map bank (some cause)] ∧
      (window bank controller).state.banks = controller.banks := by
  rw [opening] at opens
  rw [mapping] at refuses
  simp [window, Action.bind_apply, free, mapWindow, inRange, ask, opens, refuses]

/-- A bank that can be mapped gets a window of its own, which is shared from then on. -/
theorem window_mapped (opens : opening controller.memory = none)
    (maps : mapping bank controller.memory = none) :
    let mapped : Window := ⟨bank, inRange, controller.banks.mapped⟩
    (window bank controller).result = .ok ⟨mapped, rfl⟩ ∧
      (window bank controller).journal.events = [.acquire none, .map bank none] ∧
      (window bank controller).state.banks = controller.banks.share mapped := by
  rw [opening] at opens
  rw [mapping] at maps
  simp [window, Action.bind_apply, free, mapWindow, inRange, ask, opens, maps, Action.note,
    remember, Banks.share, Journal.empty]

omit free

/-- On one of the banks nothing fails but an opening or a mapping. -/
theorem window_fault {fault : Fault} (failed : (window bank controller).result = .error fault) :
    (∃ cause, fault = .openFailed controller.banks.path cause) ∨
      ∃ cause, fault = .mapFailed bank cause := by
  cases there : controller.banks.window? bank with
  | some found =>
    rw [window_known there] at failed
    cases failed
  | none =>
    cases opens : opening controller.memory with
    | some cause =>
      have closed := (window_closed inRange there opens).1
      exact .inl ⟨cause, Except.error.inj (failed.symm.trans closed)⟩
    | none =>
      cases maps : mapping bank controller.memory with
      | some cause =>
        have refused := (window_refused inRange there opens maps).1
        exact .inr ⟨cause, Except.error.inj (failed.symm.trans refused)⟩
      | none => cases failed.symm.trans (window_mapped inRange there opens maps).1

omit inRange

theorem resolve_fault {pin : Pin} {fault : Fault} (onBank : pin.bank < bankCount)
    (failed : (resolve pin controller).result = .error fault) :
    (∃ cause, fault = .openFailed controller.banks.path cause) ∨
      ∃ cause, fault = .mapFailed pin.bank cause := by
  rw [resolve, if_pos onBank] at failed
  cases ended : (window pin.bank controller).result with
  | ok found =>
    rw [Action.bind_ok ended] at failed
    cases failed
  | error fault =>
    rw [Action.bind_error ended] at failed
    cases failed
    exact window_fault onBank ended

end Single

end SensorCape.Gpio
