/-
**The table of the windows.**

The windows that are remembered are those that were mapped by the requests so far. One request keeps
this, so what it comes to is a matter of the requests before it.

* `Table`: the shared windows are those that were mapped so far; `Table.snoc` — a request keeps it.
* `Turn.Follows`: what a request comes to after others.
* `Turn.follows`: **so it does, if the table is theirs.**
-/

import SensorCape.Proofs.Gpio.Isolation
import SensorCape.Proofs.Gpio.Turns

namespace SensorCape.Gpio

variable {σ : Type} [MemoryDevice σ]

section Turns

variable {turn : Turn σ} {earlier : List (Turn σ)} {bank : Nat} {path : String}

/-! ### The table -/

/-- The banks as the requests so far have left them. The shared windows are those that were mapped,
and every window that was handed out has a number below the next one. -/
structure Table (path : String) (banks : Banks) (gone : List (Turn σ)) : Prop where
  device : banks.path = path
  shares : ∀ (bank : Nat) (found : WindowOf bank), banks.window? bank = some found ↔
    ∃ mapper ∈ gone, mapper.Mapped bank ∧ mapper.Got found.1
  numbers : ∀ past ∈ gone, ∀ window, past.Got window → window.number < banks.mapped

theorem table_nil (path : String) : Table path (.unmapped path) ([] : List (Turn σ)) where
  device := rfl
  shares bank found := by simp [Banks.window?, Banks.unmapped]
  numbers past gone := by cases gone

/-- A request at which no bank was mapped keeps the table. -/
theorem Table.unmapped (table : Table path turn.start.banks earlier)
    (idle : ¬ turn.Mapped turn.request.bank) :
    Table path turn.finish.banks (earlier ++ [turn]) := by
  obtain ⟨same, old⟩ := Turn.of_not_mapped idle
  have none_mapped : ∀ bank, ¬ turn.Mapped bank := fun bank mapped =>
    idle (mapped.answer.1.symm ▸ mapped)
  refine ⟨by rw [same, table.device], fun bank found => ?_, fun past gone window got => ?_⟩
  · rw [same, table.shares bank found]
    simp [none_mapped]
  · rw [same]
    rcases List.mem_append.mp gone with before | last
    · exact table.numbers past before window got
    · rw [List.mem_singleton.mp last] at got
      obtain ⟨found, rfl, there⟩ := old window got
      obtain ⟨mapper, before, -, handed⟩ := (table.shares _ found).mp there
      exact table.numbers mapper before found.1 handed

theorem Table.mapped (table : Table path turn.start.banks earlier)
    (mapped : turn.Mapped turn.request.bank) :
    Table path turn.finish.banks (earlier ++ [turn]) := by
  obtain ⟨-, free, called, made, got, fresh, ended⟩ := mapped.answer
  have own : ∀ bank, turn.Mapped bank ↔ made.1.bank = bank := by
    intro bank
    rw [Turn.Mapped, called, made.2]
    simp [eq_comm]
  have gets : ∀ window, turn.Got window ↔ made.1 = window :=
    fun window => ⟨got.unique, fun same => same ▸ got⟩
  refine ⟨by rw [ended, ← table.device]; rfl, fun bank found => ?_, fun past gone window has => ?_⟩
  · rw [ended, window?_share free]
    simp only [List.mem_append, List.mem_singleton, or_and_right, exists_or, exists_eq_left, own,
      gets, ← table.shares]
    -- for its own bank the table had nothing so far, and for the others nothing is new
    by_cases here : made.1.bank = bank
    · obtain rfl : turn.request.bank = bank := made.2.symm.trans here
      simp [free, here, Subtype.ext_iff]
    · simp [here]
  · rw [ended]
    rcases List.mem_append.mp gone with before | last
    · exact Nat.lt_succ_of_lt (table.numbers past before window has)
    · rw [List.mem_singleton.mp last] at has
      rw [← (gets window).mp has, fresh]
      exact Nat.lt_succ_self _

/-- **A request keeps the table.** -/
theorem Table.snoc (table : Table path turn.start.banks earlier) :
    Table path turn.finish.banks (earlier ++ [turn]) := by
  by_cases mapped : turn.Mapped turn.request.bank
  · exact table.mapped mapped
  · exact table.unmapped mapped

/-! ### What a request comes to after others -/

/-- How a request follows on the ones made before it, on a device with a path. -/
structure Turn.Follows (turn : Turn σ) (path : String) (earlier : List (Turn σ)) : Prop where
  /-- A bank beyond the last one is turned away, without a call and without a trace. -/
  noBank : ∀ bank, turn.request = .window bank → bankCount ≤ bank →
    turn.outcome = ⟨.error (.contractViolation .bankRange), .empty, turn.start⟩
  /-- So is a pin beyond the last bank. -/
  noPin : ∀ pin, turn.request = .resolve pin → 128 ≤ pin.number.toNat →
    turn.outcome = ⟨.error (.invalidPin pin.number), .empty, turn.start⟩
  /-- On a mapped bank there is neither another opening nor another mapping, and nothing fails. -/
  known : ∀ mapper ∈ earlier, mapper.Mapped turn.request.bank →
    ∃ window, mapper.Got window ∧ turn.Got window ∧ turn.calls = [] ∧ turn.finish = turn.start
  /-- An unmapped bank is tried, whatever became of earlier attempts. -/
  free : turn.request.bank < bankCount →
    (∀ mapper ∈ earlier, ¬ mapper.Mapped turn.request.bank) →
      turn.start.banks.path = path ∧ turn.Tries
  /-- What fails on one of the banks fails for good, and leaves all banks as they were. -/
  failed : turn.request.bank < bankCount → ∀ fault, turn.outcome.result = .error fault →
    fault.isFatal = true ∧ turn.finish.banks = turn.start.banks
  /-- The other banks are left as they were. -/
  others : ∀ bank ≠ turn.request.bank,
    turn.finish.banks.window? bank = turn.start.banks.window? bank
  /-- Whoever gets a window gets one of the own bank that somebody has mapped. -/
  got : ∀ window, turn.Got window → window.bank = turn.request.bank ∧
    ∃ mapper ∈ earlier ++ [turn], mapper.Mapped turn.request.bank ∧ mapper.Got window
  /-- A window that is mapped is none of those that were handed out before. -/
  fresh : turn.Mapped turn.request.bank → ∀ window, turn.Got window →
    ∀ past ∈ earlier, ¬ past.Got window
  /-- The line of a pin is one bit of the window of its bank. -/
  line : ∀ pin grant, turn.request = .resolve pin → turn.outcome.result = .ok grant →
    ∃ line, grant = .line line ∧ line.pin = pin ∧ line.window.bank = pin.number.toNat / 32 ∧
      line.pin.mask.toNat = 2 ^ (pin.number.toNat % 32)

/-- What fails on one of the banks is an opening or a mapping. -/
theorem Turn.failed {fault : Fault} (inRange : turn.request.bank < bankCount)
    (failed : turn.outcome.result = .error fault) :
    fault.isFatal = true ∧ turn.finish.banks = turn.start.banks := by
  cases turn.comes with
  | outside beyond _ => exact absurd inRange beyond
  | known _ _ result => cases result.symm.trans failed
  | tried _ _ tries =>
    cases tries with
    | closed _ result _ ended =>
      cases result.symm.trans failed
      exact ⟨rfl, ended⟩
    | refused _ _ result _ ended =>
      cases result.symm.trans failed
      exact ⟨rfl, ended⟩
    | mapped _ _ _ _ result => cases result.symm.trans failed

theorem Turn.others (other : bank ≠ turn.request.bank) :
    turn.finish.banks.window? bank = turn.start.banks.window? bank := by
  by_cases mapped : turn.Mapped turn.request.bank
  · obtain ⟨-, free, -, found, -, -, ended⟩ := mapped.answer
    have elsewhere : found.1.bank ≠ bank := by
      rw [found.2]
      exact other.symm
    rw [ended, window?_share free, dif_neg elsewhere]
  · rw [(of_not_mapped mapped).1]

/-- The window that a request got is the shared one of its bank afterwards. -/
theorem Turn.held {window : Window} (got : turn.Got window) :
    ∃ found : WindowOf turn.request.bank, found.1 = window ∧
      turn.finish.banks.window? turn.request.bank = some found := by
  by_cases mapped : turn.Mapped turn.request.bank
  · obtain ⟨-, free, -, found, gets, -, ended⟩ := mapped.answer
    refine ⟨found, gets.unique got, ?_⟩
    rw [ended, window?_share free, dif_pos found.2]
  · obtain ⟨same, old⟩ := of_not_mapped mapped
    rw [same]
    exact old window got

/-- Pins from 128 on lie on no bank. -/
theorem not_bank_lt {pin : Pin} (beyond : 128 ≤ pin.number.toNat) : ¬ pin.bank < bankCount := by
  simp only [Pin.bank, linesPerBank, bankCount]
  omega

theorem line_of_pin {pin : Pin} {grant : Grant} (asked : turn.request = .resolve pin)
    (granted : turn.outcome.result = .ok grant) :
    ∃ line, grant = .line line ∧ line.pin = pin ∧ line.window.bank = pin.bank := by
  obtain ⟨found, same⟩ := Turn.granted_of_ok granted
  obtain ⟨request, start⟩ := turn
  obtain rfl : request = .resolve pin := asked
  exact ⟨⟨pin, found.1, found.2⟩, same, rfl, found.2⟩

/-- **A request follows on the ones before it, if the table is theirs.** -/
theorem Turn.follows (table : Table path turn.start.banks earlier) :
    turn.Follows path earlier where
  noBank bank asked beyond := by
    have outside : ¬ turn.request.bank < bankCount := by
      rw [asked]
      exact Nat.not_lt_of_le beyond
    rw [outcome, Request.perform_outside outside, asked]
    rfl
  noPin pin asked beyond := by
    have outside : ¬ turn.request.bank < bankCount := by
      rw [asked]
      exact not_bank_lt beyond
    rw [outcome, Request.perform_outside outside, asked]
    rfl
  known mapper before mapped := by
    obtain ⟨own, -, -, made, got, -⟩ := mapped.answer
    have there : turn.start.banks.window? turn.request.bank = some ⟨made.1, made.2.trans own⟩ :=
      (table.shares _ _).mpr ⟨mapper, before, mapped, got⟩
    obtain ⟨result, called, ended⟩ := turn.known there
    exact ⟨made.1, got, got_granted result, called, ended⟩
  free inRange unmapped := by
    refine ⟨table.device, turn.tries inRange ?_⟩
    cases there : turn.start.banks.window? turn.request.bank with
    | none => rfl
    | some found =>
      obtain ⟨mapper, before, mapped, -⟩ := (table.shares _ _).mp there
      exact absurd mapped (unmapped mapper before)
  failed inRange fault := Turn.failed inRange
  others bank := Turn.others
  got window got := by
    obtain ⟨found, rfl, there⟩ := held got
    exact ⟨found.2, (table.snoc.shares _ _).mp there⟩
  fresh mapped window got past before again := by
    obtain ⟨-, -, -, made, gets, fresh, -⟩ := mapped.answer
    have old := table.numbers past before window again
    rw [got.unique gets, fresh] at old
    exact Nat.lt_irrefl _ old
  line pin grant asked granted := by
    obtain ⟨line, same, own, onBank⟩ := line_of_pin asked granted
    refine ⟨line, same, own, onBank, ?_⟩
    rw [own]
    exact mask_toNat pin

end Turns

end SensorCape.Gpio
