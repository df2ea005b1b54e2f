/-
**Requests in turn.**

What the banks are asked for is a window or the line of a pin, which lies on a window. Requests are
made one after the other, and whatever became of one, the next is made.

* `Request.perform_onBank`: on one of the banks, a request is a matter of the bank's window.
* `Turn.comes`: **the things that a request can come to**, by what is remembered of the banks.
* `Turn.Mapped.answer`, `Turn.of_not_mapped`: what a request leaves, if it mapped a bank and if not.
-/

import SensorCape.Proofs.Gpio.Window
import SensorCape.Proofs.Path

namespace SensorCape.Gpio

variable {σ : Type} [MemoryDevice σ]

/-! ### Requests in turn -/

/-- What can be asked of the banks. -/
inductive Request
  | window (bank : Nat)
  | resolve (pin : Pin)

/-- What a request gets. -/
inductive Grant
  | window (found : Window)
  | line (found : Line)

/-- The window that comes with what was granted. -/
def Grant.onWindow : Grant → Window
  | .window found => found
  | .line found => found.window

namespace Request

/-- The bank that a request is for. -/
def bank : Request → Nat
  | .window bank => bank
  | .resolve pin => pin.bank

/-- Makes a request. -/
def perform : Request → OnBanks σ Grant
  | .window bank => do
    let found ← Gpio.window bank
    pure (.window found.1)
  | .resolve pin => do
    let found ← Gpio.resolve pin
    pure (.line found)

/-- The fault of a request for a bank beyond the last one. -/
def refusal : Request → Fault
  | .window _ => .contractViolation .bankRange
  | .resolve pin => .invalidPin pin.number

/-- What a request gets on a window of its bank. -/
def granted : (request : Request) → WindowOf request.bank → Grant
  | .window _, found => .window found.1
  | .resolve pin, found => .line ⟨pin, found.1, found.2⟩

theorem onWindow_granted (request : Request) (found : WindowOf request.bank) :
    (request.granted found).onWindow = found.1 := by
  cases request with
  | window bank => rfl
  | resolve pin => rfl

theorem perform_outside {request : Request} (beyond : ¬ request.bank < bankCount)
    (controller : Controller σ) :
    request.perform controller = ⟨.error request.refusal, .empty, controller⟩ := by
  cases request with
  | window bank =>
    have outside : Gpio.window bank controller = _ := window_outside beyond
    rw [perform, Action.bind_apply, outside]
    rfl
  | resolve pin =>
    have outside : ¬ pin.bank < bankCount := beyond
    rw [perform, Action.bind_apply, Gpio.resolve, if_neg outside]
    rfl

/-- On one of the banks, whatever is asked for is a matter of the bank's window. -/
theorem perform_onBank {request : Request} (inRange : request.bank < bankCount)
    (controller : Controller σ) :
    (request.perform controller).result =
        (Gpio.window request.bank controller).result.map request.granted ∧
      (request.perform controller).journal.events =
        (Gpio.window request.bank controller).journal.events ∧
      (request.perform controller).state = (Gpio.window request.bank controller).state := by
  cases request with
  | window bank =>
    show _ = (Gpio.window bank controller).result.map _ ∧
      _ = (Gpio.window bank controller).journal.events ∧ _ = (Gpio.window bank controller).state
    rw [perform, Action.bind_apply]
    cases (Gpio.window bank controller).result with
    | ok found => exact ⟨rfl, List.append_nil _, rfl⟩
    | error fault => exact ⟨rfl, rfl, rfl⟩
  | resolve pin =>
    have onBank : pin.bank < bankCount := inRange
    show _ = (Gpio.window pin.bank controller).result.map _ ∧
      _ = (Gpio.window pin.bank controller).journal.events ∧
      _ = (Gpio.window pin.bank controller).state
    rw [perform, Action.bind_apply, Gpio.resolve, if_pos onBank, Action.bind_apply]
    cases (Gpio.window pin.bank controller).result with
    | ok found => exact ⟨rfl, by simp [Action.bind_apply, Action.note], rfl⟩
    | error fault => exact ⟨rfl, rfl, rfl⟩

end Request

/-- A request, and the controller that it was made on. -/
structure Turn (σ : Type) where
  request : Request
  start : Controller σ

namespace Turn

/-- What became of a request. -/
def outcome (turn : Turn σ) : Outcome MemoryEvent (Controller σ) Grant :=
  turn.request.perform turn.start

/-- The calls of a request. -/
def calls (turn : Turn σ) : List MemoryEvent := turn.outcome.journal.events

/-- The controller after a request. -/
def finish (turn : Turn σ) : Controller σ := turn.outcome.state

/-- A bank was mapped at a request. -/
def Mapped (turn : Turn σ) (bank : Nat) : Prop := .map bank none ∈ turn.calls

/-- A request was granted on a window. -/
def Got (turn : Turn σ) (window : Window) : Prop :=
  ∃ grant, turn.outcome.result = .ok grant ∧ grant.onWindow = window

end Turn

/-- Requests one after the other, whatever becomes of each. -/
def turns : List Request → Controller σ → List (Turn σ)
  | [], _ => []
  | request :: rest, controller =>
    ⟨request, controller⟩ :: turns rest (Turn.finish ⟨request, controller⟩)

theorem turns_path (requests : List Request) : ∀ controller : Controller σ, ∃ last,
    Path Turn.start Turn.finish controller (turns requests controller) last := by
  induction requests with
  | nil => exact fun controller => ⟨controller, .nil controller⟩
  | cons request rest ih =>
    intro controller
    obtain ⟨last, path⟩ := ih (Turn.finish ⟨request, controller⟩)
    exact ⟨last, .cons path⟩

/-! ### What a request comes to -/

/-- An attempt to map the bank of a request: the device is opened and then the bank is mapped. The
first of the two that fails ends the attempt, with a fault for good, and leaves all banks as they
were. -/
inductive Turn.Tries (turn : Turn σ) : Prop
  | closed {cause : Cause} (opening : opening turn.start.memory = some cause)
      (result : turn.outcome.result = .error (.openFailed turn.start.banks.path cause))
      (called : turn.calls = [.acquire (some cause)])
      (ended : turn.finish.banks = turn.start.banks)
  | refused {cause : Cause} (opening : opening turn.start.memory = none)
      (mapping : mapping turn.request.bank turn.start.memory = some cause)
      (result : turn.outcome.result = .error (.mapFailed turn.request.bank cause))
      (called : turn.calls = [.acquire none, .map turn.request.bank (some cause)])
      (ended : turn.finish.banks = turn.start.banks)
  | mapped (opening : opening turn.start.memory = none)
      (mapping : mapping turn.request.bank turn.start.memory = none)
      (found : WindowOf turn.request.bank) (fresh : found.1.number = turn.start.banks.mapped)
      (result : turn.outcome.result = .ok (turn.request.granted found))
      (called : turn.calls = [.acquire none, .map turn.request.bank none])
      (ended : turn.finish.banks = turn.start.banks.share found.1)

/-- What a request can come to, by what is remembered of the banks. -/
inductive Turn.Comes (turn : Turn σ) : Prop
  | outside (beyond : ¬ turn.request.bank < bankCount)
      (ended : turn.outcome = ⟨.error turn.request.refusal, .empty, turn.start⟩)
  | known (found : WindowOf turn.request.bank)
      (there : turn.start.banks.window? turn.request.bank = some found)
      (result : turn.outcome.result = .ok (turn.request.granted found))
      (called : turn.calls = []) (ended : turn.finish = turn.start)
  | tried (inRange : turn.request.bank < bankCount)
      (free : turn.start.banks.window? turn.request.bank = none) (tries : turn.Tries)

/-- An unmapped bank is tried, whatever became of earlier attempts. -/
theorem Turn.tries (turn : Turn σ) (inRange : turn.request.bank < bankCount)
    (free : turn.start.banks.window? turn.request.bank = none) : turn.Tries := by
  obtain ⟨result, called, ended⟩ := Request.perform_onBank inRange turn.start
  cases opens : opening turn.start.memory with
  | some cause =>
    obtain ⟨answer, made, kept⟩ := window_closed inRange free opens
    exact .closed opens (by rw [outcome, result, answer]; rfl) (called.trans made)
      (by rw [finish, outcome, ended, kept])
  | none =>
    cases maps : mapping turn.request.bank turn.start.memory with
    | some cause =>
      obtain ⟨answer, made, kept⟩ := window_refused inRange free opens maps
      exact .refused opens maps (by rw [outcome, result, answer]; rfl) (called.trans made)
        (by rw [finish, outcome, ended, kept])
    | none =>
      obtain ⟨answer, made, kept⟩ := window_mapped inRange free opens maps
      exact .mapped opens maps _ rfl (by rw [outcome, result, answer]; rfl) (called.trans made)
        (by rw [finish, outcome, ended, kept])

/-- A mapped bank answers every request. -/
theorem Turn.known (turn : Turn σ) {found : WindowOf turn.request.bank}
    (there : turn.start.banks.window? turn.request.bank = some found) :
    turn.outcome.result = .ok (turn.request.granted found) ∧ turn.calls = [] ∧
      turn.finish = turn.start := by
  obtain ⟨result, called, ended⟩ := Request.perform_onBank (WindowOf.bank_lt found) turn.start
  rw [window_known there] at result called ended
  exact ⟨result, called, ended⟩

/-- **The things that a request can come to.** -/
theorem Turn.comes (turn : Turn σ) : turn.Comes := by
  by_cases inRange : turn.request.bank < bankCount
  · cases there : turn.start.banks.window? turn.request.bank with
    | none => exact .tried inRange there (turn.tries inRange there)
    | some found =>
      obtain ⟨result, called, ended⟩ := turn.known there
      exact .known found there result called ended
  · exact .outside inRange (Request.perform_outside inRange turn.start)

section Turns

variable {turn : Turn σ} {bank : Nat}

theorem Turn.Got.unique {window other : Window} (got : turn.Got window) (also : turn.Got other) :
    window = other := by
  obtain ⟨grant, result, rfl⟩ := got
  obtain ⟨same, again, rfl⟩ := also
  cases result.symm.trans again
  rfl

theorem Turn.got_granted {found : WindowOf turn.request.bank}
    (result : turn.outcome.result = .ok (turn.request.granted found)) : turn.Got found.1 :=
  ⟨_, result, turn.request.onWindow_granted found⟩

theorem Turn.not_got {fault : Fault} (failed : turn.outcome.result = .error fault)
    (window : Window) : ¬ turn.Got window := by
  rintro ⟨grant, granted, -⟩
  cases failed.symm.trans granted

/-- Nothing is granted but the window of the bank, or its line. -/
theorem Turn.granted_of_ok {grant : Grant} (granted : turn.outcome.result = .ok grant) :
    ∃ found : WindowOf turn.request.bank, grant = turn.request.granted found := by
  cases turn.comes with
  | outside _ ended =>
    rw [ended] at granted
    cases granted
  | known found _ result =>
    cases result.symm.trans granted
    exact ⟨found, rfl⟩
  | tried _ _ tries =>
    cases tries with
    | closed _ result => cases result.symm.trans granted
    | refused _ _ result => cases result.symm.trans granted
    | mapped _ _ found _ result =>
      cases result.symm.trans granted
      exact ⟨found, rfl⟩

theorem bank_of_mapped {other : Nat} {failure answer : Option Cause}
    (made : .map bank failure ∈ [MemoryEvent.acquire none, .map other answer]) : bank = other := by
  simp only [List.mem_cons, reduceCtorEq, MemoryEvent.map.injEq, List.not_mem_nil, or_false,
    false_or] at made
  exact made.1

/-- A request maps no bank but its own. -/
theorem Turn.own_call {failure : Option Cause} (made : .map bank failure ∈ turn.calls) :
    bank = turn.request.bank := by
  cases turn.comes with
  | outside _ ended =>
    rw [calls, ended] at made
    cases made
  | known _ _ _ called =>
    rw [called] at made
    cases made
  | tried _ _ tries =>
    cases tries with
    | closed _ _ called => simp [called] at made
    | refused _ _ _ called =>
      rw [called] at made
      exact bank_of_mapped made
    | mapped _ _ _ _ _ called =>
      rw [called] at made
      exact bank_of_mapped made

/-- A request at which a bank was mapped was for that bank, found it unmapped, and got the window
that is shared from then on. -/
theorem Turn.Mapped.answer (mapped : turn.Mapped bank) :
    turn.request.bank = bank ∧ turn.start.banks.window? turn.request.bank = none ∧
      turn.calls = [.acquire none, .map bank none] ∧
        ∃ found : WindowOf turn.request.bank, turn.Got found.1 ∧
          found.1.number = turn.start.banks.mapped ∧
          turn.finish.banks = turn.start.banks.share found.1 := by
  cases turn.comes with
  | outside _ ended =>
    rw [Mapped, calls, ended] at mapped
    cases mapped
  | known _ _ _ called =>
    rw [Mapped, called] at mapped
    cases mapped
  | tried _ free tries =>
    cases tries with
    | closed _ _ called => simp [Mapped, called] at mapped
    | refused _ _ _ called => simp [Mapped, called] at mapped
    | mapped _ _ found fresh result called ended =>
      have own : turn.request.bank = bank := by
        simpa [Mapped, called, eq_comm] using mapped
      subst own
      exact ⟨rfl, free, called, found, got_granted result, fresh, ended⟩

/-- A request at which no bank was mapped leaves the banks as they were, and got no window but the
one that was shared. -/
theorem Turn.of_not_mapped (idle : ¬ turn.Mapped turn.request.bank) :
    turn.finish.banks = turn.start.banks ∧ ∀ window, turn.Got window →
      ∃ found : WindowOf turn.request.bank, found.1 = window ∧
        turn.start.banks.window? turn.request.bank = some found := by
  cases turn.comes with
  | outside _ ended =>
    refine ⟨by rw [finish, ended], fun window got => ?_⟩
    exact absurd got (not_got (by rw [ended]) window)
  | known found there result _ ended =>
    exact ⟨by rw [ended], fun window got => ⟨found, (got_granted result).unique got, there⟩⟩
  | tried _ _ tries =>
    cases tries with
    | closed _ result _ ended =>
      exact ⟨ended, fun window got => absurd got (not_got result window)⟩
    | refused _ _ result _ ended =>
      exact ⟨ended, fun window got => absurd got (not_got result window)⟩
    | mapped _ _ _ _ _ called _ =>
      exact absurd (by rw [Mapped, called]; simp) idle

end Turns

end SensorCape.Gpio
