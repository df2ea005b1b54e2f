/-
**Sampling a line.**

What a line shows is a list of levels, one for each sample. A row of samples ends with the first one
at the other level, so of every phase but the first its opening sample belongs to the row before it.

* `Plays`: a line shows some levels and is then in a last state; `Accepts` — it takes some drives.
* `watchFrom_plays`: a phase that is short enough is measured exactly.
* `samplePulses_yields`: **the pulses that a line shows are measured one after the other**, each
  phase less its opening sample.
-/

import Mathlib.Algebra.Order.BigOperators.Group.List
import Mathlib.Algebra.Order.Ring.Nat
import SensorCape.Dht.Line

namespace SensorCape.Dht

/-! ### Levels -/

/-- The level that a line shows when it does not show this one. -/
def opposite : Level → Level
  | .low => .high
  | .high => .low

theorem eq_opposite : ∀ {found level : Level}, found ≠ level → found = opposite level
  | .low, .low, differs => absurd rfl differs
  | .low, .high, _ => rfl
  | .high, .low, _ => rfl
  | .high, .high, differs => absurd rfl differs

variable {σ : Type} [SingleWire σ]

/-! ### What a line does -/

/-- The samples of a line show some levels, one after the other, and leave it in a last state. -/
inductive Plays : σ → List Level → σ → Prop
  | nil (line : σ) : Plays line [] line
  | cons {line last : σ} {level : Level} {rest : List Level}
      (shown : (SingleWire.sample line).1 = .ok level)
      (follow : Plays (SingleWire.sample line).2 rest last) : Plays line (level :: rest) last

/-- A line takes some drives, one after the other, and is then in a last state. -/
inductive Accepts : σ → List Drive → σ → Prop
  | nil (line : σ) : Accepts line [] line
  | cons {line last : σ} {how : Drive} {rest : List Drive}
      (taken : (SingleWire.drive how line).1 = none)
      (follow : Accepts (SingleWire.drive how line).2 rest last) : Accepts line (how :: rest) last

/-! ### Phases -/

section Phases

variable {line last : σ} {level found other : Level} {rest : List Level}
  {length limit seen : Nat} {bound : UInt32}

/-- A sample is counted if it shows the level, and ends the row if it does not. -/
theorem watchFrom_shown (shown : (SingleWire.sample line).1 = .ok found) :
    watchFrom level (limit + 1) seen line =
      if found = level then watchFrom level limit (seen + 1) (SingleWire.sample line).2
      else ⟨.left, seen, (SingleWire.sample line).2⟩ := by
  rw [watchFrom]
  cases taken : SingleWire.sample line with
  | mk answer next =>
    rw [taken] at shown
    cases shown
    rfl

/-- **A phase that ends within the limit is measured exactly**, and the sample that ends it is
taken. -/
theorem watchFrom_plays (differs : other ≠ level) (short : length < limit)
    (plays : Plays line (List.replicate length level ++ other :: rest) last) (seen : Nat) :
    ∃ next, watchFrom level limit seen line = ⟨.left, seen + length, next⟩ ∧
      Plays next rest last := by
  induction length generalizing line limit seen with
  | zero =>
    obtain ⟨limit, rfl⟩ := Nat.exists_eq_add_of_lt short
    cases plays with
    | cons shown follow =>
      refine ⟨_, ?_, follow⟩
      rw [watchFrom_shown shown, if_neg differs, Nat.add_zero]
  | succ length ih =>
    cases limit with
    | zero => exact absurd short (Nat.not_lt_zero _)
    | succ limit =>
      cases plays with
      | cons shown follow =>
        obtain ⟨next, measured, onward⟩ := ih (Nat.lt_of_succ_lt_succ short) follow (seen + 1)
        refine ⟨next, ?_, onward⟩
        rw [watchFrom_shown shown, if_pos rfl, measured, Nat.add_assoc, Nat.add_comm 1]

/-! ### Actions that only sample -/

/-- From a line, an action yields a value, takes a number of samples and makes no other call, and
leaves the line in a next state. -/
structure Yields {α : Type} (body : Action LineEvent σ α) (line : σ) (value : α) (taken : Nat)
    (next : σ) : Prop where
  result : (body line).result = .ok value
  state : (body line).state = next
  samples : ∀ event ∈ (body line).journal.events, ∃ count, event = .samples count none
  total : ((body line).journal.events.map LineEvent.taken).sum = taken

omit [SingleWire σ] in
theorem yields_pure {α : Type} (value : α) (line : σ) :
    Yields (pure value : Action LineEvent σ α) line value 0 line :=
  ⟨rfl, rfl, fun _ member => absurd member List.not_mem_nil, rfl⟩

omit [SingleWire σ] in
theorem yields_bind {α β : Type} {first : Action LineEvent σ α} {next : α → Action LineEvent σ β}
    {line middle last : σ} {value : α} {produced : β} {taken more : Nat}
    (yields : Yields first line value taken middle)
    (follow : Yields (next value) middle produced more last) :
    Yields (first >>= next) line produced (taken + more) last := by
  obtain ⟨result, rfl, samples, rfl⟩ := yields
  obtain ⟨ended, rfl, others, rfl⟩ := follow
  refine ⟨?_, ?_, ?_, ?_⟩ <;> rw [Action.bind_ok result]
  · exact ended
  · exact List.forall_mem_append.mpr ⟨samples, others⟩
  · rw [Journal.events_append, List.map_append, List.sum_append]

omit [SingleWire σ] in
theorem yields_return {α β : Type} {body : Action LineEvent σ α} {line last : σ} {value : α}
    {taken : Nat} (yields : Yields body line value taken last) (make : α → β) :
    Yields (body >>= fun found => pure (make found)) line (make value) taken last := by
  rw [← Nat.add_zero taken]
  exact yields_bind yields (yields_pure (make value) last)

/-- **The length of a phase is found**, by one sample more than it has left. -/
theorem runLength_yields (differs : other ≠ level) (short : length < bound.toNat)
    (plays : Plays line (List.replicate length level ++ other :: rest) last) :
    ∃ next, Yields (runLength level bound) line (UInt32.ofNat length) (length + 1) next ∧
      Plays next rest last := by
  have within : length < patience bound := Nat.lt_of_lt_of_le short (Nat.le_max_right _ _)
  obtain ⟨next, measured, onward⟩ := watchFrom_plays differs within plays 0
  rw [Nat.zero_add] at measured
  refine ⟨next, ?_, onward⟩
  have run : runLength level bound line =
      ⟨.ok (UInt32.ofNat length), ⟨[.samples (length + 1) none], [], []⟩, next⟩ := by
    rw [runLength, watch, measured]
    rfl
  exact ⟨by rw [run], by rw [run], by simp [run], by simp [run, LineEvent.taken]⟩

/-! ### Pulses -/

/-- How many samples the two phases of a pulse last. -/
structure Span where
  low : Nat
  high : Nat
  deriving DecidableEq, Repr

namespace Span

/-- The levels that a line shows during a pulse. -/
def levels (span : Span) : List Level :=
  List.replicate span.low .low ++ List.replicate span.high .high

/-- Both phases can be noticed and stay within a bound. -/
def Within (bound : UInt32) (span : Span) : Prop :=
  (1 ≤ span.low ∧ span.low ≤ bound.toNat) ∧ 1 ≤ span.high ∧ span.high ≤ bound.toNat

instance (bound : UInt32) (span : Span) : Decidable (span.Within bound) :=
  inferInstanceAs (Decidable ((_ ∧ _) ∧ _ ∧ _))

/-- The pulse as it is measured: the opening sample of each phase ends the row before it. -/
def measured (span : Span) : Pulse :=
  ⟨UInt32.ofNat (span.low - 1), UInt32.ofNat (span.high - 1)⟩

end Span

/-- The levels of some pulses and of the sample that ends the last one, less the opening sample of
the first. -/
def remainder : List Span → List Level
  | [] => []
  | span :: rest => List.replicate (span.low - 1) .low ++ .high ::
      (List.replicate (span.high - 1) .high ++ .low :: remainder rest)

/-- What remains of some pulses once their first low sample is taken. -/
theorem levels_eq_remainder {spans : List Span} (within : ∀ span ∈ spans, span.Within bound) :
    spans.flatMap Span.levels ++ [.low] = .low :: remainder spans := by
  induction spans with
  | nil => rfl
  | cons span rest ih =>
    obtain ⟨⟨⟨low, -⟩, high, -⟩, others⟩ := List.forall_mem_cons.mp within
    obtain ⟨lows, same⟩ := Nat.exists_eq_add_of_le' low
    obtain ⟨highs, also⟩ := Nat.exists_eq_add_of_le' high
    simp only [List.flatMap_cons, Span.levels, List.append_assoc, ih others, remainder, same, also,
      Nat.add_sub_cancel, List.replicate_succ, List.cons_append]

/-- **A pulse is measured as its span says.** -/
theorem samplePulse_yields {span : Span} {spans : List Span} (within : span.Within bound)
    (plays : Plays line (remainder (span :: spans)) last) :
    ∃ next, Yields (samplePulse bound) line span.measured (span.low + span.high) next ∧
      Plays next (remainder spans) last := by
  obtain ⟨⟨low, lowShort⟩, high, highShort⟩ := within
  have fallShort : span.low - 1 < bound.toNat := by omega
  have riseShort : span.high - 1 < bound.toNat := by omega
  obtain ⟨middle, fell, onward⟩ := runLength_yields (by decide) fallShort plays
  obtain ⟨next, rose, rest⟩ := runLength_yields (by decide) riseShort onward
  rw [Nat.sub_add_cancel low] at fell
  rw [Nat.sub_add_cancel high] at rose
  exact ⟨next, yields_bind fell (yields_return rose _), rest⟩

/-- The number of samples that some pulses last. -/
def duration (spans : List Span) : Nat :=
  (spans.map fun span => span.low + span.high).sum

/-- **Pulses are measured one after the other.** -/
theorem samplePulses_yields {spans : List Span} {count : Nat} (all : spans.length = count)
    (within : ∀ span ∈ spans, span.Within bound) (plays : Plays line (remainder spans) last) :
    Yields (samplePulses bound count) line ⟨spans.map Span.measured, by simp [all]⟩
      (duration spans) last := by
  subst all
  induction spans generalizing line with
  | nil =>
    cases plays
    exact yields_pure _ _
  | cons span rest ih =>
    obtain ⟨first, others⟩ := List.forall_mem_cons.mp within
    obtain ⟨next, measured, onward⟩ := samplePulse_yields first plays
    have tail := yields_return (ih others onward)
      fun found : { pulses : List Pulse // pulses.length = rest.length } =>
        (⟨span.measured :: found.1, by simp [found.2]⟩ :
          { pulses : List Pulse // pulses.length = rest.length + 1 })
    exact yields_bind measured tail

end Phases

end SensorCape.Dht
