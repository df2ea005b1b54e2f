/-
**The polling speed.**

A line that is sampled `factor` times as fast shows every phase of a train for `factor` times as
many samples. The mean of the low phases is rounded down, so it does not grow in the same step: what
rounding has taken away comes back as soon as it amounts to forty samples. A high phase that lies
off the mean does not notice; one that is exactly as wide as the mean can fall below it.

* `mean_reached_iff`: the comparison of one width after the scaling.
* `Train.payload_scaled_iff`: **a train keeps its payload exactly if the rounding does not come back
  or no high phase is as wide as the mean.**
* `Train.decode_scaled`: **the reading does not depend on the speed.**
-/

import SensorCape.Proofs.Dht.Bits

namespace SensorCape.Dht

/-! ### Scaled trains -/

/-- All widths can be counted at `factor` times the speed. -/
def Pulse.Scalable (factor : Nat) (pulse : Pulse) : Prop :=
  factor * pulse.low.toNat < UInt32.size ∧ factor * pulse.high.toNat < UInt32.size

instance (factor : Nat) (pulse : Pulse) : Decidable (pulse.Scalable factor) :=
  inferInstanceAs (Decidable (_ ∧ _))

/-- A pulse counted at `factor` times the speed. -/
def Pulse.scaled (factor : Nat) (pulse : Pulse) : Pulse :=
  ⟨UInt32.ofNat (factor * pulse.low.toNat), UInt32.ofNat (factor * pulse.high.toNat)⟩

/-- A train counted at `factor` times the speed. -/
def Train.scaled (factor : Nat) (train : Train) : Train :=
  ⟨train.preamble.scaled factor, train.data.map (Pulse.scaled factor), by
    rw [List.length_map, train.complete]⟩

section Scaling

variable {factor : Nat} {pulse : Pulse} {train : Train}

theorem Pulse.Scalable.low (fits : pulse.Scalable factor) :
    (pulse.scaled factor).low.toNat = factor * pulse.low.toNat :=
  UInt32.toNat_ofNat_of_lt' fits.1

theorem Pulse.Scalable.high (fits : pulse.Scalable factor) :
    (pulse.scaled factor).high.toNat = factor * pulse.high.toNat :=
  UInt32.toNat_ofNat_of_lt' fits.2

theorem Train.lowTotal_scaled (fits : ∀ pulse ∈ train.data, pulse.Scalable factor) :
    (train.scaled factor).lowTotal = factor * train.lowTotal := by
  have widths : (train.scaled factor).lowWidths =
      train.data.map fun pulse => factor * pulse.low.toNat := by
    rw [lowWidths, scaled, List.map_map]
    exact List.map_congr_left fun pulse member => (fits pulse member).low
  rw [← lowWidths_sum, ← lowWidths_sum, widths, List.sum_map_mul_left, lowWidths]

/-! ### Comparisons with the mean -/

/-- **A scaled width reaches the scaled mean exactly if it did so before and is not caught by the
rounding**: a width equal to the mean must not meet a remainder that has grown to a whole sample. -/
theorem mean_reached_iff {total width : Nat} (positive : 1 ≤ factor) :
    factor * total / 40 ≤ factor * width ↔
      total / 40 ≤ width ∧ (width = total / 40 → factor * (total % 40) < 40) := by
  have parts : factor * total = 40 * (factor * (total / 40)) + factor * (total % 40) := by
    calc factor * total = factor * (40 * (total / 40) + total % 40) := by rw [Nat.div_add_mod]
      _ = 40 * (factor * (total / 40)) + factor * (total % 40) := by
        rw [Nat.mul_add, Nat.mul_left_comm]
  have rest : factor * (total % 40) < factor * 40 :=
    Nat.mul_lt_mul_of_pos_left (Nat.mod_lt total (by decide)) positive
  -- Scaled by `factor`, two different widths are at least `factor` apart.
  rcases Nat.lt_trichotomy width (total / 40) with less | same | more
  · have apart : factor * (width + 1) ≤ factor * (total / 40) := Nat.mul_le_mul_left _ less
    rw [Nat.mul_add] at apart
    omega
  · rw [← same] at parts ⊢
    omega
  · have apart : factor * (total / 40 + 1) ≤ factor * width := Nat.mul_le_mul_left _ more
    rw [Nat.mul_add] at apart
    omega

theorem Train.reached_scaled (positive : 1 ≤ factor)
    (fits : ∀ pulse ∈ train.data, pulse.Scalable factor) (member : pulse ∈ train.data) :
    (train.scaled factor).threshold ≤ (pulse.scaled factor).high ↔
      train.threshold ≤ pulse.high ∧
        (pulse.high = train.threshold → factor * (train.lowTotal % 40) < 40) := by
  have mean : train.threshold.toNat = train.lowTotal / 40 := by
    rw [threshold_toNat, lowWidths_sum]
  have scaledMean : (train.scaled factor).threshold.toNat = factor * train.lowTotal / 40 := by
    rw [threshold_toNat, lowWidths_sum, lowTotal_scaled fits]
  rw [UInt32.le_iff_toNat_le, scaledMean, (fits pulse member).high, mean_reached_iff positive,
    UInt32.le_iff_toNat_le, ← UInt32.toNat_inj, mean]

/-! ### Payloads and readings -/

/-- **A train keeps its payload at `factor` times the speed exactly if `factor` times what the mean
leaves over is less than a whole sample for each of the forty pulses, or no high phase of the data is
as wide as the mean.** -/
theorem Train.payload_scaled_iff (positive : 1 ≤ factor)
    (fits : ∀ pulse ∈ train.data, pulse.Scalable factor) :
    (train.scaled factor).payload = train.payload ↔
      factor * (train.lowTotal % 40) < 40 ∨ ∀ pulse ∈ train.data, pulse.high ≠ train.threshold := by
  have same : (train.scaled factor).payload = train.payload ↔ ∀ pulse ∈ train.data,
      ((train.scaled factor).threshold ≤ (pulse.scaled factor).high ↔
        train.threshold ≤ pulse.high) := by
    rw [payload_eq_iff, payload_bits, bits, bits, scaled, List.map_map, List.map_inj_left]
    refine forall₂_congr fun pulse _ => ?_
    simp only [Function.comp_apply, decide_eq_decide]
  rw [same]
  constructor
  · intro kept
    by_cases small : factor * (train.lowTotal % 40) < 40
    · exact .inl small
    · refine .inr fun pulse member wide => small ?_
      have reached := (kept pulse member).mpr (wide ▸ UInt32.le_refl _)
      exact ((reached_scaled positive fits member).mp reached).2 wide
  · intro apart pulse member
    rw [reached_scaled positive fits member, and_iff_left_iff_imp]
    intro _ wide
    rcases apart with small | apart
    · exact small
    · exact absurd wide (apart pulse member)

/-- A train whose first one is as wide as the mean of the low phases; the sum of these leaves over a
surplus. -/
def brim (surplus : UInt32) : Train :=
  ⟨⟨80, 80⟩, ⟨50 + surplus, 50⟩ :: ⟨49, 70⟩ :: ⟨51, 26⟩ :: List.replicate 37 ⟨50, 26⟩, rfl⟩

/-- One sample left over is enough to lose that one at forty times the speed. -/
example : ((brim 1).scaled 40).payload ≠ (brim 1).payload := by decide +kernel

/-- **The reading does not depend on the polling speed.** All widths of a train are multiplied by a
factor and still fit. If the mean of the low phases of the data is a whole number, or no high phase
of the data is exactly as wide as the mean, the payload is the same, and so is what every kind of
sensor makes of it. -/
theorem Train.decode_scaled (positive : 1 ≤ factor)
    (fits : ∀ pulse ∈ train.pulses, pulse.Scalable factor)
    (clear : 40 ∣ train.lowTotal ∨ ∀ pulse ∈ train.data, pulse.high ≠ train.threshold) :
    (train.scaled factor).payload = train.payload ∧
      ∀ kind, (train.scaled factor).decode kind = train.decode kind := by
  have data : ∀ pulse ∈ train.data, pulse.Scalable factor := fun pulse member =>
    fits pulse (List.mem_cons_of_mem _ member)
  have kept : (train.scaled factor).payload = train.payload := by
    rw [payload_scaled_iff positive data]
    refine clear.imp_left fun whole => ?_
    rw [Nat.mod_eq_zero_of_dvd whole, Nat.mul_zero]
    decide
  exact ⟨kept, fun kind => congrArg kind.reading kept⟩

theorem Train.decode_scaled_brim :
    (∀ pulse ∈ (brim 0).pulses, pulse.Scalable 1000) ∧ 40 ∣ (brim 0).lowTotal ∧
      (∃ pulse ∈ (brim 0).data, pulse.high = (brim 0).threshold) ∧
      ((brim 0).scaled 1000).payload = (brim 0).payload ∧
      ∀ kind, ((brim 0).scaled 1000).decode kind = (brim 0).decode kind := by
  have fits : ∀ pulse ∈ (brim 0).pulses, pulse.Scalable 1000 := by decide
  have whole : 40 ∣ (brim 0).lowTotal := by
    rw [← lowWidths_sum]
    decide
  have caught : ∃ pulse ∈ (brim 0).data, pulse.high = (brim 0).threshold :=
    ⟨⟨50, 50⟩, List.mem_cons_self, by decide⟩
  exact ⟨fits, whole, caught, decode_scaled (by decide) fits (.inl whole)⟩

end Scaling

end SensorCape.Dht
