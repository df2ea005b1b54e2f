/-
**Every bit of a train.**

A train is forty-one pulses of any widths. Forty widths of 32 bits cannot overflow a sum of 64 bits,
and their mean fits into 32 bits again, so the threshold is the mean of the low phases of the data,
rounded down. Each bit of the payload then compares one high phase with it.

* `Train.payload_bits`: packing loses nothing, so a train has a payload exactly if it has the
  payload's bits (`Train.payload_eq_iff`).
* `Train.payload_bit_by_bit`: **the mean and the forty comparisons**, for every train. The preamble
  has no part in either.
-/

import Mathlib.Algebra.BigOperators.Fin
import SensorCape.Proofs.Dht.Threshold

namespace SensorCape.Dht

/-! ### Packing -/

/-- **The bits of eight packed bits are those bits.** -/
theorem byteBits_packed {bits : List Bool} (eight : bits.length = 8) :
    byteBits (packed bits) = bits := by
  have all : ∀ a b c d e f g h : Bool,
      byteBits (packed [a, b, c, d, e, f, g, h]) = [a, b, c, d, e, f, g, h] := by
    decide +kernel
  match bits, eight with
  | [a, b, c, d, e, f, g, h], _ => exact all a b c d e f g h

/-- Eight bits and those after them. -/
theorem eight_append (bits : List Bool) (place : Nat) :
    (bits.drop (8 * place)).take 8 ++ bits.drop (8 * (place + 1)) = bits.drop (8 * place) := by
  have next : bits.drop (8 * (place + 1)) = (bits.drop (8 * place)).drop 8 := by
    rw [List.drop_drop, Nat.mul_add]
  rw [next, List.take_append_drop]

namespace Train

variable (train : Train)

theorem bits_length : train.bits.length = 40 := by
  rw [bits, List.length_map]
  exact train.complete

theorem byteBits_byte {place : Nat} (inside : place < 5) :
    byteBits (train.byte place) = (train.bits.drop (8 * place)).take 8 := by
  apply byteBits_packed
  rw [List.length_take, List.length_drop, bits_length]
  omega

/-- **The payload of a train has the bits of the train.** -/
theorem payload_bits : train.payload.bits = train.bits := by
  have last : train.bits.drop (8 * 5) = [] := List.drop_eq_nil_of_le train.bits_length.le
  calc train.payload.bits
      = byteBits (train.byte 0) ++ (byteBits (train.byte 1) ++ (byteBits (train.byte 2) ++
          (byteBits (train.byte 3) ++ (byteBits (train.byte 4) ++ train.bits.drop (8 * 5))))) := by
        rw [last]
        rfl
    _ = train.bits.drop (8 * 0) := by
        rw [byteBits_byte train (by decide), byteBits_byte train (by decide),
          byteBits_byte train (by decide), byteBits_byte train (by decide),
          byteBits_byte train (by decide), eight_append, eight_append, eight_append, eight_append,
          eight_append]
    _ = train.bits := rfl

theorem payload_eq_iff {payload : Payload} : train.payload = payload ↔ train.bits = payload.bits := by
  refine ⟨fun same => ?_, payload_of_bits⟩
  rw [← same, payload_bits]

end Train

/-! ### Bits by their place -/

/-- The bit of a payload with a given place: each byte begins with its most significant bit. -/
def Payload.bit (payload : Payload) (place : Fin dataBits) : Bool :=
  (payload.bytes.get ⟨place.val / 8, by
    have inside : place.val < 40 := place.isLt
    show place.val / 8 < 5
    omega⟩).toNat.testBit (7 - place.val % 8)

theorem Payload.bits_eq_ofFn (payload : Payload) : payload.bits = List.ofFn payload.bit := rfl

namespace Train

variable (train : Train)

theorem bits_eq_ofFn : train.bits = List.ofFn fun place : Fin dataBits =>
    decide (train.threshold ≤ (train.pulse place.succ).high) := by
  refine List.ext_getElem ?_ fun place _ _ => ?_
  · rw [bits_length, List.length_ofFn]
    rfl
  · rw [List.getElem_ofFn]
    simp only [bits, List.getElem_map]
    rfl

theorem payload_bit (place : Fin dataBits) :
    train.payload.bit place = decide (train.threshold ≤ (train.pulse place.succ).high) := by
  have same := train.payload_bits
  rw [Payload.bits_eq_ofFn, bits_eq_ofFn] at same
  exact congrFun (List.ofFn_injective same) place

/-- The widths of the low phases that carry bits, by their place. -/
theorem lowWidths_eq_ofFn : train.lowWidths = List.ofFn fun place : Fin dataBits =>
    (train.pulse place.succ).low.toNat := by
  refine List.ext_getElem ?_ fun place _ _ => ?_
  · rw [lowWidths_length, List.length_ofFn]
    rfl
  · simp [lowWidths]

/-- The sum of the widths of the low phases that carry bits, without a limit. -/
def lowTotal : Nat :=
  ∑ place : Fin dataBits, (train.pulse place.succ).low.toNat

theorem lowWidths_sum : train.lowWidths.sum = train.lowTotal := by
  rw [lowWidths_eq_ofFn, List.sum_ofFn, lowTotal]

theorem exists_low_le_threshold :
    ∃ place : Fin dataBits, (train.pulse place.succ).low ≤ train.threshold := by
  by_contra none
  have above : ∀ width ∈ train.lowWidths, train.threshold.toNat + 1 ≤ width := by
    rw [lowWidths_eq_ofFn, List.forall_mem_ofFn_iff]
    intro place
    exact UInt32.lt_iff_toNat_lt.mp (UInt32.not_le.mp fun within => none ⟨place, within⟩)
  have := train.le_threshold above
  omega

theorem exists_threshold_le_low :
    ∃ place : Fin dataBits, train.threshold ≤ (train.pulse place.succ).low := by
  by_contra none
  have below : ∀ place : Fin dataBits,
      (train.pulse place.succ).low.toNat < train.threshold.toNat := fun place =>
    UInt32.lt_iff_toNat_lt.mp (UInt32.not_le.mp fun within => none ⟨place, within⟩)
  have limited : ∀ width ∈ train.lowWidths, width ≤ train.threshold.toNat - 1 := by
    rw [lowWidths_eq_ofFn, List.forall_mem_ofFn_iff]
    exact fun place => Nat.le_sub_one_of_lt (below place)
  have first := below ⟨0, by decide⟩
  have := train.threshold_le limited
  omega

/-! ### The payload -/

/-- **The payload of a train, bit by bit.** The sum of the forty low widths fits into its 64 bits and
is exact, cutting its mean to 32 bits loses nothing, and so the threshold is the mean rounded down;
it is no less than some width and no more than some width. A bit is set exactly if the high width of
its pulse reaches the mean. Hence the preamble does not matter, and a payload is that of the train
exactly if the high widths at its ones, and no others, reach the mean. -/
theorem payload_bit_by_bit :
    (train.lowTotal < UInt64.size ∧ train.lowSum.toNat = train.lowTotal) ∧
      (train.lowTotal / 40 < UInt32.size ∧ train.threshold.toNat = train.lowTotal / 40) ∧
      ((∃ place : Fin dataBits, (train.pulse place.succ).low ≤ train.threshold) ∧
        ∃ place : Fin dataBits, train.threshold ≤ (train.pulse place.succ).low) ∧
      (∀ place : Fin dataBits, train.payload.bit place = true ↔
        train.lowTotal / 40 ≤ (train.pulse place.succ).high.toNat) ∧
      (∀ preamble, { train with preamble := preamble }.payload = train.payload) ∧
      ∀ payload : Payload, train.payload = payload ↔ ∀ place : Fin dataBits,
        payload.bit place = true ↔ train.lowTotal / 40 ≤ (train.pulse place.succ).high.toNat := by
  have small : train.lowTotal < 40 * UInt32.size := train.lowWidths_sum ▸ train.lowWidths_sum_lt
  have room : 40 * UInt32.size < UInt64.size := by decide
  have exact : train.lowSum.toNat = train.lowTotal := train.lowSum_toNat.trans train.lowWidths_sum
  have mean : train.threshold.toNat = train.lowTotal / 40 := by
    rw [threshold_toNat, lowWidths_sum]
  have reaches : ∀ place : Fin dataBits, train.payload.bit place = true ↔
      train.lowTotal / 40 ≤ (train.pulse place.succ).high.toNat := by
    intro place
    rw [payload_bit, decide_eq_true_iff, UInt32.le_iff_toNat_le, mean]
  refine ⟨⟨by omega, exact⟩, ⟨Nat.div_lt_of_lt_mul small, mean⟩,
    ⟨train.exists_low_le_threshold, train.exists_threshold_le_low⟩, reaches, fun _ => rfl, ?_⟩
  intro payload
  refine ⟨fun same => same ▸ reaches, fun set => ?_⟩
  have same : train.payload.bit = payload.bit := by
    funext place
    rw [Bool.eq_iff_iff, reaches, set]
  rw [payload_eq_iff, ← payload_bits, Payload.bits_eq_ofFn, Payload.bits_eq_ofFn, same]

end Train

end SensorCape.Dht
