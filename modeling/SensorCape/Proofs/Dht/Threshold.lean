/-
**The bits of a train.**

The mean width of the low phases decides which pulses are ones. The sum behind it has room for forty
widths, so the mean is exact up to rounding down and lies between the shortest and the longest of
them. The bits are then packed into bytes, most significant first.

* `Train.threshold_toNat`: the threshold is the mean; `Train.le_threshold` and `Train.threshold_le`
  — it lies between the widths.
* `Train.payload_of_bits`: a train whose bits are those of a payload carries that payload.
-/

import Mathlib.Algebra.Order.BigOperators.Group.List
import Mathlib.Algebra.Order.Ring.Nat
import SensorCape.Dht.Train

namespace SensorCape.Dht

/-! ### The mean -/

namespace Train

variable {train : Train} {bound : Nat}

/-- The widths of the forty low phases. -/
def lowWidths (train : Train) : List Nat :=
  train.data.map fun pulse => pulse.low.toNat

/-- A sum of widths does not wrap as long as there is room for the longest ones. -/
theorem foldl_low_toNat (pulses : List Pulse) {start : UInt64}
    (room : start.toNat + pulses.length * UInt32.size ≤ UInt64.size) :
    (pulses.foldl (fun sum pulse => sum + pulse.low.toUInt64) start).toNat =
      start.toNat + (pulses.map fun pulse => pulse.low.toNat).sum := by
  induction pulses generalizing start with
  | nil => rfl
  | cons pulse rest ih =>
    have short : pulse.low.toNat < UInt32.size := pulse.low.toNat_lt
    rw [List.length_cons, Nat.add_mul, Nat.one_mul] at room
    have added : (start + pulse.low.toUInt64).toNat = start.toNat + pulse.low.toNat := by
      rw [UInt64.toNat_add, UInt32.toNat_toUInt64]
      exact Nat.mod_eq_of_lt (by unfold UInt64.size at room; omega)
    rw [List.foldl_cons, ih (by rw [added]; omega), added, List.map_cons, List.sum_cons,
      Nat.add_assoc]

theorem lowSum_toNat (train : Train) : train.lowSum.toNat = train.lowWidths.sum := by
  refine (foldl_low_toNat train.data ?_).trans (Nat.zero_add _)
  rw [train.complete]
  decide

theorem lowWidths_length (train : Train) : train.lowWidths.length = 40 := by
  rw [lowWidths, List.length_map]
  exact train.complete

theorem lowWidths_sum_lt (train : Train) : train.lowWidths.sum < 40 * UInt32.size := by
  have bounded : ∀ width ∈ train.lowWidths, width ≤ UInt32.size - 1 := by
    intro width member
    obtain ⟨pulse, -, rfl⟩ := List.mem_map.mp member
    exact Nat.le_sub_one_of_lt pulse.low.toNat_lt
  have total := List.sum_le_card_nsmul _ _ bounded
  rw [lowWidths_length, Nat.nsmul_eq_mul] at total
  refine Nat.lt_of_le_of_lt total ?_
  decide

/-- **The threshold is the mean width of the low phases, rounded down.** -/
theorem threshold_toNat (train : Train) : train.threshold.toNat = train.lowWidths.sum / 40 := by
  have small : train.lowWidths.sum / 40 < UInt32.size :=
    Nat.div_lt_of_lt_mul train.lowWidths_sum_lt
  rw [threshold, UInt64.toNat_toUInt32, UInt64.toNat_div, lowSum_toNat]
  exact Nat.mod_eq_of_lt small

theorem le_threshold (reached : ∀ width ∈ train.lowWidths, bound ≤ width) :
    bound ≤ train.threshold.toNat := by
  have total := List.card_nsmul_le_sum _ _ reached
  rw [lowWidths_length, Nat.nsmul_eq_mul] at total
  rw [threshold_toNat, Nat.le_div_iff_mul_le (by decide), Nat.mul_comm]
  exact total

theorem threshold_le (limited : ∀ width ∈ train.lowWidths, width ≤ bound) :
    train.threshold.toNat ≤ bound := by
  have total := List.sum_le_card_nsmul _ _ limited
  rw [lowWidths_length, Nat.nsmul_eq_mul] at total
  rw [threshold_toNat]
  exact Nat.div_le_of_le_mul total

end Train

/-! ### The bits of a payload -/

/-- The bits of a byte, most significant first. -/
def byteBits (byte : UInt8) : List Bool :=
  [7, 6, 5, 4, 3, 2, 1, 0].map byte.toNat.testBit

/-- The bits of a payload in the order in which they are sent. -/
def Payload.bits (payload : Payload) : List Bool :=
  payload.bytes.flatMap byteBits

/-- **Packing the bits of a byte gives the byte.** -/
theorem packed_byteBits (byte : UInt8) : packed (byteBits byte) = byte := by
  have all : ∀ number : Fin 256, packed (byteBits (UInt8.ofNat number)) = UInt8.ofNat number := by
    decide +kernel
  have found := all ⟨byte.toNat, byte.toNat_lt⟩
  rwa [UInt8.ofNat_toNat] at found

/-- A train whose bits are those of a payload carries that payload. -/
theorem Train.payload_of_bits {train : Train} {payload : Payload}
    (same : train.bits = payload.bits) : train.payload = payload := by
  obtain ⟨first, second, third, fourth, fifth⟩ := payload
  simp only [Train.payload, Train.byte, same]
  show Payload.mk (packed (byteBits first)) (packed (byteBits second)) (packed (byteBits third))
    (packed (byteBits fourth)) (packed (byteBits fifth)) = _
  simp only [packed_byteBits]

end SensorCape.Dht
