/-
**Corrupted answers.**

The last byte of a payload is the sum of the other four, modulo 256. If a single byte comes in
changed, either the sum has moved by less than 256 and the last byte stands, or the sum stands and
the last byte has moved, so the two cannot agree any more. A changed bit is a changed byte, and the
bits do not share their comparisons: a high phase that crosses the mean changes its own bit only.

* `Payload.unsound_of_differ`: **one changed byte breaks the sum.**
* `Payload.differ_of_bit`: payloads that differ in one bit differ in one byte.
* `Train.corruption_detected`: whatever train is received in place of one that could be read, if one
  byte or one bit of its payload is another then its check fails, with its own sum and last byte.
-/

import SensorCape.Proofs.Dht.Answer
import SensorCape.Proofs.Dht.Bits

namespace SensorCape.Dht

/-! ### Payloads that differ in one byte -/

namespace Payload

variable {sent received : Payload}

/-- The byte of a payload with a given place. -/
def byte (payload : Payload) (place : Fin 5) : UInt8 :=
  payload.bytes.get place

/-- Two payloads differ in the byte with a given place, and in no other. -/
def Differ (place : Fin 5) (sent received : Payload) : Prop :=
  ∀ here, sent.byte here ≠ received.byte here ↔ here = place

instance (place : Fin 5) (sent received : Payload) : Decidable (Differ place sent received) :=
  inferInstanceAs (Decidable (∀ _, _ ↔ _))

/-- The last byte of a payload is the sum of the others modulo 256. -/
def Sound (payload : Payload) : Prop :=
  payload.checksum.toNat = payload.total % 256

/-- The fault of a payload whose last byte is not the sum of the others. -/
def sumFault (payload : Payload) : Fault :=
  .checksumFailed (UInt8.ofNat (payload.total % 256)) (payload.byte 4)

theorem Differ.same {place here : Fin 5} (differ : Differ place sent received)
    (other : here ≠ place) : sent.byte here = received.byte here :=
  not_not.mp ((differ here).not.mpr other)

theorem total_eq_sum (payload : Payload) :
    payload.total = ∑ here : Fin 4, (payload.byte here.castSucc).toNat := by
  rw [Fin.sum_univ_four]
  simp [total, bytes, byte, Nat.add_assoc]

theorem Differ.total_add {place : Fin 4} (differ : Differ place.castSucc sent received) :
    received.total + (sent.byte place.castSucc).toNat =
      sent.total + (received.byte place.castSucc).toNat := by
  have others : ∑ here ∈ Finset.univ.erase place, (sent.byte here.castSucc).toNat =
      ∑ here ∈ Finset.univ.erase place, (received.byte here.castSucc).toNat := by
    refine Finset.sum_congr rfl fun here apart => ?_
    rw [differ.same fun same => Finset.ne_of_mem_erase apart (Fin.castSucc_injective 4 same)]
  rw [total_eq_sum, total_eq_sum, ← Finset.add_sum_erase _ _ (Finset.mem_univ place),
    ← Finset.add_sum_erase _ _ (Finset.mem_univ place), others]
  omega

/-- **One changed byte breaks the sum.** -/
theorem unsound_of_differ {place : Fin 5} (differ : Differ place sent received)
    (sound : sent.Sound) : ¬ received.Sound := by
  intro also
  unfold Sound at sound also
  induction place using Fin.lastCases with
  | last =>
    have still : sent.total = received.total := by
      rw [total_eq_sum, total_eq_sum]
      refine Finset.sum_congr rfl fun here _ => ?_
      rw [differ.same (Fin.castSucc_lt_last here).ne]
    have moved : sent.checksum ≠ received.checksum := (differ (Fin.last 4)).mpr rfl
    rw [still, ← also] at sound
    exact moved (UInt8.toNat_inj.mp sound)
  | cast place =>
    have still : sent.checksum = received.checksum :=
      differ.same (Fin.castSucc_lt_last place).ne'
    have moved : (sent.byte place.castSucc).toNat ≠ (received.byte place.castSucc).toNat :=
      UInt8.toNat_inj.not.mpr ((differ place.castSucc).mpr rfl)
    have shifted := differ.total_add
    have small := (sent.byte place.castSucc).toNat_lt
    have short := (received.byte place.castSucc).toNat_lt
    rw [still] at sound
    omega

/-- Two bytes that change against each other keep the sum. -/
example : (⟨0x03, 0x8B, 0x01, 0x5F, 0xEE⟩ : Payload).Sound := rfl

/-! ### Payloads that differ in one bit -/

/-- The byte that holds the bit with a given place. -/
def byteOf (place : Fin dataBits) : Fin 5 :=
  ⟨place.val / 8, by
    have inside : place.val < 40 := place.isLt
    omega⟩

/-- The place of a bit in a byte. -/
def placeOf (here : Fin 5) (within : Fin 8) : Fin dataBits :=
  ⟨8 * here.val + within.val, by
    show _ < 40
    omega⟩

theorem byteOf_placeOf (here : Fin 5) (within : Fin 8) : byteOf (placeOf here within) = here := by
  apply Fin.ext
  show (8 * here.val + within.val) / 8 = here.val
  omega

theorem bit_eq (payload : Payload) (place : Fin dataBits) :
    payload.bit place = (payload.byte (byteOf place)).toNat.testBit (7 - place.val % 8) := rfl

/-- Bytes with the same bits are the same. -/
theorem byte_eq_of_bits {here : Fin 5} (same : ∀ within : Fin 8,
    sent.bit (placeOf here within) = received.bit (placeOf here within)) :
    sent.byte here = received.byte here := by
  apply UInt8.toNat_inj.mp
  apply Nat.eq_of_testBit_eq
  intro bit
  by_cases inside : bit < 8
  · have found := same ⟨7 - bit, by omega⟩
    have within : 7 - (placeOf here ⟨7 - bit, by omega⟩).val % 8 = bit := by
      show 7 - (8 * here.val + (7 - bit)) % 8 = bit
      omega
    rwa [bit_eq, bit_eq, byteOf_placeOf, within] at found
  · have above : ∀ byte : UInt8, byte.toNat < 2 ^ bit := fun byte =>
      Nat.lt_of_lt_of_le byte.toNat_lt (Nat.pow_le_pow_right (by decide) (Nat.not_lt.mp inside))
    rw [Nat.testBit_lt_two_pow (above _), Nat.testBit_lt_two_pow (above _)]

/-- **Payloads that differ in one bit differ in one byte.** -/
theorem differ_of_bit {flipped : Fin dataBits}
    (only : ∀ place, sent.bit place ≠ received.bit place ↔ place = flipped) :
    Differ (byteOf flipped) sent received := by
  intro here
  constructor
  · intro changed
    by_contra elsewhere
    refine changed (byte_eq_of_bits fun within => not_not.mp ((only _).not.mpr fun same => ?_))
    rw [← same, byteOf_placeOf] at elsewhere
    exact elsewhere rfl
  · rintro rfl same
    refine (only flipped).mpr rfl ?_
    rw [bit_eq, bit_eq, same]

end Payload

/-! ### Trains -/

namespace Train

variable {train : Train}

/-- A train whose bit with a given place shows another high width. -/
def withHigh (place : Fin dataBits) (width : UInt32) (train : Train) : Train :=
  ⟨train.preamble, train.data.modify place.val ({ · with high := width }), by
    rw [List.length_modify, train.complete]⟩

theorem threshold_withHigh (place : Fin dataBits) (width : UInt32) :
    (train.withHigh place width).threshold = train.threshold := by
  have lows : (train.withHigh place width).lowWidths = train.lowWidths := by
    refine List.ext_getElem ?_ fun index _ _ => ?_
    · rw [lowWidths_length, lowWidths_length]
    · simp only [lowWidths, withHigh, List.getElem_map, List.getElem_modify]
      split <;> rfl
  apply UInt32.toNat_inj.mp
  rw [threshold_toNat, threshold_toNat, lows]

theorem high_withHigh (place other : Fin dataBits) (width : UInt32) :
    ((train.withHigh place width).pulse other.succ).high =
      if other = place then width else (train.pulse other.succ).high := by
  have bound : other.val < train.data.length := by
    rw [train.complete]
    exact other.isLt
  have modified : other.val < (train.data.modify place.val ({ · with high := width })).length := by
    rwa [List.length_modify]
  show (train.data.modify place.val ({ · with high := width }))[other.val].high =
    if other = place then width else train.data[other.val].high
  rw [List.getElem_modify]
  by_cases here : other = place
  · rw [if_pos (congrArg Fin.val here).symm, if_pos here]
  · rw [if_neg fun same => here (Fin.ext same.symm), if_neg here]

/-- **A high phase decides its own bit only.** -/
theorem bit_withHigh (place other : Fin dataBits) (width : UInt32) :
    (train.withHigh place width).payload.bit other =
      if other = place then decide (train.threshold ≤ width) else train.payload.bit other := by
  rw [payload_bit, payload_bit, threshold_withHigh, high_withHigh]
  by_cases here : other = place
  · rw [if_pos here, if_pos here]
  · rw [if_neg here, if_neg here]

theorem sound_of_decode {kind : Kind} {reading : Reading}
    (valid : train.decode kind = .ok reading) : train.payload.Sound := by
  by_contra unsound
  rw [decode, Kind.reading_eq, if_neg (show ¬ _ = _ from unsound)] at valid
  cases valid

theorem decode_unsound (kind : Kind) (unsound : ¬ train.payload.Sound) :
    train.decode kind = .error train.payload.sumFault := by
  rw [decode, Kind.reading_eq, if_neg (show ¬ _ = _ from unsound)]
  rfl

/-- **Corruption of one byte is always detected.** A train can be read. Whatever train has a payload
that differs from its payload in exactly one byte, in any of its bits, fails the check, with the sum
of its own first four bytes modulo 256 and with its own last byte. So does every train whose payload
differs in exactly one bit, and so does the same train with one high phase moved across the mean. -/
theorem corruption_detected {sent : Train} {kind : Kind} {reading : Reading}
    (valid : sent.decode kind = .ok reading) :
    (∀ (received : Train) (place : Fin 5), sent.payload.Differ place received.payload →
      received.decode kind = .error received.payload.sumFault) ∧
    (∀ (received : Train) (flipped : Fin dataBits),
      (∀ place, sent.payload.bit place ≠ received.payload.bit place ↔ place = flipped) →
        received.decode kind = .error received.payload.sumFault) ∧
    ∀ (flipped : Fin dataBits) (width : UInt32),
      decide (sent.threshold ≤ width) ≠ sent.payload.bit flipped →
        (sent.withHigh flipped width).decode kind =
          .error (sent.withHigh flipped width).payload.sumFault := by
  have sound := sound_of_decode valid
  have bytes : ∀ (received : Train) (place : Fin 5), sent.payload.Differ place received.payload →
      received.decode kind = .error received.payload.sumFault := fun received _ differ =>
    decode_unsound kind (Payload.unsound_of_differ differ sound)
  have bits : ∀ (received : Train) (flipped : Fin dataBits),
      (∀ place, sent.payload.bit place ≠ received.payload.bit place ↔ place = flipped) →
        received.decode kind = .error received.payload.sumFault := fun received _ only =>
    bytes received _ (Payload.differ_of_bit only)
  refine ⟨bytes, bits, fun flipped width crossed => bits _ flipped fun place => ?_⟩
  rw [bit_withHigh]
  by_cases here : place = flipped
  · rw [if_pos here, here]
    exact iff_of_true crossed.symm rfl
  · rw [if_neg here]
    exact iff_of_false (not_not_intro rfl) here

/-- A train with even low phases that carries a payload. -/
def plain (payload : Payload) : Train :=
  ⟨⟨80, 80⟩, payload.bits.map fun bit => ⟨50, if bit then 70 else 26⟩, by
    rw [List.length_map]
    rfl⟩

theorem corruption_detected_warm : ∃ reading, (plain warm).decode .dht22 = .ok reading ∧
    warm.Differ 3 ⟨0x02, 0x8C, 0x01, 0xA0, 0xEE⟩ ∧
    (plain ⟨0x02, 0x8C, 0x01, 0xA0, 0xEE⟩).decode .dht22 = .error (.checksumFailed 0x2F 0xEE) ∧
    ((plain warm).withHigh ⟨39, by decide⟩ 50).decode .dht22 =
      .error (.checksumFailed 0xEE 0xEF) := by
  have payload : (plain warm).payload = warm := by decide +kernel
  have valid : (plain warm).decode .dht22 = .ok (Kind.dht22.interpret warm) := by
    rw [decode, payload, Kind.reading_eq, if_pos (by decide)]
  have differ : (plain warm).payload.Differ 3 (plain ⟨0x02, 0x8C, 0x01, 0xA0, 0xEE⟩).payload := by
    decide +kernel
  obtain ⟨bytes, -, moved⟩ := corruption_detected valid
  refine ⟨_, valid, by decide, (bytes _ 3 differ).trans ?_, (moved ⟨39, by decide⟩ 50 ?_).trans ?_⟩
  · decide +kernel
  · decide +kernel
  · decide +kernel

end Train

end SensorCape.Dht
