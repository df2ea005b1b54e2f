/-
**Reading an answer.**

A sensor answers with a number of high samples, a preamble, forty pulses and a low line. The lengths
of the phases may vary: an answer carries a payload as soon as the high phases of its zeros are
shorter, and those of its ones no shorter, than every low phase of its data.

* `sampleTrain_yields`: the train of an answer is measured to the sample.
* `Answer.Fits.train_payload`: the measured train has the payload that the answer carries. All widths
  lose one sample, so the mean still separates zeros from ones.
* `readSensor_answer`: **the read gives the payload's reading, or fails on its sum**, after four
  drives and as many samples as the answer has.
-/

import Mathlib.Data.List.Forall2
import SensorCape.Bench.Replay
import SensorCape.Proofs.Dht.Sampling
import SensorCape.Proofs.Dht.Threshold

namespace SensorCape.Dht

/-! ### Answers -/

/-- What a line shows when a sensor answers. -/
structure Answer where
  /-- How long the line is still high. -/
  idle : Nat
  preamble : Span
  data : List Span
  deriving DecidableEq, Repr

namespace Answer

/-- The levels of an answer, one for each sample; the last one ends the last pulse. -/
def levels (answer : Answer) : List Level :=
  List.replicate answer.idle .high ++
    ((answer.preamble :: answer.data).flatMap Span.levels ++ [.low])

/-- No phase of an answer is longer than a bound allows. -/
structure Fits (bound : UInt32) (answer : Answer) : Prop where
  idle : answer.idle < bound.toNat
  pulses : ∀ span ∈ answer.preamble :: answer.data, span.Within bound

/-- The bit that a pulse means is told from the low phases of all pulses. -/
def Means (data : List Span) (bit : Bool) (span : Span) : Prop :=
  ∀ other ∈ data, if bit then other.low ≤ span.high else span.high < other.low

instance (data : List Span) (bit : Bool) (span : Span) : Decidable (Means data bit span) :=
  inferInstanceAs (Decidable (∀ other ∈ data, if bit then _ else _))

/-- The pulses of an answer mean the bits of a payload. -/
def Carries (payload : Payload) (answer : Answer) : Prop :=
  List.Forall₂ (Means answer.data) payload.bits answer.data

instance (payload : Payload) (answer : Answer) : Decidable (answer.Carries payload) :=
  inferInstanceAs (Decidable (List.Forall₂ _ _ _))

variable {payload : Payload} {answer : Answer}

/-- An answer that carries a payload has forty pulses. -/
theorem Carries.length (carries : answer.Carries payload) : answer.data.length = dataBits :=
  (List.Forall₂.length_eq carries).symm

/-- The train of an answer as it is measured. -/
def train (answer : Answer) (complete : answer.data.length = dataBits) : Train :=
  ⟨answer.preamble.measured, answer.data.map Span.measured, by rw [List.length_map, complete]⟩

end Answer

/-! ### Decoding -/

section Decoding

variable {payload : Payload} {answer : Answer} {bound : UInt32} {span : Span}

/-- A measured phase is one sample shorter than it was. -/
theorem Span.Within.measured_low (within : span.Within bound) :
    span.measured.low.toNat = span.low - 1 := by
  have room : span.low - 1 < UInt32.size :=
    Nat.lt_of_le_of_lt ((Nat.sub_le _ _).trans within.1.2) bound.toNat_lt
  exact UInt32.toNat_ofNat_of_lt' room

theorem Span.Within.measured_high (within : span.Within bound) :
    span.measured.high.toNat = span.high - 1 := by
  have room : span.high - 1 < UInt32.size :=
    Nat.lt_of_le_of_lt ((Nat.sub_le _ _).trans within.2.2) bound.toNat_lt
  exact UInt32.toNat_ofNat_of_lt' room

theorem Answer.Fits.lowWidths (fits : answer.Fits bound)
    (complete : answer.data.length = dataBits) :
    (answer.train complete).lowWidths = answer.data.map fun span => span.low - 1 := by
  rw [Train.lowWidths, Answer.train, List.map_map]
  exact List.map_congr_left fun span member =>
    (fits.pulses span (List.mem_cons_of_mem _ member)).measured_low

/-- **A pulse is read as the bit that it means.** -/
theorem Answer.Fits.reads (fits : answer.Fits bound) (complete : answer.data.length = dataBits)
    {bit : Bool} (member : span ∈ answer.data) (means : Answer.Means answer.data bit span) :
    decide ((answer.train complete).threshold ≤ span.measured.high) = bit := by
  have high := (fits.pulses span (List.mem_cons_of_mem _ member)).measured_high
  have noticed : ∀ other ∈ answer.data, 1 ≤ other.low := fun other among =>
    (fits.pulses other (List.mem_cons_of_mem _ among)).1.1
  cases bit with
  | true =>
    have limited : ∀ width ∈ (answer.train complete).lowWidths, width ≤ span.high - 1 := by
      rw [fits.lowWidths complete]
      refine List.forall_mem_map.mpr fun other among => ?_
      exact Nat.sub_le_sub_right (means other among) 1
    rw [decide_eq_true_iff, UInt32.le_iff_toNat_le, high]
    exact Train.threshold_le limited
  | false =>
    have reached : ∀ width ∈ (answer.train complete).lowWidths, span.high ≤ width := by
      rw [fits.lowWidths complete]
      refine List.forall_mem_map.mpr fun other among => ?_
      exact Nat.le_sub_one_of_lt (means other among)
    have above := Train.le_threshold reached
    have seen := (fits.pulses span (List.mem_cons_of_mem _ member)).2.1
    rw [decide_eq_false_iff_not, UInt32.le_iff_toNat_le, high]
    omega

/-- **The measured train has the payload that the answer carries.** -/
theorem Answer.Fits.train_payload (fits : answer.Fits bound) (carries : answer.Carries payload) :
    (answer.train carries.length).payload = payload := by
  have read : ∀ {bits : List Bool} {spans : List Span},
      List.Forall₂ (Answer.Means answer.data) bits spans → (∀ span ∈ spans, span ∈ answer.data) →
      spans.map (fun span => decide ((answer.train carries.length).threshold ≤
        span.measured.high)) = bits := by
    intro bits spans all within
    induction all with
    | nil => rfl
    | cons means _ ih =>
      obtain ⟨member, others⟩ := List.forall_mem_cons.mp within
      rw [List.map_cons, ih others, fits.reads carries.length member means]
  apply Train.payload_of_bits
  rw [Train.bits, Answer.train, List.map_map]
  exact read carries fun _ => id

end Decoding

/-! ### Reading -/

section Reading

variable {σ : Type} [SingleWire σ] {payload : Payload} {answer : Answer} {bound : UInt32}
  {line started last : σ}

theorem duration_eq (spans : List Span) : duration spans = (spans.flatMap Span.levels).length := by
  simp [duration, Span.levels, List.length_flatMap]

/-- **The train of an answer is measured**, and all samples of the answer are taken. -/
theorem sampleTrain_yields (fits : answer.Fits bound) (complete : answer.data.length = dataBits)
    (plays : Plays line answer.levels last) :
    Yields (sampleTrain bound) line (answer.train complete) answer.levels.length last := by
  have count : answer.levels.length =
      answer.idle + 1 + (answer.preamble.low + answer.preamble.high + duration answer.data) := by
    simp [Answer.levels, duration_eq, Span.levels]
    omega
  obtain ⟨short, pulses⟩ := fits
  obtain ⟨first, others⟩ := List.forall_mem_cons.mp pulses
  rw [Answer.levels, levels_eq_remainder pulses] at plays
  obtain ⟨fallen, fell, onward⟩ := runLength_yields (by decide) short plays
  obtain ⟨next, measured, rest⟩ := samplePulse_yields first onward
  have data := yields_return (samplePulses_yields complete others rest)
    fun found => (⟨answer.preamble.measured, found.1, found.2⟩ : Train)
  rw [count]
  exact yields_bind fell (yields_bind measured data)

theorem drive_taken {how : Drive} (taken : (SingleWire.drive how line).1 = none) :
    drive how line = ⟨.ok (), ⟨[.drive how none], [], []⟩, (SingleWire.drive how line).2⟩ := by
  rw [drive, taken]

theorem drive_bind {α : Type} {how : Drive} (taken : (SingleWire.drive how line).1 = none)
    (next : Action LineEvent σ α) :
    (drive how >>= fun _ => next) line =
      ⟨(next (SingleWire.drive how line).2).result,
        ⟨[.drive how none], [], []⟩ ++ (next (SingleWire.drive how line).2).journal,
        (next (SingleWire.drive how line).2).state⟩ := by
  rw [Action.bind_apply, drive_taken taken]

/-- The drives that ask for an answer. -/
def request : List Drive :=
  [.output, .high, .low, .input]

/-- A line that takes the request is sampled next, and what was measured is decoded. -/
theorem readSensor_asked {train : Train} {taken : Nat} (kind : Kind)
    (asked : Accepts line request started)
    (measured : Yields (sampleTrain bound) started train taken last) :
    (readSensor kind bound line).result = train.decode kind ∧
      (readSensor kind bound line).state = last ∧
      (readSensor kind bound line).journal.events =
        request.map (fun how => .drive how none) ++ (sampleTrain bound started).journal.events := by
  obtain ⟨result, state, -, -⟩ := measured
  have decoded : (sampleTrain bound >>= fun train => Action.ofExcept (train.decode kind)) started =
      ⟨train.decode kind, (sampleTrain bound started).journal, last⟩ := by
    rw [Action.bind_apply, result]
    cases found : train.decode kind <;> simp [found, state]
  cases asked with
  | cons output asked =>
    cases asked with
    | cons high asked =>
      cases asked with
      | cons low asked =>
        cases asked with
        | cons input asked =>
          cases asked
          rw [readSensor, drive_bind output, drive_bind high, drive_bind low, drive_bind input,
            decoded]
          exact ⟨rfl, rfl, rfl⟩

/-- The sum of the first four bytes as a number. -/
def Payload.total (payload : Payload) : Nat :=
  ((payload.bytes.take 4).map UInt8.toNat).sum

/-- The checksum that belongs to a payload is its sum modulo 256. -/
theorem Payload.sum_eq_total (payload : Payload) :
    payload.sum = UInt8.ofNat (payload.total % 256) := by
  apply UInt8.toNat_inj.mp
  simp [Payload.sum, Payload.total, Payload.bytes, UInt8.toNat_add]
  omega

theorem Kind.reading_eq (kind : Kind) (payload : Payload) :
    kind.reading payload =
      if payload.checksum.toNat = payload.total % 256 then .ok (kind.interpret payload)
      else .error (.checksumFailed (UInt8.ofNat (payload.total % 256)) payload.checksum) := by
  have same : payload.sum = payload.checksum ↔ payload.checksum.toNat = payload.total % 256 := by
    rw [payload.sum_eq_total, ← UInt8.toNat_inj, UInt8.toNat_ofNat', Nat.mod_mod]
    exact eq_comm
  by_cases sound : payload.sum = payload.checksum
  · rw [if_pos (same.mp sound), Kind.reading, Payload.validate, if_pos sound]
    rfl
  · rw [if_neg (same.not.mp sound), Kind.reading, Payload.validate, if_neg sound,
      payload.sum_eq_total]
    rfl

/-- **Reading an answer gives the reading of the payload that it carries if the last byte is the sum
of the others, and the failed check of that sum if it is not.** The line is driven four times and is
then only sampled, exactly as often as the answer has samples. -/
theorem readSensor_answer (kind : Kind) (carries : answer.Carries payload)
    (fits : answer.Fits bound) (asked : Accepts line request started)
    (plays : Plays started answer.levels last) :
    (readSensor kind bound line).result =
        (if payload.checksum.toNat = payload.total % 256 then .ok (kind.interpret payload)
        else .error (.checksumFailed (UInt8.ofNat (payload.total % 256)) payload.checksum)) ∧
      (readSensor kind bound line).state = last ∧
      ∃ rows, (readSensor kind bound line).journal.events =
          request.map (fun how => .drive how none) ++ rows ∧
        (∀ row ∈ rows, ∃ count, row = .samples count none) ∧
        (rows.map LineEvent.taken).sum = answer.levels.length := by
  have measured := sampleTrain_yields fits carries.length plays
  obtain ⟨result, state, events⟩ := readSensor_asked kind asked measured
  refine ⟨?_, state, _, events, measured.samples, measured.total⟩
  rw [result, Train.decode, fits.train_payload carries, Kind.reading_eq]

end Reading

/-! ### Replayed answers -/

section Replayed

open Bench

/-- The runs of levels of an answer. -/
def Answer.runs (answer : Answer) : List (Level × Nat) :=
  (.high, answer.idle) ::
    ((answer.preamble :: answer.data).flatMap fun span => [(.low, span.low), (.high, span.high)]) ++
    [(.low, 1)]

variable {idle : Level} {runs : List (Level × Nat)} {levels : List Level} {last : Replay}

/-- A run is shown before what follows it. -/
theorem plays_run (level : Level) (count : Nat) (more : levels ≠ [])
    (onward : Plays ⟨[], runs, idle⟩ levels last) :
    Plays ⟨[], (level, count) :: runs, idle⟩ (List.replicate count level ++ levels) last := by
  induction count with
  | zero =>
    cases onward with
    | nil => exact absurd rfl more
    | cons shown follow => exact .cons shown follow
  | succ count ih => exact .cons rfl ih

/-- Pulses and the sample that ends the last one are shown in full. -/
theorem plays_pulses (idle : Level) (spans : List Span) :
    ∃ last : Replay, last.remaining = 0 ∧
      Plays ⟨[], (spans.flatMap fun span => [(.low, span.low), (.high, span.high)]) ++ [(.low, 1)],
        idle⟩ (spans.flatMap Span.levels ++ [.low]) last := by
  induction spans with
  | nil => exact ⟨⟨[], [(.low, 0)], idle⟩, rfl, .cons rfl (.nil _)⟩
  | cons span rest ih =>
    obtain ⟨last, gone, onward⟩ := ih
    have rise := plays_run .high span.high (by simp) onward
    have fall := plays_run .low span.low (by simp) rise
    refine ⟨last, gone, ?_⟩
    simp only [List.flatMap_cons, Span.levels, List.append_assoc]
    exact fall

/-- **A line that replays the runs of an answer shows that answer**, and nothing is left of them. -/
theorem plays_answer (answer : Answer) (idle : Level) :
    ∃ last : Replay, last.remaining = 0 ∧ Plays ⟨[], answer.runs, idle⟩ answer.levels last := by
  obtain ⟨last, gone, onward⟩ := plays_pulses idle (answer.preamble :: answer.data)
  exact ⟨last, gone, plays_run .high answer.idle (by simp) onward⟩

/-- A payload for 65.2 percent and 35.1 degrees. -/
def warm : Payload :=
  ⟨0x02, 0x8C, 0x01, 0x5F, 0xEE⟩

/-- An answer with phases of different lengths; some ones are just as long as the longest low
phase. -/
def uneven : Answer :=
  ⟨3, ⟨7, 2⟩, warm.bits.zipIdx.map fun (bit, place) =>
    ⟨4 + place % 3, if bit then 6 + place % 2 else 1 + place % 3⟩⟩

theorem readSensor_uneven :
    uneven.Carries warm ∧ uneven.Fits 7 ∧ ∃ started last : Replay,
      Accepts ⟨[], uneven.runs, .low⟩ request started ∧ Plays started uneven.levels last ∧
        last.remaining = 0 ∧
        (readSensor .dht22 7 (⟨[], uneven.runs, .low⟩ : Replay)).result =
          .ok (Kind.dht22.interpret warm) ∧
        (readSensor .dht22 7 (⟨[], uneven.runs, .low⟩ : Replay)).state = last := by
  have carries : uneven.Carries warm := by decide
  have fits : uneven.Fits 7 := ⟨by decide, by decide⟩
  obtain ⟨last, gone, plays⟩ := plays_answer uneven .low
  have asked : Accepts (⟨[], uneven.runs, .low⟩ : Replay) request ⟨[], uneven.runs, .low⟩ :=
    .cons rfl (.cons rfl (.cons rfl (.cons rfl (.nil _))))
  obtain ⟨result, state, -⟩ := readSensor_answer .dht22 carries fits asked plays
  rw [if_pos (by decide)] at result
  exact ⟨carries, fits, _, last, asked, plays, gone, result, state⟩

end Replayed

end SensorCape.Dht
