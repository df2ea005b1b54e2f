/-
**Windows are mapped once.**

The window of a bank is mapped at the first request for which the device could be opened and the
bank mapped; every later request for the bank, by its number or through a pin, shares the window and
makes no call. A request that could not map its bank leaves all banks as they were, so the next one
tries again.

* `turns_table`: at every request of a history the table is that of the requests before it.
* `Chained.not_remapped`, `Chained.stands`: what follows for the calls and for the windows.
* `windows_mapped_once`: **what every request comes to after any others**, and that no bank is
  mapped a second time.
-/

import SensorCape.Proofs.Gpio.Table

namespace SensorCape.Gpio

variable {σ : Type} [MemoryDevice σ]

/-! ### Histories -/

section Histories

variable {path : String} {memory : σ}

/-- At every request the table is that of the requests before it, and at the end that of all. -/
theorem turns_table (path : String) (memory : σ) (requests : List Request) :
    let run := turns requests ⟨memory, .unmapped path⟩
    (∀ earlier turn later, run = earlier ++ turn :: later → Table path turn.start.banks earlier) ∧
      ∃ last : Controller σ, Table path last.banks run := by
  intro run
  obtain ⟨last, course⟩ : ∃ last, Path Turn.start Turn.finish ⟨memory, .unmapped path⟩ run last :=
    turns_path requests _
  refine ⟨fun earlier turn later split => ?_, last, ?_⟩
  · rw [split] at course
    exact course.reach (fun gone controller => Table path controller.banks gone) (table_nil path)
      fun _ _ _ table => table.snoc
  · exact course.gather (fun gone controller => Table path controller.banks gone) (table_nil path)
      fun _ _ _ table => table.snoc

/-- Every request follows on the ones before it. -/
def Chained (path : String) (run : List (Turn σ)) : Prop :=
  ∀ earlier turn later, run = earlier ++ turn :: later → turn.Follows path earlier

section Chains

variable {run : List (Turn σ)}

/-- A bank that was mapped is not mapped again, be it in vain. -/
theorem Chained.not_remapped (chained : Chained path run) {bank : Nat} {failure : Option Cause}
    {before after : List MemoryEvent}
    (split : run.flatMap Turn.calls = before ++ .map bank none :: after) :
    .map bank failure ∉ after := by
  obtain ⟨earlier, turn, later, inside, rest, rfl, made, -, rfl⟩ := flatMap_split split
  have mapped : turn.Mapped bank := by
    rw [Turn.Mapped, made]
    simp
  obtain ⟨own, -, called, -⟩ := mapped.answer
  have last : rest = [] := by
    rw [called] at made
    -- only the opening comes before the mapping
    rcases inside with _ | ⟨opened, _ | ⟨second, more⟩⟩
    · cases made
    · obtain ⟨-, follow⟩ := List.cons.inj made
      exact (List.cons.inj follow).2.symm
    · simp at made
  intro again
  rw [last, List.nil_append, List.mem_flatMap] at again
  obtain ⟨other, member, remade⟩ := again
  obtain ⟨between, rest, rfl⟩ := List.append_of_mem member
  have follows := chained (earlier ++ turn :: between) other rest (by simp)
  have same : bank = other.request.bank := Turn.own_call remade
  obtain ⟨_, -, -, silent, -⟩ := follows.known turn (by simp) (same ▸ mapped)
  rw [silent] at remade
  cases remade

/-- Whoever got a window got one that is shared at the end. -/
theorem Chained.stands (chained : Chained path run) {last : Controller σ}
    (table : Table path last.banks run) {turn : Turn σ} (among : turn ∈ run) {window : Window}
    (got : turn.Got window) : ∃ found : WindowOf turn.request.bank, found.1 = window ∧
      last.banks.window? turn.request.bank = some found := by
  obtain ⟨earlier, later, split⟩ := List.append_of_mem among
  obtain ⟨onBank, mapper, there, mapped, gets⟩ := (chained earlier turn later split).got window got
  refine ⟨⟨window, onBank⟩, rfl, (table.shares _ _).mpr ⟨mapper, ?_, mapped, gets⟩⟩
  rw [split, List.append_cons]
  exact List.mem_append_left _ there

end Chains

/-- **Windows are mapped once.** After a bank was mapped no call maps it again, and all requests for
one bank that got a window, or a line on it, got the same one; how each request follows on the ones
before it is for every history of requests, on a device that refuses any of the calls. -/
theorem windows_mapped_once (path : String) (memory : σ) (requests : List Request) :
    let run := turns requests ⟨memory, .unmapped path⟩
    (∀ bank failure before after,
      run.flatMap Turn.calls = before ++ .map bank none :: after → .map bank failure ∉ after) ∧
      (∀ first ∈ run, ∀ second ∈ run, ∀ window other, first.request.bank = second.request.bank →
        first.Got window → second.Got other → window = other) ∧
      ∀ earlier turn later, run = earlier ++ turn :: later → turn.Follows path earlier := by
  intro run
  obtain ⟨tables, last, table⟩ := turns_table path memory requests
  have chained : Chained path run := fun earlier turn later split =>
    Turn.follows (tables earlier turn later split)
  refine ⟨fun _ _ _ _ calls => chained.not_remapped calls, ?_, chained⟩
  intro first among second also window other same one two
  obtain ⟨found, rfl, there⟩ := chained.stands table among one
  obtain ⟨again, rfl, here⟩ := chained.stands table also two
  refine Option.some.inj ?_
  calc some found.1 = last.banks.windows.find? (·.bank = first.request.bank) := by
        rw [← window?_map, there]
        rfl
    _ = last.banks.windows.find? (·.bank = second.request.bank) := by rw [same]
    _ = some again.1 := by
        rw [← window?_map, here]
        rfl

end Histories

/-- A device that answers its calls as it was told to, and then grants them all. -/
structure Hesitant where
  answers : List (Option Cause)

instance : MemoryDevice Hesitant where
  acquire device := (device.answers.headD none, ⟨device.answers.tail⟩)
  map _ device := (device.answers.headD none, ⟨device.answers.tail⟩)
  load _ _ _ := 0
  store _ _ _ device := device

/-- The device cannot be opened at first, then bank 1 cannot be mapped, and then it can, for a pin.
From then on its window is shared, and a pin beyond the banks in between changes nothing. -/
theorem windows_third_attempt :
    let answers : List (Option Cause) := [some .timedOut, none, some (.system .busy)]
    let run := turns [.window 1, .window 1, .resolve ⟨128⟩, .resolve ⟨33⟩, .window 1]
      ⟨(⟨answers⟩ : Hesitant), .unmapped memoryPath⟩
    let mapped : Window := ⟨1, by decide, 0⟩
    run.map (·.outcome.result) = [.error (.openFailed "/dev/mem" .timedOut),
        .error (.mapFailed 1 (.system .busy)), .error (.invalidPin 128),
        .ok (.line ⟨⟨33⟩, mapped, rfl⟩), .ok (.window mapped)] ∧
      run.flatMap Turn.calls = [.acquire (some .timedOut), .acquire none,
        .map 1 (some (.system .busy)), .acquire none, .map 1 none] ∧
      ∀ earlier turn later, run = earlier ++ turn :: later → turn.Follows memoryPath earlier := by
  intro answers run mapped
  refine ⟨rfl, by decide +kernel, ?_⟩
  exact (windows_mapped_once memoryPath (Hesitant.mk answers) _).2.2

end SensorCape.Gpio
