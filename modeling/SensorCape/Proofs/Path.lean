/-
**Paths.**

A run is a list of stages, each of which begins in the state that the one before it left. What holds
at first and is kept by every stage holds wherever a stage begins.

* `Path.gather`: the invariant may speak of the stages gone before. `Path.reach`, `Path.arrive`: so
  it holds where a stage begins, and at the end.
* `Course`: a path together with the calls of its stages, in order. `flatMap_split`: each call is
  one of a single stage.
-/

namespace SensorCape

variable {ι S : Type}

/-- Stages that follow one another from a first state to a last one. -/
inductive Path (start finish : ι → S) : S → List ι → S → Prop
  | nil (state : S) : Path start finish state [] state
  | cons {stage : ι} {rest : List ι} {last : S}
      (follow : Path start finish (finish stage) rest last) :
      Path start finish (start stage) (stage :: rest) last

namespace Path

variable {start finish : ι → S} {first middle last : S}

theorem single (stage : ι) : Path start finish (start stage) [stage] (finish stage) :=
  .cons (.nil _)

theorem append {stages others : List ι} (path : Path start finish first stages middle)
    (follow : Path start finish middle others last) :
    Path start finish first (stages ++ others) last := by
  induction path with
  | nil state => exact follow
  | cons _ ih => exact .cons (ih follow)

/-- The stages before a stage lead to where it begins. -/
theorem before {earlier later : List ι} {stage : ι}
    (path : Path start finish first (earlier ++ stage :: later) last) :
    Path start finish first earlier (start stage) := by
  induction earlier generalizing first with
  | nil =>
    cases path with
    | cons _ => exact .nil _
  | cons passed rest ih =>
    cases path with
    | cons follow => exact .cons (ih follow)

/-- **What holds at first and is kept by every stage holds at the end**, with the stages that are
gone by then. -/
theorem gather (holds : List ι → S → Prop) {stages : List ι}
    (path : Path start finish first stages last) (initially : holds [] first)
    (kept : ∀ gone passed, passed ∈ stages → holds gone (start passed) →
      holds (gone ++ [passed]) (finish passed)) : holds stages last := by
  suffices general : ∀ (rest gone : List ι) (first : S), (∀ passed ∈ rest, passed ∈ stages) →
      Path start finish first rest last → holds gone first → holds (gone ++ rest) last from
    general stages [] first (fun _ member => member) path initially
  intro rest
  induction rest with
  | nil =>
    intro gone first _ path holding
    cases path
    rwa [List.append_nil]
  | cons passed rest ih =>
    intro gone first members path holding
    cases path with
    | cons follow =>
      have step := kept gone passed (members passed List.mem_cons_self) holding
      have next := ih (gone ++ [passed]) _
        (fun other member => members other (List.mem_cons_of_mem _ member)) follow step
      rwa [List.append_assoc] at next

/-- What holds at first and is kept by every stage holds where a stage begins. -/
theorem reach (holds : List ι → S → Prop) {earlier later : List ι} {stage : ι}
    (path : Path start finish first (earlier ++ stage :: later) last) (initially : holds [] first)
    (kept : ∀ gone passed, passed ∈ earlier → holds gone (start passed) →
      holds (gone ++ [passed]) (finish passed)) :
    holds earlier (start stage) := path.before.gather holds initially kept

/-- What holds at first and is kept by every stage holds at the end. -/
theorem arrive (holds : S → Prop) {stages : List ι} {last : S}
    (path : Path start finish first stages last) (initially : holds first)
    (kept : ∀ stage ∈ stages, holds (start stage) → holds (finish stage)) : holds last :=
  path.gather (fun _ => holds) initially fun _ => kept

end Path

/-! ### Calls along a path -/

/-- Some stages lead from a first state to a last one, and these are their calls. -/
def Course {ε : Type} (start finish : ι → S) (calls : ι → List ε) (first : S) (stages : List ι)
    (events : List ε) (last : S) : Prop :=
  Path start finish first stages last ∧ events = stages.flatMap calls

section Courses

variable {ε : Type} {start finish : ι → S} {calls : ι → List ε} {first middle last : S}
  {stages others : List ι} {events more : List ε}

theorem course_nil (state : S) : Course start finish calls state [] [] state := ⟨.nil state, rfl⟩

theorem course_single (stage : ι) :
    Course start finish calls (start stage) [stage] (calls stage) (finish stage) :=
  ⟨Path.single stage, (List.append_nil _).symm⟩

theorem Course.append (course : Course start finish calls first stages events middle)
    (follow : Course start finish calls middle others more last) :
    Course start finish calls first (stages ++ others) (events ++ more) last := by
  obtain ⟨path, rfl⟩ := course
  obtain ⟨rest, rfl⟩ := follow
  exact ⟨path.append rest, List.flatMap_append.symm⟩

/-- A call of two runs, one after the other, is one of the first or one of the second. -/
theorem append_split {first others before after : List ε} {event : ε}
    (split : first ++ others = before ++ event :: after) :
    (∃ rest, first = before ++ event :: rest ∧ after = rest ++ others) ∨
      ∃ gone, before = first ++ gone ∧ others = gone ++ event :: after := by
  rcases List.append_eq_append_iff.mp split with ⟨gone, same, follow⟩ | ⟨held, same, follow⟩
  · exact .inr ⟨gone, same, follow⟩
  · cases held with
    | nil =>
      rw [List.append_nil] at same
      exact .inr ⟨[], by rw [same, List.append_nil], follow.symm⟩
    | cons head rest =>
      obtain ⟨rfl, rfl⟩ := List.cons.inj follow
      exact .inl ⟨rest, same, rfl⟩

/-- A call of some stages is a call of one of them. -/
theorem flatMap_split {calls : ι → List ε} {stages : List ι} {before after : List ε} {event : ε}
    (split : stages.flatMap calls = before ++ event :: after) :
    ∃ earlier stage later inside rest, stages = earlier ++ stage :: later ∧
      calls stage = inside ++ event :: rest ∧
        before = earlier.flatMap calls ++ inside ∧ after = rest ++ later.flatMap calls := by
  induction stages generalizing before with
  | nil => simp at split
  | cons first others ih =>
    rw [List.flatMap_cons] at split
    rcases append_split split with ⟨rest, made, rfl⟩ | ⟨gone, rfl, follow⟩
    · exact ⟨[], first, others, before, rest, rfl, made, rfl, rfl⟩
    · obtain ⟨earlier, stage, later, inside, rest, rfl, made, rfl, rfl⟩ := ih follow
      refine ⟨first :: earlier, stage, later, inside, rest, rfl, made, ?_, rfl⟩
      rw [List.flatMap_cons, List.append_assoc]

end Courses

end SensorCape
