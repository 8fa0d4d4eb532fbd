import Mathlib.Algebra.GroupWithZero.Nat
import Mathlib.Logic.Relation
import Navin.Semantics.Program

/-! Interleaved execution of any family of programs over one store. A scheduler
picks a thread, the thread's next call is performed atomically, and the event
is recorded. Runs may be restricted by a guard on the steps they take. -/
namespace Async

variable {Call : Type} {Answer : Call → Type} {Error ι Result : Type}

/-! The threads of a small pool are numerals. -/

scoped instance two_neZero : NeZero 2 := ⟨by decide⟩

scoped instance three_neZero : NeZero 3 := ⟨by decide⟩

scoped instance four_neZero : NeZero 4 := ⟨by decide⟩

/-- One performed call: who awaited it, and how it settled. -/
structure Event (Call : Type) (Answer : Call → Type) (Error ι : Type) where
  thread : ι
  request : Call
  response : Except Error (Answer request)

/-- A store shared by programs that have not all finished. -/
structure Pool (W : World Call Answer Error) (ι Result : Type) where
  store : W.Store
  thread : ι → Program Call Answer Error Result

variable {W : World Call Answer Error} [DecidableEq ι]

/-- Perform the next call of thread `i`. A finished thread has none. -/
def Pool.step (pool : Pool W ι Result) (env : W.Env) (i : ι) :
    Option (Event Call Answer Error ι × Pool W ι Result) :=
  match pool.thread i with
  | .done _ => none
  | .fail _ => none
  | .call request next =>
      let (store, response) := W.perform env pool.store request
      some (⟨i, request, response⟩,
        { store, thread := Function.update pool.thread i (next response) })

/-- Everything one step can do: the stepping thread was awaiting a call, the
store moved by that call, and every other thread is untouched. -/
theorem Pool.step_cases {pool pool' : Pool W ι Result} {env : W.Env} {i : ι}
    {event : Event Call Answer Error ι} (h : pool.step env i = some (event, pool')) :
    ∃ request next, pool.thread i = .call request next ∧
      event = ⟨i, request, (W.perform env pool.store request).2⟩ ∧
      pool'.store = (W.perform env pool.store request).1 ∧
      pool'.thread = Function.update pool.thread i
        (next (W.perform env pool.store request).2) := by
  unfold Pool.step at h
  split at h
  · cases h
  · cases h
  · rename_i request next hThread
    simp only [Option.some.injEq, Prod.mk.injEq] at h
    obtain ⟨rfl, rfl⟩ := h
    exact ⟨request, next, hThread, rfl, rfl, rfl⟩

/-- A condition on a step, given the events so far (latest first) and the store
before the step. It sees no thread's code. -/
abbrev Guard (W : World Call Answer Error) (ι : Type) : Type :=
  List (Event Call Answer Error ι) → W.Store → ι → Call → Prop

/-- A point of a run: the events so far, latest first, and the pool reached. -/
abbrev Point (W : World Call Answer Error) (ι Result : Type) : Type :=
  List (Event Call Answer Error ι) × Pool W ι Result

/-- One step, by any thread and under any decision of the environment. -/
def GuardedStep (guard : Guard W ι) (before after : Point W ι Result) : Prop :=
  ∃ env i event, before.2.step env i = some (event, after.2) ∧
    guard before.1 before.2.store i event.request ∧ after.1 = event :: before.1

/-- What a guarded step from one point to the next consists of. -/
theorem GuardedStep.cases {guard : Guard W ι} {before after : Point W ι Result}
    (h : GuardedStep guard before after) :
    ∃ env i request next, before.2.thread i = .call request next ∧
      guard before.1 before.2.store i request ∧
      after.1 = ⟨i, request, (W.perform env before.2.store request).2⟩ :: before.1 ∧
      after.2.store = (W.perform env before.2.store request).1 := by
  obtain ⟨env, i, event, hStep, hGuard, hHistory⟩ := h
  obtain ⟨request, next, hThread, rfl, hStore, -⟩ := Pool.step_cases hStep
  exact ⟨env, i, request, next, hThread, hGuard, hHistory, hStore⟩

/-- A step that a stricter guard allows is allowed. -/
theorem GuardedStep.mono {strict guard : Guard W ι} {before after : Point W ι Result}
    (hGuard : ∀ history store i call, strict history store i call → guard history store i call)
    (h : GuardedStep strict before after) : GuardedStep guard before after := by
  obtain ⟨env, i, event, hStep, hStrict, hHistory⟩ := h
  exact ⟨env, i, event, hStep, hGuard _ _ _ _ hStrict, hHistory⟩

/-- Finitely many guarded steps. -/
abbrev GuardedSteps (guard : Guard W ι) : Point W ι Result → Point W ι Result → Prop :=
  Relation.ReflTransGen (GuardedStep guard)

theorem GuardedSteps.mono {strict guard : Guard W ι} {before after : Point W ι Result}
    (hGuard : ∀ history store i call, strict history store i call → guard history store i call)
    (h : GuardedSteps strict before after) : GuardedSteps guard before after :=
  Relation.ReflTransGen.mono (fun _ _ => GuardedStep.mono hGuard) _ _ h

/-- The points reachable from `start` by steps that satisfy the guard. -/
abbrev GuardedRun (guard : Guard W ι) (start : Pool W ι Result) : Point W ι Result → Prop :=
  GuardedSteps guard ([], start)

/-- The guard that allows every step: every scheduler, every environment. -/
def anyStep : Guard W ι := fun _ _ _ _ => True

instance (history : List (Event Call Answer Error ι)) (store : W.Store) (i : ι) (call : Call) :
    Decidable (anyStep history store i call) :=
  isTrue trivial

/-- Run a fixed schedule: which thread goes next and what the environment
decides. `none` when a thread has nothing to await or the guard is violated. -/
def Pool.runSchedule (guard : Guard W ι) [∀ history store i call,
    Decidable (guard history store i call)] :
    List (W.Env × ι) → Point W ι Result → Option (Point W ι Result)
  | [], point => some point
  | (env, i) :: rest, (history, pool) =>
      match pool.step env i with
      | none => none
      | some (event, pool') =>
          if guard history pool.store i event.request then
            runSchedule guard rest (event :: history, pool')
          else none

/-- A schedule that can be followed to its end is a run. -/
theorem Pool.runSchedule_steps {guard : Guard W ι} [∀ history store i call,
    Decidable (guard history store i call)] {schedule : List (W.Env × ι)}
    {before after : Point W ι Result} (h : runSchedule guard schedule before = some after) :
    GuardedSteps guard before after := by
  induction schedule generalizing before with
  | nil =>
      simp only [runSchedule, Option.some.injEq] at h
      exact h ▸ .refl
  | cons choice rest ih =>
      obtain ⟨env, i⟩ := choice
      obtain ⟨history, pool⟩ := before
      simp only [runSchedule] at h
      split at h
      · cases h
      · rename_i event pool' hStep
        split at h
        · rename_i hGuard
          exact .head ⟨env, i, event, hStep, hGuard, rfl⟩ (ih h)
        · cases h

theorem Pool.runSchedule_step {guard : Guard W ι} [∀ history store i call,
    Decidable (guard history store i call)] {env : W.Env} {i : ι}
    {before after : Point W ι Result}
    (h : runSchedule guard [(env, i)] before = some after) : GuardedStep guard before after := by
  obtain ⟨history, pool⟩ := before
  simp only [runSchedule] at h
  split at h
  · cases h
  · rename_i event pool' hStep
    split at h
    · rename_i hGuard
      exact Option.some.inj h ▸ ⟨env, i, event, hStep, hGuard, rfl⟩
    · cases h

/-- A run whose last point passes a test, found by following a schedule. -/
theorem Pool.exists_run (guard : Guard W ι) [∀ history store i call,
    Decidable (guard history store i call)] (start : Pool W ι Result)
    (test : Point W ι Result → Bool) (schedule : List (W.Env × ι))
    (h : (runSchedule guard schedule ([], start)).any test = true) :
    ∃ point, GuardedRun guard start point ∧ test point = true := by
  rw [Option.any_eq_true] at h
  obtain ⟨point, hRun, hTest⟩ := h
  exact ⟨point, runSchedule_steps hRun, hTest⟩

end Async
