import Navin.Semantics.Interleaving

/-! Runs in which the environment decides within limits. What it may decide depends on
the store and on the call, so that a condition on the steps of a run can speak of the
faults they meet. Every such run is a run. -/
namespace Async

variable {Call : Type} {Answer : Call → Type} {Error ι Result : Type}

/-- The world whose decisions are those that are allowed for their calls. -/
abbrev World.restrict (W : World Call Answer Error)
    (allowed : W.Store → Call → W.Env → Prop) : World Call Answer Error where
  Store := W.Store
  Env := (store : W.Store) → (request : Call) → { env : W.Env // allowed store request env }
  perform choose store request := W.perform (choose store request).1 store request

variable {W : World Call Answer Error} (allowed : W.Store → Call → W.Env → Prop)

/-- The same pool, under the limits. -/
def Pool.restrict (pool : Pool W ι Result) : Pool (W.restrict allowed) ι Result where
  store := pool.store
  thread := pool.thread

/-- The same guard, under the limits. -/
abbrev Guard.restrict (guard : Guard W ι) : Guard (W.restrict allowed) ι :=
  guard

variable {allowed}

/-- Forgetting the limits. -/
def Pool.unrestrict (pool : Pool (W.restrict allowed) ι Result) : Pool W ι Result where
  store := pool.store
  thread := pool.thread

variable [DecidableEq ι] {guard : Guard W ι} {before after : Point (W.restrict allowed) ι Result}

/-- A step under the limits is a step. -/
theorem GuardedStep.unrestrict (h : GuardedStep (guard.restrict allowed) before after) :
    GuardedStep guard (before.1, before.2.unrestrict) (after.1, after.2.unrestrict) := by
  obtain ⟨choose, i, event, hStep, hGuard, hHistory⟩ := h
  obtain ⟨request, next, hThread, rfl, hStore, hThreads⟩ := Pool.step_cases hStep
  refine ⟨(choose before.2.store request).1, i, _, ?_, hGuard, hHistory⟩
  have hThread' : before.2.unrestrict.thread i = .call request next := hThread
  have hAfter : after.2.unrestrict =
      ⟨(W.perform (choose before.2.store request).1 before.2.store request).1,
        Function.update before.2.thread i
          (next (W.perform (choose before.2.store request).1 before.2.store request).2)⟩ := by
    rw [Pool.unrestrict, hStore, hThreads]
  rw [Pool.step, hThread', hAfter]
  rfl

/-- So a run under the limits is a run. -/
theorem GuardedRun.unrestrict {pool : Pool W ι Result} {point : Point (W.restrict allowed) ι Result}
    (run : GuardedRun (guard.restrict allowed) (pool.restrict allowed) point) :
    GuardedRun guard pool (point.1, point.2.unrestrict) := by
  induction run with
  | refl => exact .refl
  | tail prior last ih => exact ih.tail last.unrestrict

end Async
