import Navin.Semantics.Protocol

/-! Runs in which threads may stop for good, as those of a process do when it dies. What a
thread must not be in the midst of when it stops can be made a condition. -/
namespace Async

variable {Call : Type} {Answer : Call → Type} {Error State ι Result : Type}
  {W : World Call Answer Error} [DecidableEq ι]

/-- A run, and which threads have stopped in it. Several may stop at once. -/
inductive StoppingRun (guard : Guard W ι) (mayStop : Point W ι Result → ι → Prop)
    (start : Pool W ι Result) : Point W ι Result → (ι → Prop) → Prop where
  | start : StoppingRun guard mayStop start ([], start) fun _ => False
  | step {before after : Point W ι Result} {stopped : ι → Prop}
      (prior : StoppingRun guard mayStop start before stopped)
      (last : GuardedStep guard before after)
      (hRunning : ∀ event ∈ after.1.head?, ¬stopped event.thread) :
      StoppingRun guard mayStop start after stopped
  | stop {point : Point W ι Result} {stopped : ι → Prop}
      (prior : StoppingRun guard mayStop start point stopped) (more : ι → Prop)
      (h : ∀ i, more i → mayStop point i) :
      StoppingRun guard mayStop start point fun i => stopped i ∨ more i

namespace StoppingRun

variable {guard : Guard W ι} {mayStop : Point W ι Result → ι → Prop} {start : Pool W ι Result}
  {point : Point W ι Result} {stopped : ι → Prop}

/-- Whoever has stopped, what was done is a run. -/
theorem run (h : StoppingRun guard mayStop start point stopped) :
    GuardedRun guard start point := by
  induction h with
  | start => exact .refl
  | step _ last _ ih => exact ih.tail last
  | stop _ _ _ ih => exact ih

/-- A run in which no thread stops. -/
theorem of_run (run : GuardedRun guard start point) :
    StoppingRun guard mayStop start point fun _ => False := by
  induction run with
  | refl => exact .start
  | tail _ last ih => exact ih.step last fun _ _ => id

/-- The invariant rule: what the guarded calls of running threads keep, and every stop that
may be, holds along the run. -/
theorem invariant (P : Protocol Call Answer Error State) (initial : ι → State)
    {Q : ι → State → Except Error Result → Prop}
    (h : StoppingRun guard mayStop start point stopped)
    (hStart : ∀ i, (start.thread i).Follows P (Q i) (initial i))
    (Inv : List (Event Call Answer Error ι) → W.Store → (ι → Prop) → Prop)
    (hInit : Inv [] start.store fun _ => False)
    (hStep : ∀ history store stopped env i request, Inv history store stopped → ¬stopped i →
      P.allows (P.after initial history i) request → guard history store i request →
      Inv (⟨i, request, (W.perform env store request).2⟩ :: history)
        (W.perform env store request).1 stopped)
    (hStop : ∀ point stopped (more : ι → Prop), GuardedRun guard start point →
      Inv point.1 point.2.store stopped → (∀ i, more i → mayStop point i) →
      Inv point.1 point.2.store fun i => stopped i ∨ more i) :
    Inv point.1 point.2.store stopped := by
  induction h with
  | start => exact hInit
  | step prior last hRunning ih =>
      obtain ⟨env, i, request, next, hThread, hGuard, hHistory, hStore⟩ := last.cases
      rw [hHistory] at hRunning
      rw [hHistory, hStore]
      exact hStep _ _ _ env i request ih (hRunning _ rfl)
        (GuardedRun.allows P initial prior.run hStart hThread) hGuard
  | stop prior more h ih => exact hStop _ _ more prior.run ih h

end StoppingRun

end Async
