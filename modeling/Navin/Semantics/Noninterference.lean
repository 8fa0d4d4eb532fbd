import Navin.Semantics.Interleaving

/-! Threads act for domains over one store. Where calls made for one domain go unnoticed by
the others, and what a domain is answered does not depend on what the others keep, all that
a domain sees of a run it also sees in a run of its own threads alone. -/
namespace Async

variable {Call : Type} {Answer : Call → Type} {Error ι Domain Result : Type}
  {W : World Call Answer Error}

/-- The calls made for each domain keep domains apart. `agrees d s t` says that `t` looks to
`d` as `s` does, and a call made for `d` can then be answered by `t` as it was by `s`. -/
structure Separates (W : World Call Answer Error) (calls : Domain → Call → Prop)
    (agrees : Domain → W.Store → W.Store → Prop) : Prop where
  unnoticed : ∀ {d other request s t}, other ≠ d → calls other request → agrees d s t → ∀ env,
    agrees d (W.perform env s request).1 t
  answered : ∀ {d request s t}, calls d request → agrees d s t → ∀ env,
    ∃ env', (W.perform env' t request).2 = (W.perform env s request).2 ∧
      agrees d (W.perform env s request).1 (W.perform env' t request).1

/-- The guard of runs in which only one domain takes steps. -/
def actingFor (domain : ι → Domain) (d : Domain) : Guard W ι :=
  fun _ _ i _ => domain i = d

variable [DecidableEq ι]

/-- From any point on, each thread keeps to its own footprint. -/
theorem GuardedSteps.uses {guard : Guard W ι} {before after : Point W ι Result}
    (steps : GuardedSteps guard before after) {C : ι → Call → Prop}
    (hThreads : ∀ i, (before.2.thread i).Uses (C i)) (i : ι) :
    (after.2.thread i).Uses (C i) := by
  induction steps with
  | refl => exact hThreads i
  | tail prior last ih =>
      obtain ⟨env, j, event, hNext, -, -⟩ := last
      obtain ⟨request, next, hThread, rfl, -, hUpdated⟩ := Pool.step_cases hNext
      rw [hUpdated]
      by_cases hij : i = j
      · subst hij
        rw [hThread] at ih
        rw [Function.update_self]
        exact ih.2 _
      · rw [Function.update_of_ne hij]
        exact ih

variable [DecidableEq Domain] {calls : Domain → Call → Prop}
  {agrees : Domain → W.Store → W.Store → Prop} {guard : Guard W ι} {pool : Pool W ι Result}
  {point : Point W ι Result} {domain : ι → Domain} {d : Domain} {store : W.Store}

/-- What a run shows a domain, and where it leaves the domain's threads, a run of these
threads alone does too, from any store that looks to the domain as the first one does. -/
theorem Separates.alone (h : Separates W calls agrees)
    (hPool : ∀ i, (pool.thread i).Uses (calls (domain i))) (run : GuardedRun guard pool point)
    (hStore : agrees d pool.store store) :
    ∃ alone, GuardedRun (actingFor domain d) ⟨store, pool.thread⟩ alone ∧
      alone.1 = point.1.filter (fun event => domain event.thread = d) ∧
      agrees d point.2.store alone.2.store ∧
      ∀ i, domain i = d → alone.2.thread i = point.2.thread i := by
  induction run with
  | refl => exact ⟨([], ⟨store, pool.thread⟩), .refl, rfl, hStore, fun _ _ => rfl⟩
  | @tail before after prior last ih =>
      obtain ⟨alone, run', hHistory, hAgrees, hThreads⟩ := ih
      obtain ⟨env, j, event, hNext, -, hEvents⟩ := last
      obtain ⟨request, next, hThread, rfl, hAfter, hUpdated⟩ := Pool.step_cases hNext
      have hCalls := GuardedSteps.uses prior hPool j
      rw [hThread] at hCalls
      rw [hEvents, hAfter, hUpdated]
      by_cases hj : domain j = d
      · -- A step of the domain is taken along, under the decision that answers it alike.
        subst hj
        obtain ⟨env', hAnswer, hAlike⟩ := h.answered hCalls.1 hAgrees env
        refine ⟨(⟨j, request, (W.perform env' alone.2.store request).2⟩ :: alone.1,
          ⟨(W.perform env' alone.2.store request).1, Function.update alone.2.thread j
            (next (W.perform env' alone.2.store request).2)⟩),
          run'.tail ⟨env', j, _, ?_, rfl, rfl⟩, ?_, hAlike, fun i hi => ?_⟩
        · rw [Pool.step, hThreads j rfl, hThread]
        · rw [hAnswer, hHistory]
          simp
        · dsimp only
          rw [hAnswer]
          by_cases hij : i = j
          · subst hij
            rw [Function.update_self, Function.update_self]
          · rw [Function.update_of_ne hij, Function.update_of_ne hij]
            exact hThreads i hi
      · -- A step of another domain is left out.
        refine ⟨alone, run', ?_, h.unnoticed hj hCalls.1 hAgrees env, fun i hi => ?_⟩
        · rw [hHistory, List.filter_cons_of_neg (by simpa using hj)]
        · have hij : i ≠ j := fun hEq => hj (hEq ▸ hi)
          rw [Function.update_of_ne hij]
          exact hThreads i hi

end Async
