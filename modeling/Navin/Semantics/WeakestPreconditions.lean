import Navin.Semantics.Extension
import Navin.Semantics.Trace

/-! Weakest preconditions. The environment decides every call as it likes, within a
condition on the steps; the program then ends as described. A sequence is reasoned
about one call at a time, with the store of each call at hand. -/
namespace Async

variable {Call : Type} {Answer : Call → Type} {Error α β : Type} {W : World Call Answer Error}

namespace Program

/-- What has to hold of the store for every run within the condition to end as `Q`
says. -/
def wp (R : Step W → Prop) : Program Call Answer Error α →
    (Except Error α → W.Store → Prop) → W.Store → Prop
  | .done a, Q, store => Q (.ok a) store
  | .fail e, Q, store => Q (.error e) store
  | .call request next, Q, store => ∀ decision, R ⟨decision, store, request⟩ →
      (next (W.perform decision store request).2).wp R Q (W.perform decision store request).1

/-- What is left to show when the first part of a sequence has settled. -/
def afterwards (R : Step W → Prop) (f : α → Program Call Answer Error β)
    (Q : Except Error β → W.Store → Prop) : Except Error α → W.Store → Prop
  | .ok a, store => (f a).wp R Q store
  | .error e, store => Q (.error e) store

/-- What is left to show when a protected program has settled. -/
def rescued (R : Step W → Prop) (handler : Error → Program Call Answer Error α)
    (Q : Except Error α → W.Store → Prop) : Except Error α → W.Store → Prop
  | .ok a, store => Q (.ok a) store
  | .error e, store => (handler e).wp R Q store

variable {R : Step W → Prop} {Q Q' : Except Error α → W.Store → Prop} {store : W.Store}
  {p : Program Call Answer Error α}

/-- The run of a program within the condition ends as was shown. -/
theorem wp.run (h : p.wp R Q store) (env : Nat → W.Env)
    (hSteps : ∀ step ∈ p.steps env store, R step) :
    Q (p.run W env store).2.1 (p.run W env store).1 := by
  induction p generalizing env store with
  | done a => exact h
  | fail e => exact h
  | call request next ih =>
      have hFirst : R ⟨env 0, store, request⟩ := hSteps _ List.mem_cons_self
      exact ih _ (h (env 0) hFirst) _ fun step hStep =>
        hSteps step (List.mem_cons_of_mem _ hStep)

/-- What all runs end with needs no condition. -/
theorem wp_of_run [Nonempty W.Env]
    (h : ∀ env, Q (p.run W env store).2.1 (p.run W env store).1) : p.wp R Q store := by
  induction p generalizing store with
  | done a => exact h fun _ => Classical.choice inferInstance
  | fail e => exact h fun _ => Classical.choice inferInstance
  | call request next ih =>
      intro decision _
      apply ih
      intro env
      exact h fun n => match n with
        | 0 => decision
        | n + 1 => env n

theorem wp.mono (h : p.wp R Q store) (hPost : ∀ outcome after, Q outcome after → Q' outcome after) :
    p.wp R Q' store := by
  induction p generalizing store with
  | done a => exact hPost _ _ h
  | fail e => exact hPost _ _ h
  | call request next ih => exact fun decision hStep => ih _ (h decision hStep)

theorem wp.and (h : p.wp R Q store) (h' : p.wp R Q' store) :
    p.wp R (fun outcome after => Q outcome after ∧ Q' outcome after) store := by
  induction p generalizing store with
  | done a => exact ⟨h, h'⟩
  | fail e => exact ⟨h, h'⟩
  | call request next ih =>
      exact fun decision hStep => ih _ (h decision hStep) (h' decision hStep)

theorem wp_await (request : Call) {Q : Except Error (Answer request) → W.Store → Prop} :
    (await request).wp R Q store ↔ ∀ decision, R ⟨decision, store, request⟩ →
      Q (W.perform decision store request).2 (W.perform decision store request).1 := by
  refine forall_congr' fun decision => imp_congr_right fun _ => ?_
  cases (W.perform decision store request).2 <;> rfl

theorem wp_bind (f : α → Program Call Answer Error β) {Q : Except Error β → W.Store → Prop} :
    (p >>= f).wp R Q store ↔ p.wp R (afterwards R f Q) store := by
  rw [bind_def]
  induction p generalizing store with
  | done a => rfl
  | fail e => rfl
  | call request next ih => exact forall_congr' fun _ => imp_congr_right fun _ => ih _

theorem wp_await_bind (request : Call) (f : Answer request → Program Call Answer Error β)
    {Q : Except Error β → W.Store → Prop} :
    (await request >>= f).wp R Q store ↔ ∀ decision, R ⟨decision, store, request⟩ →
      afterwards R f Q (W.perform decision store request).2
        (W.perform decision store request).1 := by
  rw [wp_bind, wp_await]

theorem wp_tryCatch (handler : Error → Program Call Answer Error α) :
    (tryCatch p handler).wp R Q store ↔ p.wp R (rescued R handler Q) store := by
  change (p.tryCatch handler).wp R Q store ↔ _
  induction p generalizing store with
  | done a => rfl
  | fail e => rfl
  | call request next ih => exact forall_congr' fun _ => imp_congr_right fun _ => ih _

theorem wp_map (f : α → β) {Q : Except Error β → W.Store → Prop} :
    (f <$> p).wp R Q store ↔ p.wp R (fun outcome => Q (outcome.map f)) store := by
  rw [map_eq_pure_bind, wp_bind]
  constructor
  · intro h
    exact h.mono fun outcome after hAfter => by cases outcome <;> exact hAfter
  · intro h
    exact h.mono fun outcome after hAfter => by cases outcome <;> exact hAfter

/-- What every step within the condition keeps, any program keeps. -/
theorem wp_invariant (Inv : W.Store → Prop)
    (hKept : ∀ step : Step W, R step → Inv step.before → Inv step.after) (hInit : Inv store) :
    p.wp R (fun _ after => Inv after) store := by
  induction p generalizing store with
  | done a => exact hInit
  | fail e => exact hInit
  | call request next ih =>
      exact fun decision hStep => ih _ (hKept ⟨decision, store, request⟩ hStep hInit)

/-- What the calls of a program keep, the program keeps. -/
theorem Uses.wp {C : Call → Prop} (h : p.Uses C) (Inv : W.Store → Prop)
    (hKept : ∀ step : Step W, C step.request → R step → Inv step.before → Inv step.after)
    (hInit : Inv store) : p.wp R (fun _ after => Inv after) store := by
  induction p generalizing store with
  | done a => exact hInit
  | fail e => exact hInit
  | call request next ih =>
      exact fun decision hStep => ih _ (h.2 _) (hKept ⟨decision, store, request⟩ h.1 hStep hInit)

section Extension

variable {Other : Type} {OtherAnswer : Other → Type} {State OtherEnv : Type}
  {perform : OtherEnv → W.Store × State → (request : Other) →
    (W.Store × State) × Except Error (OtherAnswer request)}

/-- A program of the smaller world, in the larger one. -/
theorem wp.lift {S : Step (W.extend State OtherEnv perform) → Prop} {state : State}
    {Q : Except Error α → W.Store × State → Prop}
    (h : p.wp R (fun outcome after => Q outcome (after, state)) store)
    (hSteps : ∀ (step : Step W) (decision : OtherEnv),
      S ⟨(step.decision, decision), (step.before, state), .inl step.request⟩ → R step) :
    (p.lift : Extended Answer OtherAnswer Error α).wp S Q (store, state) := by
  induction p generalizing store with
  | done a => exact h
  | fail e => exact h
  | call request next ih =>
      intro decision hStep
      exact ih _ (h decision.1 (hSteps ⟨decision.1, store, request⟩ decision.2 hStep))

end Extension

end Program

end Async
