import Navin.Semantics.TwoRuns

/-! The steps of a sequential run, in order: which decision each call met, in
which store, and so also what it answered and left behind. -/
namespace Async

variable {Call : Type} {Answer : Call → Type} {Error α β γ : Type}

/-- One call of a sequential run, about to be performed. -/
structure Step (W : World Call Answer Error) where
  decision : W.Env
  before : W.Store
  request : Call

namespace Step

variable {W : World Call Answer Error} (step : Step W)

def after : W.Store :=
  (W.perform step.decision step.before step.request).1

def response : Except Error (Answer step.request) :=
  (W.perform step.decision step.before step.request).2

end Step

namespace Program

variable {W : World Call Answer Error}

/-- The calls of a sequential run. -/
def steps : Program Call Answer Error α → (Nat → W.Env) → W.Store → List (Step W)
  | .done _, _, _ => []
  | .fail _, _, _ => []
  | .call request next, env, store =>
      ⟨env 0, store, request⟩ ::
        (next (W.perform (env 0) store request).2).steps (fun n => env (n + 1))
          (W.perform (env 0) store request).1

variable {env env' : Nat → W.Env} {store store' : W.Store}

@[simp] theorem steps_pure (a : α) :
    (pure a : Program Call Answer Error α).steps env store = [] := rfl

@[simp] theorem steps_throw (e : Error) :
    (throw e : Program Call Answer Error α).steps env store = [] := rfl

@[simp] theorem steps_await (request : Call) :
    (await request : Program Call Answer Error (Answer request)).steps env store =
      [⟨env 0, store, request⟩] := by
  simp only [await, steps]
  cases (W.perform (env 0) store request).2 <;> rfl

/-- The steps of a sequence whose first part succeeds. -/
theorem steps_bind_ok {p : Program Call Answer Error α} {f : α → Program Call Answer Error β}
    {a : α} (h : p.run W env store = (store', .ok a, env')) :
    (p >>= f).steps env store = p.steps env store ++ (f a).steps env' store' := by
  rw [bind_def]
  induction p generalizing env store with
  | done b =>
      cases h
      rfl
  | fail e => cases h
  | call request next ih =>
      rw [bind_call, steps, steps, List.cons_append]
      exact congrArg _ (ih _ h)

/-- The steps of a sequence whose first part fails. -/
theorem steps_bind_error {p : Program Call Answer Error α} {f : α → Program Call Answer Error β}
    {e : Error} (h : p.run W env store = (store', .error e, env')) :
    (p >>= f).steps env store = p.steps env store := by
  rw [bind_def]
  induction p generalizing env store with
  | done b => cases h
  | fail e => rfl
  | call request next ih =>
      rw [bind_call, steps, steps]
      exact congrArg _ (ih _ h)

/-- The first call of a sequence, and what follows if it is answered. -/
theorem steps_await_bind (request : Call) (f : Answer request → Program Call Answer Error β) :
    (await request >>= f).steps env store = ⟨env 0, store, request⟩ ::
      match (W.perform (env 0) store request).2 with
      | .ok answer => (f answer).steps (fun n => env (n + 1)) (W.perform (env 0) store request).1
      | .error _ => [] := by
  change ⟨env 0, store, request⟩ ::
    Program.steps (Program.bind (settle (W.perform (env 0) store request).2) f) _ _ = _
  cases (W.perform (env 0) store request).2 <;> rfl

theorem steps_map (f : α → β) (p : Program Call Answer Error α) :
    (f <$> p).steps env store = p.steps env store := by
  rw [map_eq_pure_bind]
  rcases h : p.run W env store with ⟨store', outcome, env'⟩
  cases outcome with
  | ok a => rw [steps_bind_ok h, steps_pure, List.append_nil]
  | error e => rw [steps_bind_error h]

/-- A handler takes no steps when nothing fails. -/
theorem steps_tryCatch_ok {p : Program Call Answer Error α}
    {handler : Error → Program Call Answer Error α} {a : α}
    (h : p.run W env store = (store', .ok a, env')) :
    (tryCatch p handler).steps env store = p.steps env store := by
  change (p.tryCatch handler).steps env store = _
  induction p generalizing env store with
  | done b => rfl
  | fail e => cases h
  | call request next ih =>
      rw [Program.tryCatch, steps, steps]
      exact congrArg _ (ih _ h)

theorem steps_tryCatch_error {p : Program Call Answer Error α}
    {handler : Error → Program Call Answer Error α} {e : Error}
    (h : p.run W env store = (store', .error e, env')) :
    (tryCatch p handler).steps env store = p.steps env store ++ (handler e).steps env' store' := by
  change (p.tryCatch handler).steps env store = _
  induction p generalizing env store with
  | done b => cases h
  | fail e =>
      cases h
      rfl
  | call request next ih =>
      rw [Program.tryCatch, steps, steps, List.cons_append]
      exact congrArg _ (ih _ h)

/-- A handler that answers by itself takes no steps. -/
theorem steps_tryCatch_pure (p : Program Call Answer Error α) (a : Error → α) :
    (tryCatch p fun e => pure (a e)).steps env store = p.steps env store := by
  rcases h : p.run W env store with ⟨store', outcome, env'⟩
  cases outcome with
  | ok b => exact steps_tryCatch_ok h
  | error e => rw [steps_tryCatch_error h, steps_pure, List.append_nil]

/-- A handler that only replaces the error takes no steps. -/
theorem steps_tryCatch_throw (p : Program Call Answer Error α) (g : Error → Error) :
    (tryCatch p fun e => throw (g e)).steps env store = p.steps env store := by
  rcases h : p.run W env store with ⟨store', outcome, env'⟩
  cases outcome with
  | ok b => exact steps_tryCatch_ok h
  | error e => rw [steps_tryCatch_error h, steps_throw, List.append_nil]

/-- Only the calls a program can make occur among its steps. -/
theorem Uses.steps {p : Program Call Answer Error α} {C : Call → Prop} (hp : p.Uses C) :
    ∀ step ∈ p.steps env store, C step.request := by
  induction p generalizing env store with
  | done a => exact fun _ h => absurd h List.not_mem_nil
  | fail e => exact fun _ h => absurd h List.not_mem_nil
  | call request next ih =>
      intro step hStep
      rcases List.mem_cons.mp hStep with rfl | hLater
      · exact hp.1
      · exact ih _ (hp.2 _) step hLater

/-- Every step meets a decision of the environment. -/
theorem exists_decision_of_mem_steps {p : Program Call Answer Error α} {step : Step W}
    (h : step ∈ p.steps env store) : ∃ n, step.decision = env n := by
  induction p generalizing env store with
  | done a => cases h
  | fail e => cases h
  | call request next ih =>
      rcases List.mem_cons.mp h with rfl | hLater
      · exact ⟨0, rfl⟩
      · obtain ⟨n, hDecision⟩ := ih _ hLater
        exact ⟨n + 1, hDecision⟩

/-- A run uses up decisions from the front. -/
theorem exists_run_env (p : Program Call Answer Error α) (env : Nat → W.Env) (store : W.Store) :
    ∃ used, (p.run W env store).2.2 = fun n => env (n + used) := by
  induction p generalizing env store with
  | done a => exact ⟨0, rfl⟩
  | fail e => exact ⟨0, rfl⟩
  | call request next ih =>
      obtain ⟨used, hUsed⟩ := ih (W.perform (env 0) store request).2 (fun n => env (n + 1))
        (W.perform (env 0) store request).1
      exact ⟨used + 1, hUsed⟩

variable (W) in
/-- A program that fails under no decision of the environment. -/
def Resolves (p : Program Call Answer Error α) : Prop :=
  ∀ env store, ∃ a, (p.run W env store).2.1 = .ok a

namespace Resolves

theorem pure (a : α) : (Pure.pure a : Program Call Answer Error α).Resolves W :=
  fun _ _ => ⟨a, rfl⟩

theorem await {request : Call}
    (h : ∀ decision store, ∃ answer, (W.perform decision store request).2 = .ok answer) :
    (Program.await request : Program Call Answer Error _).Resolves W := by
  intro env store
  rw [run_await]
  exact h (env 0) store

theorem bind {p : Program Call Answer Error α} {f : α → Program Call Answer Error β}
    (hp : p.Resolves W) (hf : ∀ a, (f a).Resolves W) : (p >>= f).Resolves W := by
  intro env store
  obtain ⟨a, hOutcome⟩ := hp env store
  rcases hRun : p.run W env store with ⟨store', outcome, env'⟩
  rw [hRun] at hOutcome
  subst hOutcome
  rw [run_bind_ok hRun]
  exact hf a env' store'

theorem tryCatch (p : Program Call Answer Error α) {handler : Error → Program Call Answer Error α}
    (h : ∀ e, (handler e).Resolves W) : (MonadExcept.tryCatch p handler).Resolves W := by
  intro env store
  rw [run_tryCatch]
  rcases p.run W env store with ⟨store', outcome, env'⟩
  cases outcome with
  | ok a => exact ⟨a, rfl⟩
  | error e => exact h e env' store'

end Resolves

/-- Run a program for its effects, whatever becomes of it. -/
def settled (p : Program Call Answer Error α) : Program Call Answer Error Unit :=
  tryCatch (do let _ ← p) fun _ => pure ()

theorem run_settled (p : Program Call Answer Error α) :
    p.settled.run W env store = ((p.run W env store).1, .ok (), (p.run W env store).2.2) := by
  rw [settled, run_tryCatch, run_bind]
  rcases p.run W env store with ⟨store', outcome, env'⟩
  cases outcome <;> rfl

theorem steps_settled (p : Program Call Answer Error α) :
    p.settled.steps env store = p.steps env store := by
  have hUnit : (do let _ ← p : Program Call Answer Error Unit) = (fun _ => ()) <$> p :=
    (map_eq_pure_bind _ p).symm
  rw [settled, steps_tryCatch_pure, hUnit, steps_map]

/-- Run programs one after the other, whatever becomes of each. -/
def inTurn : List (Program Call Answer Error α) → Program Call Answer Error Unit
  | [] => pure ()
  | p :: rest => do
      p.settled
      inTurn rest

/-- The next program starts from where the first one ended. -/
theorem run_inTurn_cons (p : Program Call Answer Error α)
    (rest : List (Program Call Answer Error α)) :
    (inTurn (p :: rest)).run W env store =
      (inTurn rest).run W (p.run W env store).2.2 (p.run W env store).1 :=
  run_bind_ok (run_settled p)

theorem steps_inTurn_cons (p : Program Call Answer Error α)
    (rest : List (Program Call Answer Error α)) :
    (inTurn (p :: rest)).steps env store = p.steps env store ++
      (inTurn rest).steps (p.run W env store).2.2 (p.run W env store).1 := by
  rw [inTurn, steps_bind_ok (run_settled p), steps_settled]

/-- The steps of a sequential run, request by request. -/
def turns (program : γ → Program Call Answer Error α) :
    List γ → (Nat → W.Env) → W.Store → List (γ × List (Step W))
  | [], _, _ => []
  | request :: rest, env, store =>
      (request, (program request).steps env store) ::
        turns program rest ((program request).run W env store).2.2
          ((program request).run W env store).1

/-- What the steps of each request have, from any store, every turn has. -/
theorem forall_turns {program : γ → Program Call Answer Error α} {requests : List γ}
    {P : γ → List (Step W) → Prop}
    (h : ∀ request env store, P request ((program request).steps env store)) :
    ∀ turn ∈ turns program requests env store, P turn.1 turn.2 := by
  induction requests generalizing env store with
  | nil => exact fun _ hTurn => absurd hTurn List.not_mem_nil
  | cons request rest ih =>
      intro turn hTurn
      rcases List.mem_cons.mp hTurn with rfl | hLater
      · exact h request env store
      · exact ih turn hLater

/-- What each program keeps, from any store, the whole sequence keeps. -/
theorem inTurn_invariant {programs : List (Program Call Answer Error α)} (Inv : W.Store → Prop)
    (hInit : Inv store)
    (hStep : ∀ p ∈ programs, ∀ env store, Inv store → Inv (p.run W env store).1) :
    Inv ((inTurn programs).run W env store).1 := by
  induction programs generalizing env store with
  | nil => exact hInit
  | cons p rest ih =>
      rw [run_inTurn_cons]
      exact ih (hStep p List.mem_cons_self env store hInit) fun q hq =>
        hStep q (List.mem_cons_of_mem p hq)

end Program

end Async
