import Navin.Semantics.Program

/-! Two programs run side by side, each over its own store and under the same
decisions of the environment. Coupled programs keep a relation of the stores
and end with related outcomes; noninterference is the case of one program. -/
namespace Async

variable {Call : Type} {Answer : Call → Type} {Error α β γ δ : Type}

/-- Both succeed with related values, or both fail with the same error. -/
def Matching (V : α → β → Prop) : Except Error α → Except Error β → Prop
  | .ok a, .ok b => V a b
  | .error e, .error e' => e = e'
  | _, _ => False

@[simp] theorem matching_ok {V : α → β → Prop} {a : α} {b : β} :
    Matching V (.ok a : Except Error α) (.ok b) ↔ V a b := Iff.rfl

@[simp] theorem matching_error {V : α → β → Prop} {e e' : Error} :
    Matching V (.error e) (.error e') ↔ e = e' := Iff.rfl

theorem matching_eq {outcome outcome' : Except Error α} :
    Matching (· = ·) outcome outcome' ↔ outcome = outcome' := by
  cases outcome <;> cases outcome' <;> simp [Matching]

namespace Program

variable {W : World Call Answer Error}

/-- A protected program runs as far as its protected part does, and from there
as the handler if that part failed. -/
theorem run_tryCatch (p : Program Call Answer Error α)
    (handler : Error → Program Call Answer Error α) (env : Nat → W.Env) (store : W.Store) :
    (tryCatch p handler).run W env store =
      match p.run W env store with
      | (store', .ok a, env') => (store', .ok a, env')
      | (store', .error e, env') => (handler e).run W env' store' := by
  change (p.tryCatch handler).run W env store = _
  induction p generalizing env store with
  | done a => rfl
  | fail e => rfl
  | call request next ih => simp only [Program.tryCatch, run, ih]

/-- A protected call. -/
theorem run_tryCatch_await (request : Call)
    (handler : Error → Program Call Answer Error (Answer request)) (env : Nat → W.Env)
    (store : W.Store) :
    (tryCatch (await request) handler).run W env store =
      match W.perform (env 0) store request with
      | (store', .ok a) => (store', .ok a, fun n => env (n + 1))
      | (store', .error e) => (handler e).run W (fun n => env (n + 1)) store' := by
  rw [run_tryCatch, run_await]
  rcases W.perform (env 0) store request with ⟨store', response⟩
  cases response <;> rfl

/-- Both operations of `Promise.all` run, one after the other, and the first failure counts. -/
theorem run_promiseAll_outcomes {first : Program Call Answer Error α}
    {second : Program Call Answer Error β} {env middle after : Nat → W.Env}
    {store between last : W.Store} {a : Except Error α} {b : Except Error β}
    (hFirst : first.run W env store = (between, a, middle))
    (hSecond : second.run W middle between = (last, b, after)) :
    (promiseAll first second).run W env store =
      (last, a.bind fun a => b.map fun b => (a, b), after) := by
  have hProtected {γ : Type} {p : Program Call Answer Error γ} {c : Except Error γ}
      {env env' : Nat → W.Env} {store store' : W.Store}
      (h : p.run W env store = (store', c, env')) :
      (tryCatch (Except.ok <$> p) fun error => return .error error :
        Program Call Answer Error (Except Error γ)).run W env store =
          (store', .ok c, env') := by
    rw [run_tryCatch, run_map, h]
    cases c <;> rfl
  rw [promiseAll, run_bind_ok (hProtected hFirst), run_bind_ok (hProtected hSecond)]
  cases a <;> cases b <;> rfl

/-- Both operations of `Promise.all` succeed, one after the other. -/
theorem run_promiseAll {first : Program Call Answer Error α} {second : Program Call Answer Error β}
    {env middle after : Nat → W.Env} {store between last : W.Store} {a : α} {b : β}
    (hFirst : first.run W env store = (between, .ok a, middle))
    (hSecond : second.run W middle between = (last, .ok b, after)) :
    (promiseAll first second).run W env store = (last, .ok (a, b), after) :=
  run_promiseAll_outcomes hFirst hSecond

/-- From related stores, under the same decisions, both programs consume the
same number of decisions, leave related stores and end with matching outcomes. -/
def Coupled (R : W.Store → W.Store → Prop) (V : α → β → Prop) (p : Program Call Answer Error α)
    (q : Program Call Answer Error β) : Prop :=
  ∀ env s t, R s t → R (p.run W env s).1 (q.run W env t).1 ∧
    Matching V (p.run W env s).2.1 (q.run W env t).2.1 ∧
      (p.run W env s).2.2 = (q.run W env t).2.2

namespace Coupled

variable {R : W.Store → W.Store → Prop} {V : α → β → Prop} {U : γ → δ → Prop}

theorem pure {a : α} {b : β} (h : V a b) :
    Coupled R V (Pure.pure a : Program Call Answer Error α) (Pure.pure b) :=
  fun _ _ _ hR => ⟨hR, h, rfl⟩

theorem throw (e : Error) :
    Coupled R V (MonadExcept.throw e : Program Call Answer Error α) (MonadExcept.throw e) :=
  fun _ _ _ hR => ⟨hR, rfl, rfl⟩

/-- One call in each run. -/
theorem awaits {request request' : Call} {V : Answer request → Answer request' → Prop}
    (h : ∀ env s t, R s t → R (W.perform env s request).1 (W.perform env t request').1 ∧
      Matching V (W.perform env s request).2 (W.perform env t request').2) :
    Coupled R V (Program.await request : Program Call Answer Error _) (Program.await request') := by
  intro env s t hR
  simp only [run_await]
  exact ⟨(h _ s t hR).1, (h _ s t hR).2, trivial⟩

/-- One call, made in both runs. -/
theorem await {request : Call} {V : Answer request → Answer request → Prop}
    (h : ∀ env s t, R s t → R (W.perform env s request).1 (W.perform env t request).1 ∧
      Matching V (W.perform env s request).2 (W.perform env t request).2) :
    Coupled R V (Program.await request : Program Call Answer Error _) (Program.await request) :=
  awaits h

theorem bind {p : Program Call Answer Error α} {q : Program Call Answer Error β}
    {f : α → Program Call Answer Error γ} {g : β → Program Call Answer Error δ}
    (hp : Coupled R V p q) (hf : ∀ a b, V a b → Coupled R U (f a) (g b)) :
    Coupled R U (p >>= f) (q >>= g) := by
  intro env s t hR
  obtain ⟨hStores, hOutcomes, hEnv⟩ := hp env s t hR
  rw [run_bind, run_bind]
  rcases hRunP : p.run W env s with ⟨s', outcome, envP⟩
  rcases hRunQ : q.run W env t with ⟨t', outcome', envQ⟩
  rw [hRunP, hRunQ] at hStores hOutcomes hEnv
  cases hEnv
  cases outcome with
  | error e =>
      cases outcome' with
      | error e' => exact ⟨hStores, hOutcomes, rfl⟩
      | ok b => cases hOutcomes
  | ok a =>
      cases outcome' with
      | error e' => cases hOutcomes
      | ok b => exact hf a b hOutcomes envP s' t' hStores

theorem tryCatch {p : Program Call Answer Error α} {q : Program Call Answer Error β}
    {handlerP : Error → Program Call Answer Error α}
    {handlerQ : Error → Program Call Answer Error β} (hp : Coupled R V p q)
    (hHandler : ∀ e, Coupled R V (handlerP e) (handlerQ e)) :
    Coupled R V (MonadExcept.tryCatch p handlerP) (MonadExcept.tryCatch q handlerQ) := by
  intro env s t hR
  obtain ⟨hStores, hOutcomes, hEnv⟩ := hp env s t hR
  rw [run_tryCatch, run_tryCatch]
  rcases hRunP : p.run W env s with ⟨s', outcome, envP⟩
  rcases hRunQ : q.run W env t with ⟨t', outcome', envQ⟩
  rw [hRunP, hRunQ] at hStores hOutcomes hEnv
  cases hEnv
  cases outcome with
  | error e =>
      cases outcome' with
      | error e' =>
          obtain rfl : e = e' := hOutcomes
          exact hHandler e envP s' t' hStores
      | ok b => cases hOutcomes
  | ok a =>
      cases outcome' with
      | error e' => cases hOutcomes
      | ok b => exact ⟨hStores, hOutcomes, rfl⟩

theorem map {p : Program Call Answer Error α} {q : Program Call Answer Error β} {f : α → γ}
    {g : β → δ} (hp : Coupled R V p q) (hf : ∀ a b, V a b → U (f a) (g b)) :
    Coupled R U (f <$> p) (g <$> q) := by
  rw [map_eq_pure_bind, map_eq_pure_bind]
  exact hp.bind fun a b hab => .pure (hf a b hab)

/-- Both operations of `Promise.all` in each run. -/
theorem promiseAll {V' : γ → δ → Prop} {p : Program Call Answer Error α}
    {q : Program Call Answer Error β} {p' : Program Call Answer Error γ}
    {q' : Program Call Answer Error δ} (h : Coupled R V p q) (h' : Coupled R V' p' q') :
    Coupled R (fun pair other => V pair.1 other.1 ∧ V' pair.2 other.2)
      (Async.promiseAll p p') (Async.promiseAll q q') := by
  have hProtected {η θ : Type} {X : η → θ → Prop} {p : Program Call Answer Error η}
      {q : Program Call Answer Error θ} (h : Coupled R X p q) :
      Coupled R (Matching X)
        (MonadExcept.tryCatch (Except.ok <$> p) fun error => Pure.pure (.error error))
        (MonadExcept.tryCatch (Except.ok <$> q) fun error => Pure.pure (.error error)) := by
    have hOk : Coupled R (Matching X) (Except.ok <$> p : Program Call Answer Error (Except Error η))
        (Except.ok <$> q) := h.map fun _ _ hab => hab
    exact hOk.tryCatch fun error => .pure (matching_error.mpr rfl)
  refine (hProtected h).bind fun a b hab => (hProtected h').bind fun a' b' hab' => ?_
  cases a with
  | error error =>
      cases b with
      | ok b => cases hab
      | error error' =>
          obtain rfl : error = error' := hab
          exact .throw error
  | ok a =>
      cases b with
      | error error => cases hab
      | ok b =>
          cases a' with
          | error error =>
              cases b' with
              | ok b' => cases hab'
              | error error' =>
                  obtain rfl : error = error' := hab'
                  exact .throw error
          | ok a' =>
              cases b' with
              | error error => cases hab'
              | ok b' => exact .pure ⟨hab, hab'⟩

/-- A program coupled with itself is put together from calls that are. -/
theorem compositional (R : W.Store → W.Store → Prop) :
    Compositional fun α (p : Program Call Answer Error α) => Coupled R (· = ·) p p where
  pure _ := .pure rfl
  throw := .throw
  bind hp hf := hp.bind fun a _ hab => hab ▸ hf a
  tryCatch := .tryCatch

end Coupled

end Program

end Async
