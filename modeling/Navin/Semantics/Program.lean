import Mathlib.Logic.Basic
import Mathlib.Logic.Function.Basic

/-! Asynchronous functions as interaction trees. A program returns, throws, or
awaits one call whose promise may be fulfilled or rejected. Only the calls are
visible to the environment; everything between two calls is local. Nothing is
assumed about what the answers mean. -/
namespace Async

inductive Program (Call : Type) (Answer : Call → Type) (Error Result : Type) where
  | done (result : Result)
  | fail (error : Error)
  | call (request : Call) (next : Except Error (Answer request) → Program Call Answer Error Result)

namespace Program

variable {Call : Type} {Answer : Call → Type} {Error α β γ : Type}

/-- A fulfilled promise returns its value, a rejected one throws at the await. -/
def settle : Except Error α → Program Call Answer Error α
  | .ok answer => .done answer
  | .error error => .fail error

@[simp] theorem settle_ok (a : α) : (settle (.ok a) : Program Call Answer Error α) = .done a := rfl

@[simp] theorem settle_error (e : Error) :
    (settle (.error e) : Program Call Answer Error α) = .fail e := rfl

/-- How a program has settled, if it awaits nothing more. -/
def settled? : Program Call Answer Error α → Option (Except Error α)
  | .done result => some (.ok result)
  | .fail error => some (.error error)
  | .call _ _ => none

theorem settled?_eq_some_iff {p : Program Call Answer Error α} {outcome : Except Error α} :
    p.settled? = some outcome ↔ p = settle outcome := by
  cases p <;> cases outcome <;> simp [settled?]

/-- Whether a program has returned a result. -/
def succeeded : Program Call Answer Error α → Bool
  | .done _ => true
  | _ => false

theorem succeeded_iff {p : Program Call Answer Error α} :
    p.succeeded = true ↔ ∃ result, p = .done result := by
  cases p <;> simp [succeeded]

/-- Await one call. -/
def await (request : Call) : Program Call Answer Error (Answer request) :=
  .call request settle

protected def bind : Program Call Answer Error α → (α → Program Call Answer Error β) →
    Program Call Answer Error β
  | .done a, f => f a
  | .fail e, _ => .fail e
  | .call request next, f => .call request fun response => (next response).bind f

/-- A handler sees exactly the errors thrown inside the protected program. An
error thrown by the handler itself escapes. -/
protected def tryCatch : Program Call Answer Error α →
    (Error → Program Call Answer Error α) → Program Call Answer Error α
  | .done a, _ => .done a
  | .fail e, handler => handler e
  | .call request next, handler =>
      .call request fun response => (next response).tryCatch handler

instance : Monad (Program Call Answer Error) where
  pure := .done
  bind := Program.bind

instance : MonadExceptOf Error (Program Call Answer Error) where
  throw := .fail
  tryCatch := Program.tryCatch

theorem bind_def (p : Program Call Answer Error α) (f : α → Program Call Answer Error β) :
    p >>= f = p.bind f := rfl

@[simp] theorem bind_done (a : α) (f : α → Program Call Answer Error β) :
    (Program.done a : Program Call Answer Error α).bind f = f a := rfl

@[simp] theorem bind_fail (e : Error) (f : α → Program Call Answer Error β) :
    (Program.fail e : Program Call Answer Error α).bind f = .fail e := rfl

@[simp] theorem bind_call (request : Call)
    (next : Except Error (Answer request) → Program Call Answer Error α)
    (f : α → Program Call Answer Error β) :
    (Program.call request next).bind f = .call request fun r => (next r).bind f := rfl

theorem bind_pure (p : Program Call Answer Error α) : p.bind .done = p := by
  induction p with
  | done a => rfl
  | fail e => rfl
  | call request next ih => simp [ih]

theorem bind_assoc (p : Program Call Answer Error α) (f : α → Program Call Answer Error β)
    (g : β → Program Call Answer Error γ) :
    (p.bind f).bind g = p.bind fun a => (f a).bind g := by
  induction p with
  | done a => rfl
  | fail e => rfl
  | call request next ih => simp [ih]

instance : LawfulMonad (Program Call Answer Error) :=
  LawfulMonad.mk' (Program Call Answer Error) bind_pure (fun _ _ => rfl) bind_assoc

/-- A property of programs that sequencing and protection keep. A program has it
as soon as the calls the program is put together from have it. -/
structure Compositional (T : (α : Type) → Program Call Answer Error α → Prop) : Prop where
  pure {α : Type} (a : α) : T α (Pure.pure a)
  throw {α : Type} (e : Error) : T α (MonadExcept.throw e)
  bind {α β : Type} {p : Program Call Answer Error α} {f : α → Program Call Answer Error β} :
    T α p → (∀ a, T β (f a)) → T β (p >>= f)
  tryCatch {α : Type} {p : Program Call Answer Error α}
    {handler : Error → Program Call Answer Error α} :
    T α p → (∀ e, T α (handler e)) → T α (MonadExcept.tryCatch p handler)

/-- Every call the program can make satisfies `C`, whatever it is answered. -/
def Uses (C : Call → Prop) : Program Call Answer Error α → Prop
  | .done _ => True
  | .fail _ => True
  | .call request next => C request ∧ ∀ response, (next response).Uses C

namespace Uses

variable {C D : Call → Prop}

theorem pure {a : α} : (Pure.pure a : Program Call Answer Error α).Uses C := trivial

theorem throw {e : Error} : (MonadExcept.throw e : Program Call Answer Error α).Uses C := trivial

theorem await {request : Call} (h : C request) :
    (Program.await request : Program Call Answer Error (Answer request)).Uses C := by
  refine ⟨h, fun response => ?_⟩
  cases response <;> trivial

theorem bind {p : Program Call Answer Error α} {f : α → Program Call Answer Error β}
    (hp : p.Uses C) (hf : ∀ a, (f a).Uses C) : (p >>= f).Uses C := by
  rw [bind_def]
  induction p with
  | done a => exact hf a
  | fail e => trivial
  | call request next ih => exact ⟨hp.1, fun response => ih response (hp.2 response)⟩

theorem tryCatch {p : Program Call Answer Error α} {handler : Error → Program Call Answer Error α}
    (hp : p.Uses C) (hHandler : ∀ e, (handler e).Uses C) :
    (MonadExcept.tryCatch p handler).Uses C := by
  change (p.tryCatch handler).Uses C
  induction p with
  | done a => trivial
  | fail e => exact hHandler e
  | call request next ih => exact ⟨hp.1, fun response => ih response (hp.2 response)⟩

/-- A footprint is established call by call. -/
theorem compositional (C : Call → Prop) :
    Compositional fun α (p : Program Call Answer Error α) => p.Uses C where
  pure _ := .pure
  throw _ := .throw
  bind := .bind
  tryCatch := .tryCatch

theorem mono {p : Program Call Answer Error α} (hp : p.Uses C)
    (h : ∀ request, C request → D request) :
    p.Uses D := by
  induction p with
  | done a => trivial
  | fail e => trivial
  | call request next ih => exact ⟨h _ hp.1, fun response => ih response (hp.2 response)⟩

end Uses

end Program

/-- `Promise.all` of two operations: both are issued, then the first failure is
thrown. -/
def promiseAll {Call : Type} {Answer : Call → Type} {Error α β : Type}
    (first : Program Call Answer Error α) (second : Program Call Answer Error β) :
    Program Call Answer Error (α × β) := do
  let a ← tryCatch (Except.ok <$> first) fun error => return .error error
  let b ← tryCatch (Except.ok <$> second) fun error => return .error error
  match a, b with
  | .ok a, .ok b => return (a, b)
  | .error error, _ => throw error
  | .ok _, .error error => throw error

/-- The environment in which programs run: a shared store, what the world
decides at each call (faults, clocks, fresh names), and the atomic effect of a
call. One call is one indivisible step. -/
structure World (Call : Type) (Answer : Call → Type) (Error : Type) where
  Store : Type
  Env : Type
  perform : Env → Store → (request : Call) → Store × Except Error (Answer request)

namespace Program

variable {Call : Type} {Answer : Call → Type} {Error α β γ : Type} (W : World Call Answer Error)

/-- Sequential execution with nobody else running. The environment's decision
for the `n`-th call is `env n`; the unused decisions are returned. -/
def run : Program Call Answer Error α → (Nat → W.Env) → W.Store →
    W.Store × Except Error α × (Nat → W.Env)
  | .done a, env, store => (store, .ok a, env)
  | .fail e, env, store => (store, .error e, env)
  | .call request next, env, store =>
      let (store', response) := W.perform (env 0) store request
      (next response).run (fun n => env (n + 1)) store'

variable {W}

@[simp] theorem run_pure (a : α) (env : Nat → W.Env) (store : W.Store) :
    (pure a : Program Call Answer Error α).run W env store = (store, .ok a, env) := rfl

@[simp] theorem run_throw (e : Error) (env : Nat → W.Env) (store : W.Store) :
    (throw e : Program Call Answer Error α).run W env store = (store, .error e, env) := rfl

/-- Sequential composition threads the store and the unused decisions. -/
theorem run_bind (p : Program Call Answer Error α) (f : α → Program Call Answer Error β)
    (env : Nat → W.Env) (store : W.Store) :
    (p >>= f).run W env store =
      match p.run W env store with
      | (store', .ok a, env') => (f a).run W env' store'
      | (store', .error e, env') => (store', .error e, env') := by
  rw [bind_def]
  induction p generalizing env store with
  | done a => rfl
  | fail e => rfl
  | call request next ih => simp only [bind_call, run, ih]

/-- The continuation runs from where the first part ended. -/
theorem run_bind_ok {p : Program Call Answer Error α} {f : α → Program Call Answer Error β}
    {env env' : Nat → W.Env} {store store' : W.Store} {a : α}
    (hp : p.run W env store = (store', .ok a, env')) :
    (p >>= f).run W env store = (f a).run W env' store' := by
  rw [run_bind, hp]

theorem run_bind_error {p : Program Call Answer Error α} {f : α → Program Call Answer Error β}
    {env env' : Nat → W.Env} {store store' : W.Store} {e : Error}
    (hp : p.run W env store = (store', .error e, env')) :
    (p >>= f).run W env store = (store', .error e, env') := by
  rw [run_bind, hp]

theorem run_map (f : α → β) (p : Program Call Answer Error α) (env : Nat → W.Env)
    (store : W.Store) :
    (f <$> p).run W env store =
      ((p.run W env store).1, (p.run W env store).2.1.map f, (p.run W env store).2.2) := by
  rw [map_eq_pure_bind, run_bind]
  rcases p.run W env store with ⟨store', outcome, env'⟩
  cases outcome <;> rfl

theorem run_await (request : Call) (env : Nat → W.Env) (store : W.Store) :
    (await request).run W env store =
      ((W.perform (env 0) store request).1, (W.perform (env 0) store request).2,
        fun n => env (n + 1)) := by
  simp only [await, run]
  cases (W.perform (env 0) store request).2 <;> rfl

/-- A sequence succeeds when both of its parts do, one after the other. -/
theorem run_bind_eq_ok {p : Program Call Answer Error α} {f : α → Program Call Answer Error β}
    {env env'' : Nat → W.Env} {store store'' : W.Store} {b : β} :
    (p >>= f).run W env store = (store'', .ok b, env'') ↔
      ∃ store' a env', p.run W env store = (store', .ok a, env') ∧
        (f a).run W env' store' = (store'', .ok b, env'') := by
  rw [run_bind]
  rcases p.run W env store with ⟨store', outcome, env'⟩
  cases outcome with
  | ok a =>
      refine ⟨fun h => ⟨store', a, env', rfl, h⟩, ?_⟩
      rintro ⟨_, _, _, hFirst, hSecond⟩
      cases hFirst
      exact hSecond
  | error e => simp

theorem run_await_eq_ok {request : Call} {env env' : Nat → W.Env} {store store' : W.Store}
    {answer : Answer request} :
    (await request).run W env store = (store', .ok answer, env') ↔
      W.perform (env 0) store request = (store', .ok answer) ∧ env' = fun n => env (n + 1) := by
  rw [run_await]
  rcases W.perform (env 0) store request with ⟨store', response⟩
  simp only [Prod.mk.injEq, eq_comm (a := env'), and_assoc]

/-- A handler that only replaces the error does not make a program succeed. -/
theorem run_tryCatch_throw_eq_ok {p : Program Call Answer Error α} {g : Error → Error}
    {env env' : Nat → W.Env} {store store' : W.Store} {a : α} :
    (tryCatch p fun e => throw (g e)).run W env store = (store', .ok a, env') ↔
      p.run W env store = (store', .ok a, env') := by
  change (p.tryCatch fun e => throw (g e)).run W env store = _ ↔ _
  induction p generalizing env store with
  | done a => rfl
  | fail e =>
      simp [Program.tryCatch, run]
  | call request next ih => simp only [Program.tryCatch, run, ih]

/-- What every possible call preserves, the whole run preserves. -/
theorem Uses.run {p : Program Call Answer Error α} {C : Call → Prop} (hp : p.Uses C)
    (view : W.Store → β)
    (hC : ∀ env store request, C request → view (W.perform env store request).1 = view store)
    (env : Nat → W.Env) (store : W.Store) : view (p.run W env store).1 = view store := by
  induction p generalizing env store with
  | done a => rfl
  | fail e => rfl
  | call request next ih =>
      simp only [Program.run]
      exact (ih _ (hp.2 _) _ _).trans (hC _ _ _ hp.1)

/-- What every possible call keeps true, the whole run keeps true. -/
theorem Uses.run_invariant {p : Program Call Answer Error α} {C : Call → Prop} (hp : p.Uses C)
    (Inv : W.Store → Prop)
    (hC : ∀ env store request, C request → Inv store → Inv (W.perform env store request).1)
    (env : Nat → W.Env) {store : W.Store} (hInit : Inv store) : Inv (p.run W env store).1 := by
  induction p generalizing env store with
  | done a => exact hInit
  | fail e => exact hInit
  | call request next ih =>
      simp only [Program.run]
      exact ih _ (hp.2 _) _ (hC _ _ _ hp.1 hInit)

variable (W) in
/-- A continuation whose calls preserve a view leaves it as the first part did. -/
theorem run_bind_view (view : W.Store → γ) (C : Call → Prop) {p : Program Call Answer Error α}
    {f : α → Program Call Answer Error β} (hf : ∀ a, (f a).Uses C)
    (hC : ∀ env store request, C request → view (W.perform env store request).1 = view store)
    (env : Nat → W.Env) (store : W.Store) :
    view ((p >>= f).run W env store).1 = view (p.run W env store).1 := by
  rw [run_bind]
  split
  · rename_i store' a env' h
    rw [h]
    exact (hf a).run view hC env' store'
  · rename_i store' e env' h
    rw [h]

end Program

end Async
