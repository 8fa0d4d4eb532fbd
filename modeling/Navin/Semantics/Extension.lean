import Navin.Semantics.Protocol
import Navin.Semantics.TwoRuns

/-! A world with further calls over further state. A program over the calls of the
smaller world runs in the larger one as it did before, and leaves the further
state alone. -/
namespace Async

variable {Call Other : Type} {Answer : Call → Type} {OtherAnswer : Other → Type}
  {Error State OtherEnv α β : Type}

/-- Programs that may make both kinds of calls. -/
abbrev Extended (Answer : Call → Type) (OtherAnswer : Other → Type) (Error α : Type) : Type :=
  Program (Call ⊕ Other) (Sum.elim Answer OtherAnswer) Error α

/-- A program among more calls than it makes. -/
def Program.lift : Program Call Answer Error α → Extended Answer OtherAnswer Error α
  | .done a => .done a
  | .fail e => .fail e
  | .call request next => .call (.inl request) fun response => (next response).lift

/-- The further calls act on both states. Each call is decided by its own part of
the environment. -/
abbrev World.extend (W : World Call Answer Error) (State OtherEnv : Type)
    (perform : OtherEnv → W.Store × State → (request : Other) →
      (W.Store × State) × Except Error (OtherAnswer request)) :
    World (Call ⊕ Other) (Sum.elim Answer OtherAnswer) Error where
  Store := W.Store × State
  Env := W.Env × OtherEnv
  perform env store
    | .inl request =>
        (((W.perform env.1 store.1 request).1, store.2), (W.perform env.1 store.1 request).2)
    | .inr request => perform env.2 store request

/-- A protocol over both kinds of calls, as a program of the first kind sees it. -/
def Protocol.left {Progress : Type}
    (P : Protocol (Call ⊕ Other) (Sum.elim Answer OtherAnswer) Error Progress) :
    Protocol Call Answer Error Progress where
  allows s request := P.allows s (.inl request)
  next s request response := P.next s (.inl request) response

namespace Program

theorem lift_await (request : Call) :
    ((await request).lift : Extended Answer OtherAnswer Error (Answer request)) =
      await (Sum.inl request) := by
  apply congrArg (Program.call (Sum.inl request))
  funext response
  cases response <;> rfl

theorem lift_bind (p : Program Call Answer Error α) (f : α → Program Call Answer Error β) :
    ((p >>= f).lift : Extended Answer OtherAnswer Error β) = p.lift >>= fun a => (f a).lift := by
  rw [bind_def, bind_def]
  induction p with
  | done a => rfl
  | fail e => rfl
  | call request next ih => exact congrArg (Program.call (Sum.inl request)) (funext ih)

/-- What a lifted program calls. -/
theorem Uses.lift {p : Program Call Answer Error α} {C : Call ⊕ Other → Prop}
    (h : p.Uses fun call => C (.inl call)) : (p.lift : Extended Answer OtherAnswer Error α).Uses C := by
  induction p with
  | done a => trivial
  | fail e => trivial
  | call request next ih => exact ⟨h.1, fun response => ih response (h.2 response)⟩

/-- A lifted program follows what it followed. -/
theorem Follows.lift {Progress : Type}
    {P : Protocol (Call ⊕ Other) (Sum.elim Answer OtherAnswer) Error Progress}
    {p : Program Call Answer Error α} {Q : Progress → Except Error α → Prop} {s : Progress}
    (h : p.Follows P.left Q s) :
    (p.lift : Extended Answer OtherAnswer Error α).Follows P Q s := by
  induction p generalizing s with
  | done a => exact h
  | fail e => exact h
  | call request next ih => exact ⟨h.1, fun response => ih response (h.2 response)⟩

variable {W : World Call Answer Error}
  (perform : OtherEnv → W.Store × State → (request : Other) →
    (W.Store × State) × Except Error (OtherAnswer request))

/-- The run of a lifted program. How many decisions it uses up is not said. -/
theorem run_lift (p : Program Call Answer Error α) (env : Nat → W.Env × OtherEnv)
    (store : W.Store × State) : ∃ used,
      p.lift.run (W.extend State OtherEnv perform) env store =
        (((p.run W (fun n => (env n).1) store.1).1, store.2),
          (p.run W (fun n => (env n).1) store.1).2.1, fun n => env (n + used)) := by
  induction p generalizing env store with
  | done a => exact ⟨0, rfl⟩
  | fail e => exact ⟨0, rfl⟩
  | call request next ih =>
      obtain ⟨used, hRun⟩ := ih (W.perform (env 0).1 store.1 request).2 (fun n => env (n + 1))
        ((W.perform (env 0).1 store.1 request).1, store.2)
      refine ⟨used + 1, ?_⟩
      simp only [lift, run]
      exact hRun

end Program

end Async
