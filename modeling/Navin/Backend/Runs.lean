import Navin.Backend.Effects
import Navin.Payments.Service
import Navin.Semantics.Trace

/-! Runs of a single request on the backend while every service is up. -/
namespace Navin

open Async

variable {env : Nat → Decision}

/-- No call fails for lack of a service. -/
def Quiet (env : Nat → Decision) : Prop :=
  ∀ n, (env n).fault = none

theorem Quiet.after {α : Type} (h : Quiet env) (p : BackendM α)
    (store : Store) : Quiet (p.run backend env store).2.2 := by
  obtain ⟨used, hUsed⟩ := p.exists_run_env (W := backend) env store
  rw [hUsed]
  exact fun n => h (n + used)

/-- A call that meets no fault. -/
theorem run_request (hQuiet : Quiet env) (store : Store) (call : BackendCall) :
    (request call).run backend env store = ((execute (env 0) store call).1,
      (execute (env 0) store call).2, fun n => env (n + 1)) := by
  rw [Program.run_await, backend_perform, perform_of_fault_none (hQuiet 0)]

theorem run_currentDate (env : Nat → Decision) (store : Store) :
    currentDate.run backend env store = (store, .ok (env 0).now, fun n => env (n + 1)) :=
  Program.run_await_eq_ok.mpr ⟨perform_now, rfl⟩

end Navin
