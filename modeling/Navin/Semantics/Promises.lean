import Mathlib.Logic.Function.Basic

/-! Promises and the callbacks that wait for them. `promise.then(handler)` makes
a new promise, and the callback is known by the name of that derived promise. A
callback is due as soon as its promise has settled. The runtime takes due
callbacks in the order in which they became due; here any of them may be next. -/
namespace Async

/-- What `then` registers: which promise to wait for, and what to do then. -/
structure Callback (Name Handler : Type) where
  on : Name
  handler : Handler

structure Promises (Name Handler Outcome : Type) where
  outcome : Name → Option Outcome
  callback : Name → Option (Callback Name Handler)

namespace Promises

variable {Name Handler Outcome : Type}

/-- No promise has settled and nobody waits. -/
def empty : Promises Name Handler Outcome :=
  ⟨fun _ => none, fun _ => none⟩

/-- The callback under a name, when it is due, and what it is called with. -/
def due? (promises : Promises Name Handler Outcome) (derived : Name) :
    Option (Handler × Outcome) := do
  let callback ← promises.callback derived
  let outcome ← promises.outcome callback.on
  return (callback.handler, outcome)

/-- Every callback whose promise has settled has run. -/
def Quiet (promises : Promises Name Handler Outcome) : Prop :=
  ∀ derived, promises.due? derived = none

section Due

variable {promises : Promises Name Handler Outcome} {derived on : Name} {handler : Handler}
  {result : Outcome}

theorem due?_eq_some_iff : promises.due? derived = some (handler, result) ↔
    ∃ on, promises.callback derived = some ⟨on, handler⟩ ∧ promises.outcome on = some result := by
  simp only [due?, Option.bind_eq_bind, Option.bind_eq_some_iff, Option.pure_def,
    Option.some.injEq, Prod.mk.injEq]
  constructor
  · rintro ⟨callback, hCallback, _, hOutcome, rfl, rfl⟩
    exact ⟨callback.on, hCallback, hOutcome⟩
  · rintro ⟨on, hCallback, hOutcome⟩
    exact ⟨_, hCallback, _, hOutcome, rfl, rfl⟩

/-- What still waits in a quiet moment waits for a pending promise. -/
theorem Quiet.outcome_eq_none (h : promises.Quiet)
    (hCallback : promises.callback derived = some ⟨on, handler⟩) : promises.outcome on = none := by
  cases hOutcome : promises.outcome on with
  | none => rfl
  | some result =>
      cases (due?_eq_some_iff.mpr ⟨on, hCallback, hOutcome⟩).symm.trans (h derived)

end Due

variable [DecidableEq Name] (promises : Promises Name Handler Outcome)

def settle (name : Name) (outcome : Outcome) : Promises Name Handler Outcome :=
  { promises with outcome := Function.update promises.outcome name (some outcome) }

/-- `derived = on.then(handler)`. -/
def andThen (on : Name) (handler : Handler) (derived : Name) : Promises Name Handler Outcome :=
  { promises with callback := Function.update promises.callback derived (some ⟨on, handler⟩) }

/-- A callback is gone once it has run. -/
def dismiss (derived : Name) : Promises Name Handler Outcome :=
  { promises with callback := Function.update promises.callback derived none }

section Lemmas

variable {promises} {name derived on other : Name} {handler : Handler} {result : Outcome}

@[simp] theorem outcome_settle : (promises.settle name result).outcome other =
    if other = name then some result else promises.outcome other :=
  Function.update_apply _ _ _ _

@[simp] theorem callback_settle : (promises.settle name result).callback = promises.callback := rfl

@[simp] theorem outcome_andThen : (promises.andThen on handler derived).outcome =
    promises.outcome := rfl

@[simp] theorem callback_andThen : (promises.andThen on handler derived).callback other =
    if other = derived then some ⟨on, handler⟩ else promises.callback other :=
  Function.update_apply _ _ _ _

@[simp] theorem outcome_dismiss : (promises.dismiss derived).outcome = promises.outcome := rfl

@[simp] theorem callback_dismiss : (promises.dismiss derived).callback other =
    if other = derived then none else promises.callback other :=
  Function.update_apply _ _ _ _

end Lemmas

end Promises

end Async
