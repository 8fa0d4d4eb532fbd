import Navin.Semantics.Promises

/-! The serializer of chain submissions. Each call of `run` chains its task to
the tail of the key's previous call and leaves its own tail in the map. The
chained promises are all there is to the lock. -/
namespace Navin

open Async

inductive PromiseRole where
  | resolved
  | result
  | tail
  | cleaned
  | task
deriving DecidableEq

/-- The promises that come into being through one call of `run`: a resolved one
to start from when the key is idle, the results of the three `then`s, and the
promise the task returns. -/
structure PromiseName where
  call : Nat
  role : PromiseRole
deriving DecidableEq

/-- The handlers of `run`. A promise resolved with another one waits for it with
a callback of its own. -/
inductive SerializerHandler (Key : Type) where
  | task
  | swallow
  | cleanup (key : Key) (tail : PromiseName)
  | adopt

/-- What the outside sees of the tasks. -/
inductive TaskEvent (Error Value : Type) where
  | started (call : Nat)
  | finished (call : Nat) (outcome : Except Error Value)

/-- A serializer, the promises it has made, the calls of `run` by their keys, and
what has become of the tasks, latest first. -/
structure KeyedSerializer (Key Error Value : Type) where
  promises : Promises PromiseName (SerializerHandler Key) (Except Error Value) := .empty
  tails : Key → Option PromiseName := fun _ => none
  calls : List Key := []
  log : List (TaskEvent Error Value) := []

namespace KeyedSerializer

variable {Key Error Value : Type} [DecidableEq Key]

/-- `undefined`, to which every tail is fulfilled. -/
def undefined [Inhabited Value] : Except Error Value :=
  .ok default

variable [Inhabited Value] (serializer : KeyedSerializer Key Error Value)

/-- `run(key, task)`, and the promise it returns. The task itself is only called
by a callback. -/
def run (key : Key) : KeyedSerializer Key Error Value × PromiseName :=
  let call := serializer.calls.length
  let (promises, previous) : Promises PromiseName (SerializerHandler Key) (Except Error Value) ×
      PromiseName :=
    match serializer.tails key with
    | some tail => (serializer.promises, tail)
    | none => (serializer.promises.settle ⟨call, .resolved⟩ undefined, ⟨call, .resolved⟩)
  let promises := promises.andThen previous .task ⟨call, .result⟩
  let promises := promises.andThen ⟨call, .result⟩ .swallow ⟨call, .tail⟩
  let tails := Function.update serializer.tails key (some ⟨call, .tail⟩)
  let promises := promises.andThen ⟨call, .tail⟩ (.cleanup key ⟨call, .tail⟩) ⟨call, .cleaned⟩
  ({ serializer with promises, tails, calls := serializer.calls ++ [key] }, ⟨call, .result⟩)

/-- Call a handler with what its promise has settled to. `then` with one handler
passes a rejection on to the derived promise. -/
def handle (derived : PromiseName) (handler : SerializerHandler Key)
    (outcome : Except Error Value) : KeyedSerializer Key Error Value :=
  let promises := serializer.promises.dismiss derived
  match handler, outcome with
  | .task, .ok _ =>
      { serializer with
        promises := promises.andThen ⟨derived.call, .task⟩ .adopt derived
        log := .started derived.call :: serializer.log }
  | .swallow, _ => { serializer with promises := promises.settle derived undefined }
  | .cleanup key tail, .ok _ =>
      { serializer with
        promises := promises.settle derived undefined
        tails := if serializer.tails key = some tail then Function.update serializer.tails key none
          else serializer.tails }
  | .adopt, outcome => { serializer with promises := promises.settle derived outcome }
  | .task, .error error | .cleanup _ _, .error error =>
      { serializer with promises := promises.settle derived (.error error) }

/-- Run the callback under a name, if it is due. -/
def callBack (derived : PromiseName) : Option (KeyedSerializer Key Error Value) :=
  (serializer.promises.due? derived).map fun due => serializer.handle derived due.1 due.2

/-- The task of a call is between its start and its settlement. -/
def running (call : Nat) : Bool :=
  match serializer.promises.callback ⟨call, .result⟩ with
  | some ⟨_, .adopt⟩ => (serializer.promises.outcome ⟨call, .task⟩).isNone
  | _ => false

/-- A running task settles, one way or the other. -/
def finish (call : Nat) (outcome : Except Error Value) : Option (KeyedSerializer Key Error Value) :=
  if serializer.running call then
    some { serializer with
      promises := serializer.promises.settle ⟨call, .task⟩ outcome
      log := .finished call outcome :: serializer.log }
  else none

section Lemmas

variable {serializer} {key : Key} {derived : PromiseName} {handler : SerializerHandler Key}
  {outcome : Except Error Value} {call : Nat} {after : KeyedSerializer Key Error Value}

@[simp] theorem run_calls : (serializer.run key).1.calls = serializer.calls ++ [key] := rfl

@[simp] theorem run_log : (serializer.run key).1.log = serializer.log := rfl

@[simp] theorem handle_calls :
    (serializer.handle derived handler outcome).calls = serializer.calls := by
  cases handler <;> cases outcome <;> rfl

/-- A callback is only seen outside when it starts a task. -/
theorem handle_log : (serializer.handle derived handler outcome).log =
    match handler, outcome with
    | .task, .ok _ => .started derived.call :: serializer.log
    | _, _ => serializer.log := by
  cases handler <;> cases outcome <;> rfl

omit [DecidableEq Key] [Inhabited Value] in
theorem finish_eq_some (h : serializer.finish call outcome = some after) :
    after.calls = serializer.calls ∧ after.log = .finished call outcome :: serializer.log := by
  unfold finish at h
  split at h
  · cases h
    exact ⟨rfl, rfl⟩
  · cases h

end Lemmas

/-- Somebody calls `run`, a task settles, or the runtime gets to a callback. -/
inductive Action (Key Error Value : Type) where
  | run (key : Key)
  | finish (call : Nat) (outcome : Except Error Value)
  | callBack (derived : PromiseName)

def step : Action Key Error Value → Option (KeyedSerializer Key Error Value)
  | .run key => some (serializer.run key).1
  | .finish call outcome => serializer.finish call outcome
  | .callBack derived => serializer.callBack derived

/-- What any interleaving of calls, settlements and callbacks can lead to. -/
inductive Reachable : KeyedSerializer Key Error Value → Prop
  | initial : Reachable {}
  | step {before after : KeyedSerializer Key Error Value} {action : Action Key Error Value}
      (earlier : Reachable before) (h : before.step action = some after) : Reachable after

/-- A task has started and not settled yet. -/
def Running (call : Nat) : Prop :=
  .started call ∈ serializer.log ∧ ∀ outcome, .finished call outcome ∉ serializer.log

/-- Run callbacks one after the other. -/
def callBackAll (names : List PromiseName) : Option (KeyedSerializer Key Error Value) :=
  names.foldlM KeyedSerializer.callBack serializer

end KeyedSerializer

end Navin
