import Navin.Chain.SerializerLaw
import Navin.Chain.Signing

/-! One process that signs: its serializer, the sections it has opened, and the
account on the network. Calls come in, callbacks run, sections call the network,
and tasks settle, in any order. -/
namespace Navin

open Async

/-- A section, by the serializer's call it is the task of, or on its own. -/
inductive SectionName where
  | queued (call : Nat)
  | direct (opened : Nat)
deriving DecidableEq

/-- The tasks handed to the serializer stand in the order of its calls. `code` is
what is left of a section that has been opened, and `history` the calls of all
sections, latest first. -/
structure SigningProcess where
  serializer : KeyedSerializer String SigningError SubmitReceipt := {}
  account : ChainAccount := {}
  queued : List (ChainRequest × SigningM SubmitReceipt) := []
  direct : List ChainRequest := []
  code : SectionName → Option (SigningM SubmitReceipt) := fun _ => none
  history : List (Event SigningCall SigningCall.Answer SigningError SectionName) := []

namespace SigningProcess

variable [StellarSdk] (config : ChainConfig) (process : SigningProcess)

/-- Somebody calls the adapter or tokenization. -/
def request (call : ChainRequest) : SigningProcess :=
  match config.begin call with
  | .error _ => process
  | .ok (.queued publicKey task) =>
      { process with
        serializer := (process.serializer.run publicKey).1
        queued := process.queued ++ [(call, task)] }
  | .ok (.direct program) =>
      { process with
        direct := process.direct ++ [call]
        code := Function.update process.code (.direct process.direct.length) (some program) }

/-- The runtime gets to a callback of the serializer. A task is opened by it. -/
def callBack (derived : PromiseName) : Option SigningProcess := do
  let (handler, outcome) ← process.serializer.promises.due? derived
  let serializer := process.serializer.handle derived handler outcome
  match handler, outcome with
  | .task, .ok _ => do
      let (_, task) ← process.queued[derived.call]?
      return { process with
        serializer, code := Function.update process.code (.queued derived.call) (some task) }
  | _, _ => return { process with serializer }

/-- The network answers the call a section is waiting for. -/
def perform (decision : NetworkDecision) (name : SectionName) : Option SigningProcess :=
  match process.code name with
  | some (.call call next) =>
      let (account, response) := process.account.perform decision call
      some { process with
        account
        code := Function.update process.code name (some (next response))
        history := ⟨name, call, response⟩ :: process.history }
  | _ => none

/-- A task that has come to its end settles its promise. -/
def settle (call : Nat) : Option SigningProcess := do
  let program ← process.code (.queued call)
  let outcome ← program.settled?
  let serializer ← process.serializer.finish call outcome
  return { process with serializer }

inductive Action where
  | request (call : ChainRequest)
  | callBack (derived : PromiseName)
  | perform (decision : NetworkDecision) (name : SectionName)
  | settle (call : Nat)

def step : Action → Option SigningProcess
  | .request call => some (process.request config call)
  | .callBack derived => process.callBack derived
  | .perform decision name => process.perform decision name
  | .settle call => process.settle call

/-- What any interleaving of permitted actions can lead to. -/
inductive Reachable (permits : Action → Prop) : SigningProcess → Prop
  | initial : Reachable permits {}
  | step {before after : SigningProcess} {action : Action} (earlier : Reachable permits before)
      (permitted : permits action) (h : before.step config action = some after) :
      Reachable permits after

/-- What the caller of a queued call sees, once its promise has settled. -/
def outcome (call : Nat) : Option (Except AppError ChainAnswer) := do
  let (request, _) ← process.queued[call]?
  let outcome ← process.serializer.promises.outcome ⟨call, .result⟩
  match outcome with
  | .ok receipt => return .ok (request.answer config.chainAdapter receipt)
  | .error error => return .error (SimulatedAdapter.wrap error)

/-- A section is open while it has a call to make. -/
def Open (name : SectionName) : Prop :=
  ∃ call next, process.code name = some (.call call next)

/-- The call that opened a section. -/
def request? : SectionName → Option ChainRequest
  | .queued call => (process.queued[call]?).map (·.1)
  | .direct opened => process.direct[opened]?

/-- Everything one step can do. -/
inductive Stepped : Action → SigningProcess → Prop
  | refused {call : ChainRequest} {error : SigningError} (h : config.begin call = .error error) :
      Stepped (.request call) process
  | queued {call : ChainRequest} {publicKey : String} {task : SigningM SubmitReceipt}
      (h : config.begin call = .ok (.queued publicKey task)) :
      Stepped (.request call)
        { process with
          serializer := (process.serializer.run publicKey).1
          queued := process.queued ++ [(call, task)] }
  | opened {call : ChainRequest} {program : SigningM SubmitReceipt}
      (h : config.begin call = .ok (.direct program)) :
      Stepped (.request call)
        { process with
          direct := process.direct ++ [call]
          code := Function.update process.code (.direct process.direct.length) (some program) }
  | started {derived : PromiseName} {value : SubmitReceipt} {call : ChainRequest}
      {task : SigningM SubmitReceipt}
      (hDue : process.serializer.promises.due? derived = some (.task, .ok value))
      (hTask : process.queued[derived.call]? = some (call, task)) :
      Stepped (.callBack derived)
        { process with
          serializer := process.serializer.handle derived .task (.ok value)
          code := Function.update process.code (.queued derived.call) (some task) }
  | calledBack {derived : PromiseName} {handler : SerializerHandler String}
      {outcome : Except SigningError SubmitReceipt}
      (hDue : process.serializer.promises.due? derived = some (handler, outcome))
      (hLog : (process.serializer.handle derived handler outcome).log = process.serializer.log) :
      Stepped (.callBack derived)
        { process with serializer := process.serializer.handle derived handler outcome }
  | performed {decision : NetworkDecision} {name : SectionName} {call : SigningCall}
      {next : Except SigningError call.Answer → SigningM SubmitReceipt}
      (h : process.code name = some (.call call next)) :
      Stepped (.perform decision name)
        { process with
          account := (process.account.perform decision call).1
          code := Function.update process.code name
            (some (next (process.account.perform decision call).2))
          history := ⟨name, call, (process.account.perform decision call).2⟩ :: process.history }
  | settled {call : Nat} {outcome : Except SigningError SubmitReceipt}
      {serializer : KeyedSerializer String SigningError SubmitReceipt}
      (hCode : process.code (.queued call) = some (Program.settle outcome))
      (hFinish : process.serializer.finish call outcome = some serializer) :
      Stepped (.settle call) { process with serializer }

variable {config process} {permits : Action → Prop} {after : SigningProcess} {action : Action}

theorem step_cases (h : process.step config action = some after) :
    process.Stepped config action after := by
  cases action with
  | request call =>
      obtain rfl := Option.some.inj h
      unfold request
      split
      · rename_i hBegin
        exact .refused hBegin
      · rename_i hBegin
        exact .queued hBegin
      · rename_i hBegin
        exact .opened hBegin
  | callBack derived =>
      obtain ⟨⟨handler, outcome⟩, hDue, hRest⟩ := Option.bind_eq_some_iff.mp h
      by_cases hStart : ∃ value, handler = .task ∧ outcome = .ok value
      · obtain ⟨value, rfl, rfl⟩ := hStart
        obtain ⟨⟨call, task⟩, hTask, hAfter⟩ := Option.bind_eq_some_iff.mp hRest
        obtain rfl := Option.some.inj hAfter
        exact .started hDue hTask
      · cases handler <;> cases outcome <;> first
          | exact absurd ⟨_, rfl, rfl⟩ hStart
          | (obtain rfl := Option.some.inj hRest
             exact .calledBack hDue rfl)
  | perform decision name =>
      change process.perform decision name = some after at h
      unfold perform at h
      split at h
      · rename_i hCode
        obtain rfl := Option.some.inj h
        exact .performed hCode
      · cases h
  | settle call =>
      obtain ⟨program, hCode, hRest⟩ := Option.bind_eq_some_iff.mp h
      obtain ⟨outcome, hSettled, hRest⟩ := Option.bind_eq_some_iff.mp hRest
      obtain ⟨serializer, hFinish, hAfter⟩ := Option.bind_eq_some_iff.mp hRest
      obtain rfl := Option.some.inj hAfter
      rw [Program.settled?_eq_some_iff.mp hSettled] at hCode
      exact .settled hCode hFinish

/-- Permitted actions carried out one after the other are a run. -/
theorem Reachable.trans (h : Reachable config permits process) {actions : List Action}
    (permitted : ∀ action ∈ actions, permits action)
    (hSteps : actions.foldlM (SigningProcess.step config) process = some after) :
    Reachable config permits after := by
  induction actions generalizing process with
  | nil =>
      obtain rfl := Option.some.inj hSteps
      exact h
  | cons action rest ih =>
      obtain ⟨middle, hFirst, hRest⟩ := Option.bind_eq_some_iff.mp hSteps
      rw [List.forall_mem_cons] at permitted
      exact ih (.step h permitted.1 hFirst) permitted.2 hRest

variable (config process permits) in
/-- Sections, serializer and requests agree. -/
structure Orderly : Prop where
  serializer : process.serializer.Reachable
  calls : process.serializer.calls.length = process.queued.length
  keys : ∀ key ∈ process.serializer.calls, config.signer = some key
  queued : ∀ (i : Nat) call task, process.queued[i]? = some (call, task) →
    permits (.request call) ∧ ∃ key, config.begin call = .ok (.queued key task)
  direct : ∀ (i : Nat) call, process.direct[i]? = some call →
    permits (.request call) ∧ ∃ program, config.begin call = .ok (.direct program)
  started : ∀ i, (process.code (.queued i)).isSome → .started i ∈ process.serializer.log
  finished : ∀ i outcome, .finished i outcome ∈ process.serializer.log →
    process.code (.queued i) = some (Program.settle outcome)
  opened : ∀ i, (process.code (.direct i)).isSome → i < process.direct.length

theorem orderly_initial : Orderly config {} permits where
  serializer := .initial
  calls := rfl
  keys := by simp
  queued := by simp
  direct := by simp
  started := by simp
  finished := by simp
  opened := by simp

omit [StellarSdk] in
theorem step_callBack_of_due {serializer : KeyedSerializer String SigningError SubmitReceipt}
    {derived : PromiseName} {handler : SerializerHandler String}
    {outcome : Except SigningError SubmitReceipt}
    (hDue : serializer.promises.due? derived = some (handler, outcome)) :
    serializer.step (.callBack derived) = some (serializer.handle derived handler outcome) := by
  simp [KeyedSerializer.step, KeyedSerializer.callBack, hDue]

/-- A call joins the queue of the signer. -/
theorem Orderly.queue (orderly : process.Orderly config permits) {call : ChainRequest}
    {publicKey : String} {task : SigningM SubmitReceipt} (permitted : permits (.request call))
    (hBegin : config.begin call = .ok (.queued publicKey task)) :
    Orderly config
      { process with
        serializer := (process.serializer.run publicKey).1
        queued := process.queued ++ [(call, task)] } permits := by
  have hSigner : config.signer = some publicKey := by
    have hCases : Begun config call (config.begin call) := begin_cases
    rw [hBegin] at hCases
    cases hCases with
    | queued _ _ _ hSigner => exact hSigner
  have hRun : process.serializer.step (.run publicKey) =
      some (process.serializer.run publicKey).1 := rfl
  exact { orderly with
    serializer := .step orderly.serializer hRun
    calls := by simp [orderly.calls]
    keys := by
      intro key hKey
      rcases List.mem_append.mp hKey with hOld | hNew
      · exact orderly.keys key hOld
      · rw [List.mem_singleton.mp hNew]
        exact hSigner
    queued := by
      intro i other otherTask hTask
      rw [KeyedSerializer.getElem?_concat] at hTask
      split at hTask
      · cases hTask
        exact ⟨permitted, publicKey, hBegin⟩
      · exact orderly.queued i other otherTask hTask }

theorem Orderly.begin (orderly : process.Orderly config permits) {call : ChainRequest}
    {program : SigningM SubmitReceipt} (permitted : permits (.request call))
    (hBegin : config.begin call = .ok (.direct program)) :
    Orderly config
      { process with
        direct := process.direct ++ [call]
        code := Function.update process.code (.direct process.direct.length) (some program) }
      permits :=
  { orderly with
    direct := by
      intro i other hOpened
      rw [KeyedSerializer.getElem?_concat] at hOpened
      split at hOpened
      · cases hOpened
        exact ⟨permitted, program, hBegin⟩
      · exact orderly.direct i other hOpened
    started := by simpa using orderly.started
    finished := by simpa using orderly.finished
    opened := by
      intro i hOpened
      simp only [Function.update_apply, SectionName.direct.injEq] at hOpened
      rw [List.length_append]
      split at hOpened
      · rename_i hLast
        exact hLast ▸ Nat.lt_add_one _
      · exact Nat.lt_add_right 1 (orderly.opened i hOpened) }

/-- The serializer starts the task of a call. -/
theorem Orderly.start (orderly : process.Orderly config permits) {derived : PromiseName}
    {value : SubmitReceipt} {task : SigningM SubmitReceipt}
    (hDue : process.serializer.promises.due? derived = some (.task, .ok value)) :
    Orderly config
      { process with
        serializer := process.serializer.handle derived .task (.ok value)
        code := Function.update process.code (.queued derived.call) (some task) } permits := by
  have hCallBack := step_callBack_of_due hDue
  have hFresh := orderly.serializer.not_started_of_due hDue
  exact { orderly with
    serializer := .step orderly.serializer hCallBack
    calls := by simp [orderly.calls]
    keys := by simpa using orderly.keys
    started := by
      intro i hCode
      rw [KeyedSerializer.handle_log]
      by_cases hSame : i = derived.call
      · simp [hSame]
      · simp only [Function.update_apply, SectionName.queued.injEq, if_neg hSame] at hCode
        exact List.mem_cons_of_mem _ (orderly.started i hCode)
    finished := by
      intro i outcome hFinished
      rw [KeyedSerializer.handle_log] at hFinished
      have hOld := List.mem_of_ne_of_mem (by simp) hFinished
      have hSame : i ≠ derived.call := by
        rintro rfl
        exact hFresh (orderly.serializer.started_of_finished hOld)
      simp only [Function.update_apply, SectionName.queued.injEq, if_neg hSame]
      exact orderly.finished i outcome hOld
    opened := by simpa using orderly.opened }

/-- A section whose code awaits a call goes on with its answer. -/
theorem Orderly.perform (orderly : process.Orderly config permits) {name : SectionName}
    {call : SigningCall} {next : Except SigningError call.Answer → SigningM SubmitReceipt}
    (hCode : process.code name = some (.call call next)) (account : ChainAccount)
    (answer : Except SigningError call.Answer)
    (history : List (Event SigningCall SigningCall.Answer SigningError SectionName)) :
    Orderly config
      { process with
        account
        code := Function.update process.code name (some (next answer))
        history } permits :=
  { orderly with
    started := by
      intro i hNext
      refine orderly.started i ?_
      by_cases hSame : .queued i = name
      · rw [hSame, hCode]
        rfl
      · simpa only [Function.update_of_ne hSame] using hNext
    finished := by
      intro i outcome hFinished
      have hOld := orderly.finished i outcome hFinished
      have hSame : .queued i ≠ name := by
        rintro rfl
        rw [hCode] at hOld
        cases outcome <;> cases hOld
      simpa only [Function.update_of_ne hSame] using hOld
    opened := by
      intro i hNext
      refine orderly.opened i ?_
      by_cases hSame : .direct i = name
      · rw [hSame, hCode]
        rfl
      · simpa only [Function.update_of_ne hSame] using hNext }

theorem Orderly.settle (orderly : process.Orderly config permits) {call : Nat}
    {outcome : Except SigningError SubmitReceipt}
    {serializer : KeyedSerializer String SigningError SubmitReceipt}
    (hCode : process.code (.queued call) = some (Program.settle outcome))
    (hFinish : process.serializer.finish call outcome = some serializer) :
    Orderly config { process with serializer } permits := by
  obtain ⟨hCalls, hLog⟩ := KeyedSerializer.finish_eq_some hFinish
  have hStep : process.serializer.step (.finish call outcome) = some serializer := hFinish
  exact { orderly with
    serializer := .step orderly.serializer hStep
    calls := by simpa [hCalls] using orderly.calls
    keys := by simpa [hCalls] using orderly.keys
    started := by
      intro i hOpened
      rw [hLog]
      exact List.mem_cons_of_mem _ (orderly.started i hOpened)
    finished := by
      intro i other hFinished
      rw [hLog] at hFinished
      rcases List.mem_cons.mp hFinished with hNew | hOld
      · cases hNew
        exact hCode
      · exact orderly.finished i other hOld }

theorem Orderly.step (orderly : process.Orderly config permits) (permitted : permits action)
    (h : process.step config action = some after) : after.Orderly config permits := by
  cases step_cases h with
  | refused => exact orderly
  | queued hBegin => exact orderly.queue permitted hBegin
  | opened hBegin => exact orderly.begin permitted hBegin
  | started hDue hTask => exact orderly.start hDue
  | @calledBack derived handler outcome hDue hLog =>
      have hCallBack := step_callBack_of_due hDue
      exact { orderly with
        serializer := .step orderly.serializer hCallBack
        calls := by simp [orderly.calls]
        keys := by simpa using orderly.keys
        started := by simpa [hLog] using orderly.started
        finished := by simpa [hLog] using orderly.finished }
  | performed hCode => exact orderly.perform hCode _ _ _
  | settled hCode hFinish => exact orderly.settle hCode hFinish

/-- A section that is about to be opened has not been opened before. -/
theorem Orderly.code_of_due (orderly : process.Orderly config permits) {derived : PromiseName}
    {value : SubmitReceipt}
    (hDue : process.serializer.promises.due? derived = some (.task, .ok value)) :
    process.code (.queued derived.call) = none := by
  rw [← Option.not_isSome_iff_eq_none]
  exact fun hSome => orderly.serializer.not_started_of_due hDue (orderly.started _ hSome)

theorem Orderly.code_of_next (orderly : process.Orderly config permits) :
    process.code (.direct process.direct.length) = none := by
  rw [← Option.not_isSome_iff_eq_none]
  exact fun hSome => Nat.lt_irrefl _ (orderly.opened _ hSome)

theorem Reachable.orderly (h : Reachable config permits process) :
    process.Orderly config permits := by
  induction h with
  | initial => exact orderly_initial
  | step earlier permitted hStep ih => exact ih.step permitted hStep

section Follows

variable {State : Type} {P : Protocol SigningCall SigningCall.Answer SigningError State}
  {initial : State} {Q : ChainRequest → State → Except SigningError SubmitReceipt → Prop}

variable (process permits P initial Q) in
/-- What is left of every open section follows its protocol from where its calls
have led it. -/
structure Following : Prop where
  unopened : ∀ name, process.code name = none →
    P.after (fun _ => initial) process.history name = initial
  code : ∀ name program, process.code name = some program → ∃ call,
    process.request? name = some call ∧ permits (.request call) ∧
      program.Follows P (Q call) (P.after (fun _ => initial) process.history name)

omit [StellarSdk] in
/-- Later requests leave the sections of the earlier ones alone. -/
theorem request?_of_prefix {name : SectionName} {call : ChainRequest}
    (hQueued : process.queued <+: after.queued) (hDirect : process.direct <+: after.direct)
    (h : process.request? name = some call) : after.request? name = some call := by
  obtain ⟨laterQueued, hQueued⟩ := hQueued
  obtain ⟨laterDirect, hDirect⟩ := hDirect
  cases name with
  | queued i =>
      obtain ⟨entry, hEntry, rfl⟩ := Option.map_eq_some_iff.mp h
      refine Option.map_eq_some_iff.mpr ⟨entry, ?_, rfl⟩
      rw [← hQueued, List.getElem?_append_left (List.getElem?_eq_some_iff.mp hEntry).1]
      exact hEntry
  | direct i =>
      have hBound := (List.getElem?_eq_some_iff.mp h).1
      rw [request?, ← hDirect, List.getElem?_append_left hBound]
      exact h

omit [StellarSdk] in
/-- A section is opened at the start of its protocol. -/
theorem Following.opened (following : process.Following permits P initial Q) {name : SectionName}
    {call : ChainRequest} {program : SigningM SubmitReceipt} (hNew : process.code name = none)
    (hQueued : process.queued <+: after.queued) (hDirect : process.direct <+: after.direct)
    (hCode : after.code = Function.update process.code name (some program))
    (hHistory : after.history = process.history) (hCall : after.request? name = some call)
    (permitted : permits (.request call)) (hFollows : program.Follows P (Q call) initial) :
    after.Following permits P initial Q := by
  constructor
  · intro other hOther
    rw [hCode, Function.update_apply] at hOther
    split at hOther
    · cases hOther
    · rw [hHistory]
      exact following.unopened other hOther
  · intro other otherProgram hOther
    rw [hCode, Function.update_apply] at hOther
    rw [hHistory]
    split at hOther
    · rename_i hSame
      cases hOther
      refine ⟨call, hSame ▸ hCall, permitted, ?_⟩
      rw [hSame, following.unopened name hNew]
      exact hFollows
    · obtain ⟨earlier, hEarlier, hRest⟩ := following.code other otherProgram hOther
      exact ⟨earlier, request?_of_prefix hQueued hDirect hEarlier, hRest⟩

theorem Following.step (following : process.Following permits P initial Q)
    (orderly : process.Orderly config permits)
    (hBegin : ∀ call opened, permits (.request call) → config.begin call = .ok opened →
      opened.program.Follows P (Q call) initial)
    (permitted : permits action) (h : process.step config action = some after) :
    after.Following permits P initial Q := by
  cases step_cases h with
  | refused => exact following
  | @queued call publicKey task hCall =>
      refine ⟨following.unopened, fun name program hCode => ?_⟩
      obtain ⟨other, hOther, hRest⟩ := following.code name program hCode
      exact ⟨other, request?_of_prefix (List.prefix_append _ _) (List.prefix_refl _) hOther, hRest⟩
  | @opened call program hCall =>
      exact following.opened orderly.code_of_next (List.prefix_refl _) (List.prefix_append _ _) rfl rfl
        List.getElem?_concat_length permitted (hBegin call _ permitted hCall)
  | @started derived value call task hDue hTask =>
      obtain ⟨hPermitted, key, hCall⟩ := orderly.queued _ _ _ hTask
      refine following.opened (orderly.code_of_due hDue) (List.prefix_refl _) (List.prefix_refl _)
        rfl rfl ?_ hPermitted (hBegin call _ hPermitted hCall)
      exact Option.map_eq_some_iff.mpr ⟨_, hTask, rfl⟩
  | calledBack hDue hLog => exact ⟨following.unopened, following.code⟩
  | @performed decision name call next hCode =>
      constructor
      · intro other hOther
        simp only [Function.update_apply] at hOther
        split at hOther
        · cases hOther
        · rename_i hDiffer
          exact (P.after_cons_of_ne _ _ hDiffer).trans (following.unopened other hOther)
      · intro other program hOther
        simp only [Function.update_apply] at hOther
        split at hOther
        · rename_i hSame
          obtain ⟨request, hRequest, hPermitted, hFollows⟩ := following.code name _ hCode
          cases hOther
          subst hSame
          refine ⟨request, hRequest, hPermitted, ?_⟩
          rw [P.after_cons_self _ ⟨other, call, _⟩]
          exact hFollows.2 _
        · rename_i hDiffer
          obtain ⟨request, hRequest, hPermitted, hFollows⟩ := following.code other program hOther
          refine ⟨request, hRequest, hPermitted, ?_⟩
          rw [P.after_cons_of_ne _ _ hDiffer]
          exact hFollows
  | settled hCode hFinish => exact ⟨following.unopened, following.code⟩

/-- Whatever the others do, every section follows its protocol. -/
theorem Reachable.following (h : Reachable config permits process)
    (hBegin : ∀ call opened, permits (.request call) → config.begin call = .ok opened →
      opened.program.Follows P (Q call) initial) : process.Following permits P initial Q := by
  induction h with
  | initial => exact ⟨fun _ _ => rfl, by simp⟩
  | step earlier permitted hStep ih => exact ih.step earlier.orderly hBegin permitted hStep

end Follows

end SigningProcess

end Navin
