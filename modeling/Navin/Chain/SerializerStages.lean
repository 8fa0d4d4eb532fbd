import Navin.Chain.Serializer
import Mathlib.Data.List.Basic

/-! What the chained promises guarantee. Every call goes through six stages; the
promises and callbacks it owns are a function of its stage. A task only starts
once the call it is chained to has let go, so along a key the stages descend. -/
namespace Navin

open Async

/-- How far a call of `run` has come. -/
inductive Stage (Error Value : Type) where
  | queued
  | running
  | finished (outcome : Except Error Value)
  | returned (outcome : Except Error Value)
  | released (outcome : Except Error Value)
  | forgotten (outcome : Except Error Value)

namespace Stage

variable {Key Error Value : Type}

def rank : Stage Error Value → Nat
  | .queued => 0
  | .running => 1
  | .finished _ => 2
  | .returned _ => 3
  | .released _ => 4
  | .forgotten _ => 5

/-- What the task has settled to. -/
def outcome? : Stage Error Value → Option (Except Error Value)
  | .queued | .running => none
  | .finished outcome | .returned outcome | .released outcome | .forgotten outcome => some outcome

/-- The callbacks of a call in a stage. -/
def callback (key : Key) (previous : PromiseName) (call : Nat) (stage : Stage Error Value)
    (role : PromiseRole) : Option (Callback PromiseName (SerializerHandler Key)) :=
  match role with
  | .result =>
      if stage.rank = 0 then some ⟨previous, .task⟩
      else if stage.rank ≤ 2 then some ⟨⟨call, .task⟩, .adopt⟩
      else none
  | .tail => if stage.rank ≤ 3 then some ⟨⟨call, .result⟩, .swallow⟩ else none
  | .cleaned => if stage.rank ≤ 4 then some ⟨⟨call, .tail⟩, .cleanup key ⟨call, .tail⟩⟩ else none
  | .resolved | .task => none

/-- The promises of a call that have settled in a stage. -/
def settled [Inhabited Value] (stage : Stage Error Value) :
    PromiseRole → Option (Except Error Value)
  | .task => stage.outcome?
  | .result => if 3 ≤ stage.rank then stage.outcome? else none
  | .tail => if 4 ≤ stage.rank then some KeyedSerializer.undefined else none
  | .cleaned => if 5 ≤ stage.rank then some KeyedSerializer.undefined else none
  | .resolved => none

section Ranks

variable {stage : Stage Error Value} {outcome : Except Error Value}

theorem eq_queued_of_rank (h : stage.rank = 0) : stage = .queued := by
  cases stage <;> simp_all [rank]

theorem eq_finished_of_rank (h : stage.rank ≤ 2) (hOutcome : stage.outcome? = some outcome) :
    stage = .finished outcome := by
  cases stage <;> simp_all [rank, outcome?]

theorem eq_returned_of_rank (h : stage.rank = 3) (hOutcome : stage.outcome? = some outcome) :
    stage = .returned outcome := by
  cases stage <;> simp_all [rank, outcome?]

theorem eq_released_of_rank (h : stage.rank = 4) : ∃ outcome, stage = .released outcome := by
  cases stage <;> simp_all [rank]

theorem outcome?_isSome : stage.outcome?.isSome ↔ 2 ≤ stage.rank := by
  cases stage <;> simp [outcome?, rank]

end Ranks

end Stage

namespace KeyedSerializer

variable {Key Error Value : Type} [Inhabited Value]
  {serializer after : KeyedSerializer Key Error Value} {stage : Nat → Stage Error Value}
  {previous : Nat → PromiseName}

/-- The earlier calls of a key have let go. -/
def Clear (serializer : KeyedSerializer Key Error Value) (stage : Nat → Stage Error Value)
    (key : Key) (call : Nat) : Prop :=
  ∀ j < call, serializer.calls[j]? = some key → 4 ≤ (stage j).rank

/-- The promise a queued task is chained to. -/
inductive Chained (serializer : KeyedSerializer Key Error Value) (stage : Nat → Stage Error Value)
    (key : Key) (call : Nat) : PromiseName → Prop
  | idle (hClear : serializer.Clear stage key call)
      (hResolved : serializer.promises.outcome ⟨call, .resolved⟩ = some undefined) :
      Chained serializer stage key call ⟨call, .resolved⟩
  | behind {j : Nat} (hj : j < call) (hKey : serializer.calls[j]? = some key)
      (hLatest : ∀ k, j < k → k < call → serializer.calls[k]? ≠ some key) :
      Chained serializer stage key call ⟨j, .tail⟩

/-- The entry of a key: the tail of its latest call, until that is forgotten. -/
def Tail (serializer : KeyedSerializer Key Error Value) (stage : Nat → Stage Error Value)
    (key : Key) (tail : PromiseName) : Prop :=
  ∃ j, tail = ⟨j, .tail⟩ ∧ serializer.calls[j]? = some key ∧
    (∀ k, j < k → serializer.calls[k]? ≠ some key) ∧ (stage j).rank ≤ 4

theorem getElem?_concat {α : Type} (l : List α) (a : α) (i : Nat) :
    (l ++ [a])[i]? = if i = l.length then some a else l[i]? := by
  split
  · rename_i hLast
    rw [hLast, List.getElem?_concat_length]
  · rename_i hNe
    rcases Nat.lt_or_gt_of_ne hNe with hBelow | hAbove
    · rw [List.getElem?_append_left hBelow]
    · have hLength : (l ++ [a]).length ≤ i := by
        rw [List.length_append]
        exact hAbove
      rw [List.getElem?_eq_none hLength, List.getElem?_eq_none (Nat.le_of_lt hAbove)]

/-- Where a value occurs in a list, it occurs for a last time. -/
theorem exists_latest {α : Type} {l : List α} {a : α} {j : Nat} (h : l[j]? = some a) :
    ∃ m, j ≤ m ∧ l[m]? = some a ∧ ∀ k, m < k → l[k]? ≠ some a := by
  generalize hLeft : l.length - j = left
  induction left using Nat.strongRecOn generalizing j with
  | ind left ih =>
      by_cases hLater : ∃ k, j < k ∧ l[k]? = some a
      · obtain ⟨k, hk, hOccurs⟩ := hLater
        have hBound := (List.getElem?_eq_some_iff.mp hOccurs).1
        obtain ⟨m, hm, hLast⟩ := ih (l.length - k) (by omega) hOccurs rfl
        exact ⟨m, by omega, hLast⟩
      · exact ⟨j, Nat.le_refl j, h, fun k hk hOccurs => hLater ⟨k, hk, hOccurs⟩⟩

/-- Promises, callbacks, map and log fit the stages. -/
structure Fits (serializer : KeyedSerializer Key Error Value) (stage : Nat → Stage Error Value)
    (previous : Nat → PromiseName) : Prop where
  callback : ∀ i role, serializer.promises.callback ⟨i, role⟩ =
    (serializer.calls[i]?).bind fun key => (stage i).callback key (previous i) i role
  outcome : ∀ i role, role ≠ .resolved → serializer.promises.outcome ⟨i, role⟩ =
    (serializer.calls[i]?).bind fun _ => (stage i).settled role
  chained : ∀ i key, serializer.calls[i]? = some key → (stage i).rank = 0 →
    serializer.Chained stage key i (previous i)
  clear : ∀ i key, serializer.calls[i]? = some key → 1 ≤ (stage i).rank →
    serializer.Clear stage key i
  tails : ∀ key tail, serializer.tails key = some tail ↔ serializer.Tail stage key tail
  started : ∀ i, .started i ∈ serializer.log ↔
    ∃ key, serializer.calls[i]? = some key ∧ 1 ≤ (stage i).rank
  finished : ∀ i outcome, .finished i outcome ∈ serializer.log ↔
    ∃ key, serializer.calls[i]? = some key ∧ (stage i).outcome? = some outcome

section Advance

variable {i : Nat} {key : Key} {next : Stage Error Value}

omit [Inhabited Value] in
theorem rank_le_update (hRank : (stage i).rank < next.rank) (j : Nat) :
    (stage j).rank ≤ (Function.update stage i next j).rank := by
  rw [Function.update_apply]
  split
  · rename_i hSame
    rw [hSame]
    exact Nat.le_of_lt hRank
  · exact Nat.le_refl _

omit [Inhabited Value] in
theorem Clear.update (h : serializer.Clear stage key i) {j : Nat}
    (hCalls : after.calls = serializer.calls) (hRank : (stage j).rank < next.rank) :
    after.Clear (Function.update stage j next) key i := by
  intro k hk hKey
  rw [hCalls] at hKey
  exact Nat.le_trans (h k hk hKey) (rank_le_update hRank k)

omit [Inhabited Value] in
/-- Before a call is forgotten, its stage does not matter to the map. -/
theorem tail_update_iff (hOld : (stage i).rank ≤ 4) (hNext : next.rank ≤ 4)
    (hCalls : after.calls = serializer.calls) (key : Key) (tail : PromiseName) :
    after.Tail (Function.update stage i next) key tail ↔ serializer.Tail stage key tail := by
  have hRank (j : Nat) : (Function.update stage i next j).rank ≤ 4 ↔ (stage j).rank ≤ 4 := by
    rw [Function.update_apply]
    split
    · rename_i hSame
      rw [hSame]
      exact iff_of_true hNext hOld
    · rfl
  simp only [Tail, hCalls, hRank]

/-- One call moves on, and owns what it should own in its next stage. -/
theorem Fits.advance (fits : Fits serializer stage previous)
    (hKey : serializer.calls[i]? = some key) (hRank : (stage i).rank < next.rank)
    (hOutcome? : ∀ outcome, (stage i).outcome? = some outcome → next.outcome? = some outcome)
    (hCalls : after.calls = serializer.calls)
    (hCallback : ∀ name, after.promises.callback name =
      if name.call = i then next.callback key (previous i) i name.role
      else serializer.promises.callback name)
    (hOutcome : ∀ name, name.role ≠ .resolved → after.promises.outcome name =
      if name.call = i then next.settled name.role else serializer.promises.outcome name)
    (hResolved : ∀ j, after.promises.outcome ⟨j, .resolved⟩ =
      serializer.promises.outcome ⟨j, .resolved⟩)
    (hClear : serializer.Clear stage key i)
    (hTails : ∀ key tail, after.tails key = some tail ↔
      after.Tail (Function.update stage i next) key tail)
    (hStarted : ∀ j, .started j ∈ after.log ↔ .started j ∈ serializer.log ∨ j = i)
    (hFinished : ∀ j outcome, .finished j outcome ∈ after.log ↔
      .finished j outcome ∈ serializer.log ∨ j = i ∧ next.outcome? = some outcome) :
    Fits after (Function.update stage i next) previous := by
  constructor
  · intro j role
    rw [hCallback, hCalls]
    by_cases hSame : j = i
    · subst hSame
      simp [hKey]
    · simp [hSame, fits.callback]
  · intro j role hRole
    rw [hOutcome _ hRole, hCalls]
    by_cases hSame : j = i
    · subst hSame
      simp [hKey]
    · simp [hSame, fits.outcome j role hRole]
  · intro j other hOther hQueued
    rw [hCalls] at hOther
    have hStage : (stage j).rank = 0 := Nat.le_zero.mp (hQueued ▸ rank_le_update hRank j)
    have hChained := fits.chained j other hOther hStage
    generalize previous j = promise at hChained ⊢
    cases hChained with
    | idle hBefore hDone => exact .idle (hBefore.update hCalls hRank) ((hResolved j).trans hDone)
    | behind hLess hBefore hLatest =>
        exact .behind hLess (hCalls ▸ hBefore) fun k hk hk' => hCalls ▸ hLatest k hk hk'
  · intro j other hOther hStage
    rw [hCalls] at hOther
    by_cases hSame : j = i
    · subst hSame
      obtain rfl := Option.some.inj (hKey.symm.trans hOther)
      exact hClear.update hCalls hRank
    · rw [Function.update_of_ne hSame] at hStage
      exact (fits.clear j other hOther hStage).update hCalls hRank
  · exact hTails
  · intro j
    rw [hStarted, fits.started, hCalls]
    by_cases hSame : j = i
    · subst hSame
      have hLater : 1 ≤ next.rank := Nat.one_le_of_lt hRank
      simp [hKey, hLater]
    · simp [hSame]
  · intro j outcome
    rw [hFinished, fits.finished, hCalls]
    by_cases hSame : j = i
    · subst hSame
      simp only [hKey, Option.some.injEq, exists_eq_left', true_and, Function.update_self]
      exact or_iff_right_of_imp (hOutcome? outcome)
    · simp [hSame]

end Advance

/-- The callbacks that can be due, by the stage of their call. -/
inductive Due (serializer : KeyedSerializer Key Error Value) (stage : Nat → Stage Error Value)
    (key : Key) (i : Nat) : PromiseRole → SerializerHandler Key → Except Error Value → Prop
  | start (hStage : stage i = .queued) (hClear : serializer.Clear stage key i) :
      Due serializer stage key i .result .task undefined
  | adopt {outcome : Except Error Value} (hStage : stage i = .finished outcome) :
      Due serializer stage key i .result .adopt outcome
  | swallow {outcome : Except Error Value} (hStage : stage i = .returned outcome) :
      Due serializer stage key i .tail .swallow outcome
  | cleanup {outcome : Except Error Value} (hStage : stage i = .released outcome) :
      Due serializer stage key i .cleaned (.cleanup key ⟨i, .tail⟩) undefined

/-- A task is chained to a promise that is never rejected, and that is fulfilled
when all earlier tasks of the key have settled. -/
theorem Fits.clear_of_settled (fits : Fits serializer stage previous) {i : Nat} {key : Key}
    {outcome : Except Error Value} (hKey : serializer.calls[i]? = some key)
    (hStage : stage i = .queued) (hSettled : serializer.promises.outcome (previous i) = some outcome) :
    outcome = undefined ∧ serializer.Clear stage key i := by
  have hChained := fits.chained i key hKey (by rw [hStage]; rfl)
  generalize previous i = promise at hChained hSettled
  cases hChained with
  | idle hClear hResolved => exact ⟨Option.some.inj (hSettled.symm.trans hResolved), hClear⟩
  | @behind j hLess hBefore hLatest =>
      rw [fits.outcome j .tail (by simp), hBefore, Option.bind_some] at hSettled
      simp only [Stage.settled, Option.ite_none_right_eq_some, Option.some.injEq] at hSettled
      obtain ⟨hReleased, hOutcome⟩ := hSettled
      refine ⟨hOutcome.symm, fun k hk hOther => ?_⟩
      rcases Nat.lt_trichotomy k j with hBelow | rfl | hAbove
      · exact fits.clear j key hBefore (Nat.le_trans (by decide) hReleased) k hBelow hOther
      · exact hReleased
      · exact absurd hOther (hLatest k hAbove hk)

theorem Fits.due (fits : Fits serializer stage previous) {i : Nat} {role : PromiseRole}
    {handler : SerializerHandler Key} {outcome : Except Error Value}
    (h : serializer.promises.due? ⟨i, role⟩ = some (handler, outcome)) :
    ∃ key, serializer.calls[i]? = some key ∧ serializer.Due stage key i role handler outcome := by
  obtain ⟨on, hCallback, hOutcome⟩ := Promises.due?_eq_some_iff.mp h
  rw [fits.callback, Option.bind_eq_some_iff] at hCallback
  obtain ⟨key, hKey, hStage⟩ := hCallback
  refine ⟨key, hKey, ?_⟩
  cases role with
  | resolved => cases hStage
  | task => cases hStage
  | result =>
      simp only [Stage.callback] at hStage
      split at hStage
      · rename_i hQueued
        cases hStage
        have hFirst := Stage.eq_queued_of_rank hQueued
        obtain ⟨rfl, hClear⟩ := fits.clear_of_settled hKey hFirst hOutcome
        exact .start hFirst hClear
      · split at hStage
        · rename_i hStarted hEarly
          cases hStage
          rw [fits.outcome i .task (by simp), hKey, Option.bind_some] at hOutcome
          exact .adopt (Stage.eq_finished_of_rank hEarly hOutcome)
        · cases hStage
  | tail =>
      simp only [Stage.callback, Option.ite_none_right_eq_some] at hStage
      obtain ⟨hEarly, hCallback⟩ := hStage
      cases hCallback
      rw [fits.outcome i .result (by simp), hKey, Option.bind_some] at hOutcome
      simp only [Stage.settled, Option.ite_none_right_eq_some] at hOutcome
      exact .swallow (Stage.eq_returned_of_rank (Nat.le_antisymm hEarly hOutcome.1) hOutcome.2)
  | cleaned =>
      simp only [Stage.callback, Option.ite_none_right_eq_some] at hStage
      obtain ⟨hEarly, hCallback⟩ := hStage
      cases hCallback
      rw [fits.outcome i .tail (by simp), hKey, Option.bind_some] at hOutcome
      simp only [Stage.settled, Option.ite_none_right_eq_some, Option.some.injEq] at hOutcome
      obtain ⟨hLate, rfl⟩ := hOutcome
      obtain ⟨result, hReleased⟩ := Stage.eq_released_of_rank (Nat.le_antisymm hEarly hLate)
      exact .cleanup hReleased

section Steps

variable {i : Nat} {key : Key} {outcome : Except Error Value}

variable [DecidableEq Key] in
theorem Fits.start (fits : Fits serializer stage previous)
    (hKey : serializer.calls[i]? = some key) (hStage : stage i = .queued)
    (hClear : serializer.Clear stage key i) :
    Fits (serializer.handle ⟨i, .result⟩ .task undefined) (Function.update stage i .running)
      previous := by
  refine fits.advance hKey (by simp [hStage, Stage.rank]) (by simp [hStage, Stage.outcome?]) rfl
    ?_ ?_ (fun j => rfl) hClear ?_ ?_ ?_
  · rintro ⟨j, role⟩
    by_cases hSame : j = i
    · subst hSame
      cases role <;>
        simp [handle, undefined, fits.callback, hKey, hStage, Stage.callback, Stage.rank]
    · simp [handle, undefined, hSame]
  · rintro ⟨j, role⟩ hRole
    by_cases hSame : j = i
    · subst hSame
      cases role <;>
        simp_all [handle, undefined, fits.outcome, Stage.settled, Stage.rank, Stage.outcome?]
    · simp [handle, undefined, hSame]
  · intro other tail
    rw [tail_update_iff (by simp [hStage, Stage.rank]) (by simp [Stage.rank]) rfl]
    exact fits.tails other tail
  · intro j
    simp [handle, undefined, or_comm]
  · intro j outcome
    simp [handle, undefined, Stage.outcome?]

/-- A task that settles has been running. -/
theorem Fits.stage_of_running (fits : Fits serializer stage previous)
    (h : serializer.running i = true) :
    ∃ key, serializer.calls[i]? = some key ∧ stage i = .running := by
  unfold running at h
  split at h
  · rename_i on hCallback
    rw [fits.callback, Option.bind_eq_some_iff] at hCallback
    obtain ⟨key, hKey, hStage⟩ := hCallback
    rw [fits.outcome i .task (by simp), hKey, Option.bind_some] at h
    refine ⟨key, hKey, ?_⟩
    cases hCase : stage i <;>
      simp_all [Stage.callback, Stage.rank, Stage.settled, Stage.outcome?]
  · cases h

theorem Fits.finish (fits : Fits serializer stage previous)
    (hKey : serializer.calls[i]? = some key) (hStage : stage i = .running) :
    Fits { serializer with
      promises := serializer.promises.settle ⟨i, .task⟩ outcome
      log := .finished i outcome :: serializer.log } (Function.update stage i (.finished outcome))
      previous := by
  refine fits.advance hKey (by simp [hStage, Stage.rank]) (by simp [hStage, Stage.outcome?]) rfl
    ?_ ?_ (fun j => by simp) (fits.clear i key hKey (by simp [hStage, Stage.rank])) ?_ ?_ ?_
  · rintro ⟨j, role⟩
    by_cases hSame : j = i
    · subst hSame
      cases role <;> simp [fits.callback, hKey, hStage, Stage.callback, Stage.rank]
    · simp [hSame]
  · rintro ⟨j, role⟩ hRole
    by_cases hSame : j = i
    · subst hSame
      cases role <;> simp_all [fits.outcome, Stage.settled, Stage.rank, Stage.outcome?]
    · simp [hSame]
  · intro other tail
    rw [tail_update_iff (by simp [hStage, Stage.rank]) (by simp [Stage.rank]) rfl]
    exact fits.tails other tail
  · intro j
    have hStarted : .started i ∈ serializer.log :=
      (fits.started i).mpr ⟨key, hKey, by simp [hStage, Stage.rank]⟩
    simp only [List.mem_cons, reduceCtorEq, false_or]
    exact (or_iff_left_of_imp fun hSame => hSame ▸ hStarted).symm
  · intro j other
    simp [Stage.outcome?, or_comm, eq_comm]

/-- A callback of a started call runs, and settles the promise it is for. -/
theorem Fits.settles (fits : Fits serializer stage previous) {role : PromiseRole}
    {next : Stage Error Value} {result : Except Error Value}
    (hKey : serializer.calls[i]? = some key) (hStarted : 1 ≤ (stage i).rank)
    (hRank : (stage i).rank < next.rank) (hOutcome? : next.outcome? = (stage i).outcome?)
    (hRole : role ≠ .resolved) (hCalls : after.calls = serializer.calls)
    (hLog : after.log = serializer.log)
    (hPromises : after.promises =
      (serializer.promises.dismiss ⟨i, role⟩).settle ⟨i, role⟩ result)
    (hCallback : ∀ other, next.callback key (previous i) i other =
      if other = role then none else (stage i).callback key (previous i) i other)
    (hSettled : ∀ other, next.settled other =
      if other = role then some result else (stage i).settled other)
    (hTails : ∀ key tail, after.tails key = some tail ↔
      after.Tail (Function.update stage i next) key tail) :
    Fits after (Function.update stage i next) previous := by
  have hName (j : Nat) (other : PromiseRole) :
      (⟨j, other⟩ : PromiseName) = ⟨i, role⟩ ↔ j = i ∧ other = role := by simp
  refine fits.advance hKey hRank (fun _ h => hOutcome? ▸ h) hCalls ?_ ?_ ?_
    (fits.clear i key hKey hStarted) hTails ?_ ?_
  · rintro ⟨j, other⟩
    rw [hPromises, Promises.callback_settle, Promises.callback_dismiss, fits.callback]
    by_cases hSame : j = i
    · subst hSame
      simp [hKey, hCallback]
    · simp [hSame]
  · rintro ⟨j, other⟩ hOther
    rw [hPromises, Promises.outcome_settle, Promises.outcome_dismiss, fits.outcome j other hOther]
    by_cases hSame : j = i
    · subst hSame
      simp [hKey, hSettled]
    · simp [hSame]
  · intro j
    rw [hPromises, Promises.outcome_settle, Promises.outcome_dismiss, if_neg]
    rw [hName]
    exact fun h => hRole h.2.symm
  · intro j
    have hBefore : .started i ∈ serializer.log := (fits.started i).mpr ⟨key, hKey, hStarted⟩
    rw [hLog]
    exact (or_iff_left_of_imp fun hSame => hSame ▸ hBefore).symm
  · intro j outcome
    rw [hLog, hOutcome?]
    refine (or_iff_left_of_imp ?_).symm
    rintro ⟨rfl, hOutcome⟩
    exact (fits.finished j outcome).mpr ⟨key, hKey, hOutcome⟩

variable [DecidableEq Key] in
theorem Fits.adopt (fits : Fits serializer stage previous)
    (hKey : serializer.calls[i]? = some key) (hStage : stage i = .finished outcome) :
    Fits (serializer.handle ⟨i, .result⟩ .adopt outcome)
      (Function.update stage i (.returned outcome)) previous := by
  refine fits.settles hKey (by simp [hStage, Stage.rank]) (by simp [hStage, Stage.rank])
    (by simp [hStage, Stage.outcome?]) (by simp) rfl rfl rfl ?_ ?_ fun other tail => ?_
  · intro other
    cases other <;> simp [hStage, Stage.callback, Stage.rank]
  · intro other
    cases other <;> simp [hStage, Stage.settled, Stage.rank, Stage.outcome?]
  · rw [tail_update_iff (by simp [hStage, Stage.rank]) (by simp [Stage.rank]) rfl]
    exact fits.tails other tail

variable [DecidableEq Key] in
/-- A failure is swallowed here, so the next task starts all the same. -/
theorem Fits.swallow (fits : Fits serializer stage previous)
    (hKey : serializer.calls[i]? = some key) (hStage : stage i = .returned outcome) :
    Fits (serializer.handle ⟨i, .tail⟩ .swallow outcome)
      (Function.update stage i (.released outcome)) previous := by
  refine fits.settles hKey (by simp [hStage, Stage.rank]) (by simp [hStage, Stage.rank])
    (by simp [hStage, Stage.outcome?]) (by simp) rfl rfl rfl ?_ ?_ fun other tail => ?_
  · intro other
    cases other <;> simp [hStage, Stage.callback, Stage.rank]
  · intro other
    cases other <;> simp [hStage, Stage.settled, Stage.rank, Stage.outcome?]
  · rw [tail_update_iff (by simp [hStage, Stage.rank]) (by simp [Stage.rank]) rfl]
    exact fits.tails other tail

omit [Inhabited Value] in
/-- A forgotten call is no longer anybody's tail. -/
theorem tail_forgotten_iff {other : Key} {tail : PromiseName} :
    serializer.Tail (Function.update stage i (.forgotten outcome)) other tail ↔
      serializer.Tail stage other tail ∧ tail ≠ ⟨i, .tail⟩ := by
  simp only [Tail]
  constructor
  · rintro ⟨j, rfl, hKey, hLatest, hRank⟩
    by_cases hSame : j = i
    · subst hSame
      simp [Stage.rank] at hRank
    · rw [Function.update_of_ne hSame] at hRank
      exact ⟨⟨j, rfl, hKey, hLatest, hRank⟩, by simp [hSame]⟩
  · rintro ⟨⟨j, rfl, hKey, hLatest, hRank⟩, hNe⟩
    have hSame : j ≠ i := fun h => hNe (by rw [h])
    exact ⟨j, rfl, hKey, hLatest, by rwa [Function.update_of_ne hSame]⟩

variable [DecidableEq Key] in
/-- The cleanup only takes its own tail out of the map. -/
theorem Fits.cleanup (fits : Fits serializer stage previous)
    (hKey : serializer.calls[i]? = some key) (hStage : stage i = .released outcome) :
    Fits (serializer.handle ⟨i, .cleaned⟩ (.cleanup key ⟨i, .tail⟩) undefined)
      (Function.update stage i (.forgotten outcome)) previous := by
  refine fits.settles hKey (by simp [hStage, Stage.rank]) (by simp [hStage, Stage.rank])
    (by simp [hStage, Stage.outcome?]) (by simp) rfl rfl rfl ?_ ?_ fun other tail => ?_
  · intro other
    cases other <;> simp [hStage, Stage.callback, Stage.rank]
  · intro other
    cases other <;> simp [hStage, Stage.settled, Stage.rank, Stage.outcome?]
  · change _ ↔ serializer.Tail _ other tail
    rw [tail_forgotten_iff, ← fits.tails]
    have hOwn (other : Key) (h : serializer.tails other = some ⟨i, .tail⟩) : other = key := by
      obtain ⟨j, hName, hOther, -⟩ := (fits.tails other _).mp h
      cases hName
      exact Option.some.inj (hOther.symm.trans hKey)
    simp only [handle, undefined]
    split
    · rename_i hEntry
      rw [Function.update_apply]
      split
      · rename_i hSame
        subst hSame
        refine iff_of_false (by simp) fun h => h.2 ?_
        exact Option.some.inj (h.1.symm.trans hEntry)
      · rename_i hOther
        refine (and_iff_left_of_imp fun h hTail => hOther ?_).symm
        rw [hTail] at h
        exact hOwn other h
    · rename_i hEntry
      refine (and_iff_left_of_imp fun h hTail => hEntry ?_).symm
      rw [hTail] at h
      rwa [← hOwn other h]

/-- A key without an entry has no unfinished calls. -/
theorem Fits.clear_of_idle (fits : Fits serializer stage previous)
    (hIdle : serializer.tails key = none) : serializer.Clear stage key serializer.calls.length := by
  intro j _ hKey
  obtain ⟨m, hm, hLast, hLatest⟩ := exists_latest hKey
  have hGone : 4 < (stage m).rank := by
    by_contra hRank
    have hEntry := (fits.tails key ⟨m, .tail⟩).mpr ⟨m, rfl, hLast, hLatest, Nat.le_of_not_lt hRank⟩
    cases hIdle.symm.trans hEntry
  rcases Nat.lt_or_eq_of_le hm with hBelow | rfl
  · exact fits.clear m key hLast (Nat.le_trans (by decide) hGone) j hBelow hKey
  · exact Nat.le_of_lt hGone

omit [Inhabited Value] in
theorem Clear.enqueue {other : Key} {j : Nat} (h : serializer.Clear stage other j)
    (hCalls : after.calls = serializer.calls ++ [key]) (hj : j ≤ serializer.calls.length) :
    after.Clear (Function.update stage serializer.calls.length .queued) other j := by
  intro k hk hOther
  have hBefore : k ≠ serializer.calls.length := by omega
  rw [hCalls, getElem?_concat, if_neg hBefore] at hOther
  rw [Function.update_of_ne hBefore]
  exact h k hk hOther

theorem Chained.enqueue {other : Key} {j : Nat} {promise : PromiseName}
    (h : serializer.Chained stage other j promise)
    (hCalls : after.calls = serializer.calls ++ [key]) (hj : j < serializer.calls.length)
    (hResolved : after.promises.outcome ⟨j, .resolved⟩ =
      serializer.promises.outcome ⟨j, .resolved⟩) :
    after.Chained (Function.update stage serializer.calls.length .queued) other j promise := by
  have hOld {k : Nat} (hk : k < j) : after.calls[k]? = serializer.calls[k]? := by
    rw [hCalls, getElem?_concat, if_neg (by omega)]
  cases h with
  | idle hFree hDone =>
      exact .idle (hFree.enqueue hCalls (Nat.le_of_lt hj)) (hResolved.trans hDone)
  | behind hLess hFirst hLatest =>
      refine .behind hLess ((hOld hLess).trans hFirst) fun k hk hk' => ?_
      rw [hOld hk']
      exact hLatest k hk hk'

omit [Inhabited Value] in
/-- The key of a new call has its tail for an entry. -/
theorem tail_enqueue_self (hCalls : after.calls = serializer.calls ++ [key])
    (tail : PromiseName) :
    after.Tail (Function.update stage serializer.calls.length .queued) key tail ↔
      tail = ⟨serializer.calls.length, .tail⟩ := by
  have hKey : after.calls[serializer.calls.length]? = some key := by
    rw [hCalls, getElem?_concat, if_pos rfl]
  have hBound {k : Nat} (h : after.calls[k]? = some key) : k ≤ serializer.calls.length := by
    have hLess := (List.getElem?_eq_some_iff.mp h).1
    rw [hCalls, List.length_append] at hLess
    exact Nat.le_of_lt_succ hLess
  constructor
  · rintro ⟨j, rfl, hOther, hLatest, -⟩
    rcases Nat.lt_or_eq_of_le (hBound hOther) with hBelow | rfl
    · exact absurd hKey (hLatest _ hBelow)
    · rfl
  · rintro rfl
    exact ⟨_, rfl, hKey, fun k hk hLater => Nat.not_lt_of_le (hBound hLater) hk,
      by simp [Stage.rank]⟩

omit [Inhabited Value] in
theorem tail_enqueue_of_ne {other : Key} (hCalls : after.calls = serializer.calls ++ [key])
    (hOther : other ≠ key) (tail : PromiseName) :
    after.Tail (Function.update stage serializer.calls.length .queued) other tail ↔
      serializer.Tail stage other tail := by
  have hNew : serializer.calls[serializer.calls.length]? ≠ some other := by simp
  have hSame (k : Nat) : after.calls[k]? = some other ↔ serializer.calls[k]? = some other := by
    rw [hCalls, getElem?_concat]
    split
    · rename_i hLast
      rw [hLast]
      exact iff_of_false (fun h => hOther (Option.some.inj h).symm) hNew
    · rfl
  constructor
  · rintro ⟨j, rfl, hKey, hLatest, hRank⟩
    have hKey := (hSame j).mp hKey
    rw [Function.update_of_ne (Nat.ne_of_lt (List.getElem?_eq_some_iff.mp hKey).1)] at hRank
    exact ⟨j, rfl, hKey, fun k hk h => hLatest k hk ((hSame k).mpr h), hRank⟩
  · rintro ⟨j, rfl, hKey, hLatest, hRank⟩
    refine ⟨j, rfl, (hSame j).mpr hKey, fun k hk h => hLatest k hk ((hSame k).mp h), ?_⟩
    rwa [Function.update_of_ne (Nat.ne_of_lt (List.getElem?_eq_some_iff.mp hKey).1)]

/-- A new call joins the queue of its key. -/
theorem Fits.enqueue (fits : Fits serializer stage previous) (key : Key) (promise : PromiseName)
    (hCalls : after.calls = serializer.calls ++ [key]) (hLog : after.log = serializer.log)
    (hCallback : ∀ name, after.promises.callback name =
      if name.call = serializer.calls.length then
        Stage.callback key promise serializer.calls.length (.queued : Stage Error Value) name.role
      else serializer.promises.callback name)
    (hOutcome : ∀ name, name.role ≠ .resolved →
      after.promises.outcome name = serializer.promises.outcome name)
    (hResolved : ∀ j, j ≠ serializer.calls.length →
      after.promises.outcome ⟨j, .resolved⟩ = serializer.promises.outcome ⟨j, .resolved⟩)
    (hChained : after.Chained (Function.update stage serializer.calls.length .queued) key
      serializer.calls.length promise)
    (hTail : after.tails key = some ⟨serializer.calls.length, .tail⟩)
    (hTails : ∀ other, other ≠ key → after.tails other = serializer.tails other) :
    Fits after (Function.update stage serializer.calls.length .queued)
      (Function.update previous serializer.calls.length promise) := by
  have hNew : serializer.calls[serializer.calls.length]? = none := List.getElem?_eq_none (Nat.le_refl _)
  have hOld {j : Nat} (hj : j ≠ serializer.calls.length) : after.calls[j]? = serializer.calls[j]? := by
    rw [hCalls, getElem?_concat, if_neg hj]
  have hKey : after.calls[serializer.calls.length]? = some key := by
    rw [hCalls, getElem?_concat, if_pos rfl]
  constructor
  · intro i role
    rw [hCallback]
    by_cases hSame : i = serializer.calls.length
    · subst hSame
      simp [hKey]
    · simp [hSame, hOld hSame, fits.callback]
  · intro i role hRole
    rw [hOutcome _ hRole, fits.outcome i role hRole]
    by_cases hSame : i = serializer.calls.length
    · subst hSame
      rw [hNew, hKey, Option.bind_none, Option.bind_some, Function.update_self]
      cases role <;> simp [Stage.settled, Stage.rank, Stage.outcome?]
    · rw [hOld hSame, Function.update_of_ne hSame]
  · intro i other hOther hQueued
    by_cases hSame : i = serializer.calls.length
    · subst hSame
      obtain rfl := Option.some.inj (hKey.symm.trans hOther)
      rwa [Function.update_self]
    · rw [hOld hSame] at hOther
      rw [Function.update_of_ne hSame] at hQueued ⊢
      exact (fits.chained i other hOther hQueued).enqueue hCalls
        (List.getElem?_eq_some_iff.mp hOther).1 (hResolved i hSame)
  · intro i other hOther hStarted
    by_cases hSame : i = serializer.calls.length
    · subst hSame
      rw [Function.update_self] at hStarted
      cases hStarted
    · rw [hOld hSame] at hOther
      rw [Function.update_of_ne hSame] at hStarted
      exact (fits.clear i other hOther hStarted).enqueue hCalls
        (Nat.le_of_lt (List.getElem?_eq_some_iff.mp hOther).1)
  · intro other tail
    by_cases hSame : other = key
    · subst hSame
      rw [hTail, tail_enqueue_self hCalls, Option.some.injEq, eq_comm]
    · rw [hTails other hSame, fits.tails, tail_enqueue_of_ne hCalls hSame]
  · intro i
    rw [hLog, fits.started]
    by_cases hSame : i = serializer.calls.length
    · subst hSame
      simp [Stage.rank]
    · rw [hOld hSame, Function.update_of_ne hSame]
  · intro i outcome
    rw [hLog, fits.finished]
    by_cases hSame : i = serializer.calls.length
    · subst hSame
      simp [Stage.outcome?]
    · rw [hOld hSame, Function.update_of_ne hSame]

variable [DecidableEq Key] in
theorem Fits.run (fits : Fits serializer stage previous) (key : Key) :
    ∃ previous', Fits (serializer.run key).1
      (Function.update stage serializer.calls.length .queued) previous' := by
  have hNew (role : PromiseRole) :
      serializer.promises.callback ⟨serializer.calls.length, role⟩ = none := by
    rw [fits.callback, List.getElem?_eq_none (Nat.le_refl _), Option.bind_none]
  have hOwn (name : PromiseName) (hName : name.call ≠ serializer.calls.length) (role : PromiseRole) :
      name ≠ ⟨serializer.calls.length, role⟩ :=
    fun h => hName (congrArg PromiseName.call h)
  cases hEntry : serializer.tails key with
  | none =>
      refine ⟨_, fits.enqueue key ⟨serializer.calls.length, .resolved⟩ rfl rfl ?_ ?_ ?_ ?_ ?_ ?_⟩
      · rintro ⟨j, role⟩
        by_cases hSame : j = serializer.calls.length
        · subst hSame
          cases role <;> simp [KeyedSerializer.run, hEntry, hNew, Stage.callback, Stage.rank]
        · simp [KeyedSerializer.run, hEntry, hSame]
      · rintro ⟨j, role⟩ hRole
        simp_all [KeyedSerializer.run]
      · intro j hj
        simp [KeyedSerializer.run, hEntry, hj]
      · refine .idle ((fits.clear_of_idle hEntry).enqueue rfl (Nat.le_refl _)) ?_
        simp [KeyedSerializer.run, hEntry]
      · simp [KeyedSerializer.run]
      · intro other hOther
        simp [KeyedSerializer.run, Function.update_of_ne hOther]
  | some tail =>
      obtain ⟨j, rfl, hKey, hLatest, -⟩ := (fits.tails key tail).mp hEntry
      refine ⟨_, fits.enqueue key ⟨j, .tail⟩ rfl rfl ?_ ?_ ?_ ?_ ?_ ?_⟩
      · rintro ⟨k, role⟩
        by_cases hSame : k = serializer.calls.length
        · subst hSame
          cases role <;> simp [KeyedSerializer.run, hEntry, hNew, Stage.callback, Stage.rank]
        · simp [KeyedSerializer.run, hEntry, hSame]
      · rintro ⟨k, role⟩ hRole
        simp [KeyedSerializer.run, hEntry]
      · intro k hk
        simp [KeyedSerializer.run, hEntry]
      · have hBefore := (List.getElem?_eq_some_iff.mp hKey).1
        refine .behind hBefore ?_ fun k hk hk' => ?_
        · rw [KeyedSerializer.run, getElem?_concat, if_neg (Nat.ne_of_lt hBefore)]
          exact hKey
        · rw [KeyedSerializer.run, getElem?_concat, if_neg (Nat.ne_of_lt hk')]
          exact hLatest k hk
      · simp [KeyedSerializer.run]
      · intro other hOther
        simp [KeyedSerializer.run, Function.update_of_ne hOther]

variable [DecidableEq Key] in
/-- Every callback moves its call on by one stage. -/
theorem Fits.callBack (fits : Fits serializer stage previous) {derived : PromiseName}
    (h : serializer.callBack derived = some after) :
    ∃ i next, i < serializer.calls.length ∧ after.calls = serializer.calls ∧
      (stage i).rank < next.rank ∧ Fits after (Function.update stage i next) previous := by
  obtain ⟨⟨handler, outcome⟩, hDue, rfl⟩ := Option.map_eq_some_iff.mp h
  obtain ⟨i, role⟩ := derived
  obtain ⟨key, hKey, due⟩ := fits.due hDue
  have hCall : i < serializer.calls.length := (List.getElem?_eq_some_iff.mp hKey).1
  cases due with
  | start hStage hClear =>
      exact ⟨i, .running, hCall, rfl, by simp [hStage, Stage.rank], fits.start hKey hStage hClear⟩
  | adopt hStage =>
      exact ⟨i, _, hCall, rfl, by simp [hStage, Stage.rank], fits.adopt hKey hStage⟩
  | swallow hStage =>
      exact ⟨i, _, hCall, rfl, by simp [hStage, Stage.rank], fits.swallow hKey hStage⟩
  | cleanup hStage =>
      exact ⟨i, _, hCall, rfl, by simp [hStage, Stage.rank], fits.cleanup hKey hStage⟩

end Steps

/-- A task starts once, after the earlier tasks of its key have settled, and
settles once, after it has started. -/
structure OrderedLog (serializer : KeyedSerializer Key Error Value) : Prop where
  started : ∀ later i earlier, serializer.log = later ++ .started i :: earlier →
    .started i ∉ earlier ∧ ∃ key, serializer.calls[i]? = some key ∧
      ∀ j < i, serializer.calls[j]? = some key → ∃ outcome, .finished j outcome ∈ earlier
  finished : ∀ later i outcome earlier,
    serializer.log = later ++ .finished i outcome :: earlier →
      .started i ∈ earlier ∧ ∀ other, .finished i other ∉ earlier

section Logs

variable {i : Nat} {key : Key} {outcome : Except Error Value}

omit [Inhabited Value] in
/-- Calls that come later do not matter to what is in the log. -/
theorem OrderedLog.extend (h : serializer.OrderedLog) (hLog : after.log = serializer.log)
    (hCalls : ∀ j < serializer.calls.length, after.calls[j]? = serializer.calls[j]?) :
    after.OrderedLog := by
  constructor
  · intro later i earlier hSplit
    obtain ⟨hOnce, key, hKey, hBefore⟩ := h.started later i earlier (hLog ▸ hSplit)
    have hBound := (List.getElem?_eq_some_iff.mp hKey).1
    refine ⟨hOnce, key, (hCalls i hBound).trans hKey, fun j hj hOther => ?_⟩
    exact hBefore j hj ((hCalls j (Nat.lt_trans hj hBound)).symm.trans hOther)
  · exact fun later i outcome earlier hSplit => h.finished later i outcome earlier (hLog ▸ hSplit)

theorem OrderedLog.start (h : serializer.OrderedLog) (fits : Fits serializer stage previous)
    (hKey : serializer.calls[i]? = some key) (hStage : stage i = .queued)
    (hClear : serializer.Clear stage key i) (hCalls : after.calls = serializer.calls)
    (hLog : after.log = .started i :: serializer.log) : after.OrderedLog := by
  constructor
  · intro later j earlier hSplit
    rw [hLog] at hSplit
    rw [hCalls]
    cases later with
    | nil =>
        obtain ⟨hEvent, rfl⟩ := List.cons.inj hSplit
        cases hEvent
        refine ⟨fun hStarted => ?_, key, hKey, fun k hk hOther => ?_⟩
        · obtain ⟨_, -, hRank⟩ := (fits.started i).mp hStarted
          rw [hStage] at hRank
          cases hRank
        · have hSettled := Stage.outcome?_isSome.mpr
            (Nat.le_trans (by decide) (hClear k hk hOther))
          obtain ⟨outcome, hOutcome⟩ := Option.isSome_iff_exists.mp hSettled
          exact ⟨outcome, (fits.finished k outcome).mpr ⟨key, hOther, hOutcome⟩⟩
    | cons last later => exact h.started later j earlier (List.cons.inj hSplit).2
  · intro later j outcome earlier hSplit
    rw [hLog] at hSplit
    cases later with
    | nil => cases (List.cons.inj hSplit).1
    | cons last later => exact h.finished later j outcome earlier (List.cons.inj hSplit).2

theorem OrderedLog.finish (h : serializer.OrderedLog) (fits : Fits serializer stage previous)
    (hKey : serializer.calls[i]? = some key) (hStage : stage i = .running)
    (hCalls : after.calls = serializer.calls)
    (hLog : after.log = .finished i outcome :: serializer.log) : after.OrderedLog := by
  constructor
  · intro later j earlier hSplit
    rw [hLog] at hSplit
    rw [hCalls]
    cases later with
    | nil => cases (List.cons.inj hSplit).1
    | cons last later => exact h.started later j earlier (List.cons.inj hSplit).2
  · intro later j other earlier hSplit
    rw [hLog] at hSplit
    cases later with
    | nil =>
        obtain ⟨hEvent, rfl⟩ := List.cons.inj hSplit
        cases hEvent
        refine ⟨(fits.started i).mpr ⟨key, hKey, by simp [hStage, Stage.rank]⟩, fun result h => ?_⟩
        obtain ⟨_, -, hOutcome⟩ := (fits.finished i result).mp h
        rw [hStage] at hOutcome
        cases hOutcome
    | cons last later => exact h.finished later j other earlier (List.cons.inj hSplit).2

end Logs

variable [DecidableEq Key]

omit [DecidableEq Key] in
theorem fits_initial : Fits ({} : KeyedSerializer Key Error Value) (fun _ => .queued)
    (fun _ => ⟨0, .resolved⟩) := by
  constructor <;> simp [Promises.empty, Tail]

/-- Whatever happens next, the promises fit some stages again. -/
theorem Fits.step (fits : Fits serializer stage previous) (ordered : serializer.OrderedLog)
    {action : Action Key Error Value} (h : serializer.step action = some after) :
    ∃ stage previous, Fits after stage previous ∧ after.OrderedLog := by
  cases action with
  | run key =>
      obtain rfl := Option.some.inj h
      obtain ⟨previous', hFits⟩ := fits.run key
      refine ⟨_, previous', hFits, ordered.extend rfl fun j hj => ?_⟩
      exact List.getElem?_append_left hj
  | finish i outcome =>
      simp only [KeyedSerializer.step, KeyedSerializer.finish, Option.ite_none_right_eq_some,
        Option.some.injEq] at h
      obtain ⟨hRunning, rfl⟩ := h
      obtain ⟨key, hKey, hStage⟩ := fits.stage_of_running hRunning
      exact ⟨_, _, fits.finish hKey hStage, ordered.finish fits hKey hStage rfl rfl⟩
  | callBack derived =>
      obtain ⟨⟨handler, outcome⟩, hDue, rfl⟩ := Option.map_eq_some_iff.mp h
      obtain ⟨i, role⟩ := derived
      obtain ⟨key, hKey, due⟩ := fits.due hDue
      cases due with
      | start hStage hClear =>
          exact ⟨_, _, fits.start hKey hStage hClear,
            ordered.start fits hKey hStage hClear rfl rfl⟩
      | adopt hStage => exact ⟨_, _, fits.adopt hKey hStage, ordered.extend rfl fun _ _ => rfl⟩
      | swallow hStage => exact ⟨_, _, fits.swallow hKey hStage, ordered.extend rfl fun _ _ => rfl⟩
      | cleanup hStage => exact ⟨_, _, fits.cleanup hKey hStage, ordered.extend rfl fun _ _ => rfl⟩

theorem Reachable.fits (h : Reachable serializer) :
    ∃ stage previous, Fits serializer stage previous ∧ serializer.OrderedLog := by
  induction h with
  | initial => exact ⟨_, _, fits_initial, ⟨by simp, by simp⟩⟩
  | step _ hStep ih =>
      obtain ⟨stage, previous, fits, ordered⟩ := ih
      exact fits.step ordered hStep

end KeyedSerializer

end Navin
