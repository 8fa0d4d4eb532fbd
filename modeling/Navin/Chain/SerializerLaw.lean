import Navin.Chain.SerializerStages
import Mathlib.Algebra.Order.BigOperators.Group.Finset

/-! The law of the serializer: along a key one task at a time, in call order,
each exactly once and whatever its predecessors came to; nothing between keys;
and no trace of a key once its tasks are through. -/
namespace Navin.KeyedSerializer

open Async

variable {Key Error Value : Type} [Inhabited Value]
  {serializer after : KeyedSerializer Key Error Value} {stage : Nat → Stage Error Value}
  {previous : Nat → PromiseName}

/-- What holds of a serializer whose callbacks have all run. -/
structure QuietLaw (serializer : KeyedSerializer Key Error Value) : Prop where
  returned : ∀ i outcome, .finished i outcome ∈ serializer.log →
    serializer.promises.outcome ⟨i, .result⟩ = some outcome
  started : ∀ i key, serializer.calls[i]? = some key →
    (∀ j < i, serializer.calls[j]? = some key → ∃ outcome, .finished j outcome ∈ serializer.log) →
      .started i ∈ serializer.log
  tails : ∀ key, (serializer.tails key).isSome ↔
    ∃ i, serializer.calls[i]? = some key ∧ ∀ outcome, .finished i outcome ∉ serializer.log

variable [DecidableEq Key] in
structure Law (serializer : KeyedSerializer Key Error Value) : Prop where
  exclusive : ∀ i j key, serializer.calls[i]? = some key → serializer.calls[j]? = some key →
    serializer.Running i → serializer.Running j → i = j
  ordered : serializer.OrderedLog
  returned : ∀ i outcome, serializer.promises.outcome ⟨i, .result⟩ = some outcome →
    .finished i outcome ∈ serializer.log
  waits : ∀ i on, serializer.promises.callback ⟨i, .result⟩ = some ⟨on, .task⟩ →
    on = ⟨i, .resolved⟩ ∨ ∃ j < i, on = ⟨j, .tail⟩ ∧ serializer.calls[j]? = serializer.calls[i]?
  quiesces : ∀ names after, serializer.callBackAll names = some after →
    names.length ≤ 5 * serializer.calls.length
  quiet : serializer.promises.Quiet → serializer.QuietLaw

section Stages

variable {i : Nat} {key : Key}

theorem Fits.running_iff (fits : Fits serializer stage previous)
    (hKey : serializer.calls[i]? = some key) : serializer.Running i ↔ stage i = .running := by
  constructor
  · rintro ⟨hStarted, hUnsettled⟩
    obtain ⟨_, -, hRank⟩ := (fits.started i).mp hStarted
    have hNone : (stage i).outcome? = none := by
      rw [Option.eq_none_iff_forall_not_mem]
      exact fun outcome hOutcome =>
        hUnsettled outcome ((fits.finished i outcome).mpr ⟨key, hKey, hOutcome⟩)
    cases hStage : stage i <;> simp_all [Stage.rank, Stage.outcome?]
  · intro hStage
    refine ⟨(fits.started i).mpr ⟨key, hKey, by simp [hStage, Stage.rank]⟩, fun outcome h => ?_⟩
    obtain ⟨_, -, hOutcome⟩ := (fits.finished i outcome).mp h
    rw [hStage] at hOutcome
    cases hOutcome

theorem Fits.exclusive (fits : Fits serializer stage previous) {j : Nat}
    (hi : serializer.calls[i]? = some key) (hj : serializer.calls[j]? = some key)
    (hRunI : serializer.Running i) (hRunJ : serializer.Running j) : ¬i < j := by
  intro hLess
  rw [fits.running_iff hi] at hRunI
  rw [fits.running_iff hj] at hRunJ
  have hFree := fits.clear j key hj (by simp [hRunJ, Stage.rank]) i hLess hi
  simp [hRunI, Stage.rank] at hFree

/-- Once the callbacks have run, a call is queued, running or forgotten. -/
theorem Fits.quiet_stage (fits : Fits serializer stage previous)
    (hQuiet : serializer.promises.Quiet) (hKey : serializer.calls[i]? = some key) :
    stage i = .queued ∨ stage i = .running ∨ ∃ outcome, stage i = .forgotten outcome := by
  -- In the other stages a promise of the call has settled, and a callback of the call waits for it.
  have hPending (role waiting : PromiseRole) {handler : SerializerHandler Key}
      (hRole : role ≠ .resolved)
      (hWaits : (stage i).callback key (previous i) i waiting = some ⟨⟨i, role⟩, handler⟩) :
      (stage i).settled role = none := by
    have hCallback := fits.callback i waiting
    have hOutcome := fits.outcome i role hRole
    rw [hKey, Option.bind_some] at hCallback hOutcome
    rw [← hOutcome]
    exact hQuiet.outcome_eq_none (hCallback.trans hWaits)
  cases hStage : stage i with
  | queued => exact .inl rfl
  | running => exact .inr (.inl rfl)
  | forgotten outcome => exact .inr (.inr ⟨outcome, rfl⟩)
  | finished outcome =>
      rw [hStage] at hPending
      have hTask := hPending .task .result (by simp) rfl
      cases hTask
  | returned outcome =>
      rw [hStage] at hPending
      have hResult := hPending .result .tail (by simp) rfl
      cases hResult
  | released outcome =>
      rw [hStage] at hPending
      have hTail := hPending .tail .cleaned (by simp) rfl
      cases hTail

theorem Fits.quietLaw (fits : Fits serializer stage previous)
    (hQuiet : serializer.promises.Quiet) : serializer.QuietLaw where
  returned i outcome hFinished := by
    obtain ⟨key, hKey, hOutcome⟩ := (fits.finished i outcome).mp hFinished
    rw [fits.outcome i .result (by simp), hKey, Option.bind_some]
    rcases fits.quiet_stage hQuiet hKey with hStage | hStage | ⟨result, hStage⟩
    · rw [hStage] at hOutcome
      cases hOutcome
    · rw [hStage] at hOutcome
      cases hOutcome
    · rw [hStage] at hOutcome ⊢
      simpa [Stage.settled, Stage.rank] using hOutcome
  started i key hKey hBefore := by
    refine (fits.started i).mpr ⟨key, hKey, Nat.one_le_iff_ne_zero.mpr fun hQueued => ?_⟩
    have hCallback := fits.callback i .result
    rw [hKey, Option.bind_some, Stage.callback, if_pos hQueued] at hCallback
    have hWaiting := hQuiet.outcome_eq_none hCallback
    have hChained := fits.chained i key hKey hQueued
    generalize previous i = promise at hChained hWaiting
    cases hChained with
    | idle hClear hResolved => cases hWaiting.symm.trans hResolved
    | @behind j hLess hFirst hLatest =>
        obtain ⟨outcome, hFinished⟩ := hBefore j hLess hFirst
        obtain ⟨_, -, hOutcome⟩ := (fits.finished j outcome).mp hFinished
        rw [fits.outcome j .tail (by simp), hFirst, Option.bind_some] at hWaiting
        rcases fits.quiet_stage hQuiet hFirst with hStage | hStage | ⟨result, hStage⟩
        · rw [hStage] at hOutcome
          cases hOutcome
        · rw [hStage] at hOutcome
          cases hOutcome
        · rw [hStage] at hWaiting
          cases hWaiting
  tails key := by
    rw [Option.isSome_iff_exists]
    constructor
    · rintro ⟨tail, hTail⟩
      obtain ⟨j, -, hKey, -, hRank⟩ := (fits.tails key tail).mp hTail
      refine ⟨j, hKey, fun outcome hFinished => ?_⟩
      obtain ⟨_, -, hOutcome⟩ := (fits.finished j outcome).mp hFinished
      rcases fits.quiet_stage hQuiet hKey with hStage | hStage | ⟨result, hStage⟩
      · rw [hStage] at hOutcome
        cases hOutcome
      · rw [hStage] at hOutcome
        cases hOutcome
      · simp [hStage, Stage.rank] at hRank
    · rintro ⟨i, hKey, hUnfinished⟩
      cases hEntry : serializer.tails key with
      | some tail => exact ⟨tail, rfl⟩
      | none =>
          have hRank := fits.clear_of_idle hEntry i (List.getElem?_eq_some_iff.mp hKey).1 hKey
          have hSettled := Stage.outcome?_isSome.mpr (Nat.le_trans (by decide) hRank)
          obtain ⟨outcome, hOutcome⟩ := Option.isSome_iff_exists.mp hSettled
          exact absurd ((fits.finished i outcome).mpr ⟨key, hKey, hOutcome⟩) (hUnfinished outcome)

end Stages

section Callbacks

open Finset

/-- How many callbacks the calls can still have. -/
def callbacksLeft (stage : Nat → Stage Error Value) (calls : Nat) : Nat :=
  ∑ i ∈ range calls, (5 - (stage i).rank)

omit [Inhabited Value] in
theorem callbacksLeft_update {i calls : Nat} {next : Stage Error Value} (hCall : i < calls)
    (hRank : (stage i).rank < next.rank) :
    callbacksLeft (Function.update stage i next) calls < callbacksLeft stage calls := by
  have hBound : next.rank ≤ 5 := by cases next <;> simp [Stage.rank]
  refine sum_lt_sum (fun j _ => ?_) ⟨i, mem_range.mpr hCall, ?_⟩
  · exact Nat.sub_le_sub_left (rank_le_update hRank j) 5
  · rw [Function.update_self]
    omega

variable [DecidableEq Key]

theorem Fits.callBackAll_length (fits : Fits serializer stage previous) {names : List PromiseName}
    (h : serializer.callBackAll names = some after) :
    names.length ≤ callbacksLeft stage serializer.calls.length := by
  induction names generalizing serializer stage with
  | nil => exact Nat.zero_le _
  | cons derived rest ih =>
      obtain ⟨middle, hFirst, hRest⟩ := Option.bind_eq_some_iff.mp h
      obtain ⟨i, next, hCall, hCalls, hRank, hFits⟩ := fits.callBack hFirst
      have hLater := ih hFits hRest
      rw [hCalls] at hLater
      exact Nat.lt_of_le_of_lt hLater (callbacksLeft_update hCall hRank)

omit [Inhabited Value] in
theorem callbacksLeft_le (stage : Nat → Stage Error Value) (calls : Nat) :
    callbacksLeft stage calls ≤ 5 * calls := by
  have hSum : callbacksLeft stage calls ≤ ∑ _i ∈ range calls, 5 :=
    sum_le_sum fun i _ => Nat.sub_le _ _
  simpa [Nat.mul_comm] using hSum

end Callbacks

section Law

variable [DecidableEq Key]

theorem Reachable.exclusive (h : Reachable serializer) {i j : Nat} {key : Key}
    (hi : serializer.calls[i]? = some key) (hj : serializer.calls[j]? = some key)
    (hRunI : serializer.Running i) (hRunJ : serializer.Running j) : i = j := by
  obtain ⟨stage, previous, fits, -⟩ := h.fits
  exact Nat.le_antisymm (Nat.le_of_not_lt (fits.exclusive hj hi hRunJ hRunI))
    (Nat.le_of_not_lt (fits.exclusive hi hj hRunI hRunJ))

/-- What a call returns is what its task has come to. -/
theorem Reachable.finished_of_returned (h : Reachable serializer) {i : Nat}
    {outcome : Except Error Value}
    (hReturned : serializer.promises.outcome ⟨i, .result⟩ = some outcome) :
    .finished i outcome ∈ serializer.log := by
  obtain ⟨stage, previous, fits, -⟩ := h.fits
  rw [fits.outcome i .result (by simp), Option.bind_eq_some_iff] at hReturned
  obtain ⟨key, hKey, hSettled⟩ := hReturned
  simp only [Stage.settled, Option.ite_none_right_eq_some] at hSettled
  exact (fits.finished i outcome).mpr ⟨key, hKey, hSettled.2⟩

/-- Whatever calls, settlements and callbacks come in whatever order, the
serializer keeps its law. -/
theorem serializer_law (h : Reachable serializer) : serializer.Law := by
  obtain ⟨stage, previous, fits, ordered⟩ := h.fits
  refine ⟨fun _ _ _ => h.exclusive, ordered, fun _ _ => h.finished_of_returned, ?_, ?_,
    fits.quietLaw⟩
  · intro i on hWaits
    rw [fits.callback, Option.bind_eq_some_iff] at hWaits
    obtain ⟨key, hKey, hStage⟩ := hWaits
    simp only [Stage.callback] at hStage
    split at hStage
    · rename_i hQueued
      cases hStage
      have hChained := fits.chained i key hKey hQueued
      generalize previous i = promise at hChained ⊢
      cases hChained with
      | idle => exact .inl rfl
      | @behind j hLess hFirst hLatest => exact .inr ⟨j, hLess, rfl, hFirst.trans hKey.symm⟩
    · split at hStage <;> cases hStage
  · intro names after hNames
    exact Nat.le_trans (fits.callBackAll_length hNames) (callbacksLeft_le stage _)

/-- Only a task that has not started can be due. -/
theorem Reachable.not_started_of_due (h : Reachable serializer) {derived : PromiseName}
    {value : Value} (hDue : serializer.promises.due? derived = some (.task, .ok value)) :
    .started derived.call ∉ serializer.log := by
  obtain ⟨stage, previous, fits, -⟩ := h.fits
  obtain ⟨call, role⟩ := derived
  obtain ⟨key, -, hStage⟩ := fits.due hDue
  intro hStarted
  obtain ⟨_, -, hRank⟩ := (fits.started call).mp hStarted
  cases hStage with
  | start hQueued => simp [hQueued, Stage.rank] at hRank

/-- What has started has been called for. -/
theorem Reachable.call_of_started (h : Reachable serializer) {i : Nat}
    (hStarted : .started i ∈ serializer.log) : ∃ key, serializer.calls[i]? = some key := by
  obtain ⟨stage, previous, fits, -⟩ := h.fits
  obtain ⟨key, hKey, -⟩ := (fits.started i).mp hStarted
  exact ⟨key, hKey⟩

/-- What has finished has started. -/
theorem Reachable.started_of_finished (h : Reachable serializer) {i : Nat}
    {outcome : Except Error Value} (hFinished : .finished i outcome ∈ serializer.log) :
    .started i ∈ serializer.log := by
  obtain ⟨stage, previous, fits, -⟩ := h.fits
  obtain ⟨key, hKey, hOutcome⟩ := (fits.finished i outcome).mp hFinished
  have hRank := Stage.outcome?_isSome.mp (Option.isSome_of_eq_some hOutcome)
  exact (fits.started i).mpr ⟨key, hKey, Nat.le_trans (by decide) hRank⟩

theorem Reachable.trans {before : KeyedSerializer Key Error Value} (h : Reachable before)
    {actions : List (Action Key Error Value)}
    (hSteps : actions.foldlM KeyedSerializer.step before = some after) : Reachable after := by
  induction actions generalizing before with
  | nil =>
      obtain rfl := Option.some.inj hSteps
      exact h
  | cons action rest ih =>
      obtain ⟨middle, hFirst, hRest⟩ := Option.bind_eq_some_iff.mp hSteps
      exact ih (.step h hFirst) hRest

end Law

/-- The first of two tasks fails, and the second one starts. -/
theorem serializer_law_sample :
    ∃ serializer : KeyedSerializer Bool Nat Nat, Reachable serializer ∧ serializer.Running 1 ∧
      serializer.Law := by
  let actions : List (Action Bool Nat Nat) :=
    [.run true, .run true, .callBack ⟨0, .result⟩, .finish 0 (.error 7), .callBack ⟨0, .result⟩,
      .callBack ⟨0, .tail⟩, .callBack ⟨1, .result⟩]
  have hLog : (actions.foldlM step {}).map (·.log) =
      some [.started 1, .finished 0 (.error 7), .started 0] := by
    rfl
  obtain ⟨serializer, hSteps, hEvents⟩ := Option.map_eq_some_iff.mp hLog
  have hReachable := Reachable.initial.trans hSteps
  exact ⟨serializer, hReachable, by simp [Running, hEvents], serializer_law hReachable⟩

end Navin.KeyedSerializer
