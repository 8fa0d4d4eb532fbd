import Navin.Semantics.Protocol

/-! Runs whose events carry the time they were over. The clock is part of the store, so
how much time passes is a decision of the environment like any other. -/
namespace Async

variable {Call : Type} {Answer : Call → Type} {Error State ι Result : Type}
  {W : World Call Answer Error} [DecidableEq ι]

/-- A point of a timed run: the events so far, latest first, and the pool reached. -/
abbrev TimedPoint (W : World Call Answer Error) (ι Result : Type) : Type :=
  List (Int × Event Call Answer Error ι) × Pool W ι Result

variable (clock : W.Store → Int)

/-- One step, by any thread and under any decision of the environment. -/
def TimedStep (before after : TimedPoint W ι Result) : Prop :=
  ∃ env i event, before.2.step env i = some (event, after.2) ∧
    after.1 = (clock after.2.store, event) :: before.1

/-- Finitely many steps. -/
abbrev TimedRun (start : Pool W ι Result) : TimedPoint W ι Result → Prop :=
  Relation.ReflTransGen (TimedStep clock) ([], start)

/-- Finitely many steps from one point to a later one. -/
abbrev TimedSteps : TimedPoint W ι Result → TimedPoint W ι Result → Prop :=
  Relation.ReflTransGen (TimedStep clock)

variable {clock} {start : Pool W ι Result} {point : TimedPoint W ι Result}

/-- What a timed step from one point to the next consists of. -/
theorem TimedStep.cases {before after : TimedPoint W ι Result} (h : TimedStep clock before after) :
    ∃ env i request next, before.2.thread i = .call request next ∧
      after.1 = (clock (W.perform env before.2.store request).1,
        ⟨i, request, (W.perform env before.2.store request).2⟩) :: before.1 ∧
      after.2.store = (W.perform env before.2.store request).1 := by
  obtain ⟨env, i, event, hStep, hHistory⟩ := h
  obtain ⟨request, next, hThread, rfl, hStore, -⟩ := Pool.step_cases hStep
  rw [hStore] at hHistory
  exact ⟨env, i, request, next, hThread, hHistory, hStore⟩

/-- A timed run is a run, once the times are forgotten. -/
theorem TimedRun.erase (run : TimedRun clock start point) :
    GuardedRun anyStep start (point.1.map Prod.snd, point.2) := by
  induction run with
  | refl => exact .refl
  | tail prior last ih =>
      obtain ⟨env, i, event, hStep, hHistory⟩ := last
      refine ih.tail ⟨env, i, event, hStep, trivial, ?_⟩
      rw [hHistory, List.map_cons]

omit [DecidableEq ι] in
/-- An event that happened did so at some time. -/
theorem exists_stamped {history : List (Int × Event Call Answer Error ι)}
    {newer older : List (Event Call Answer Error ι)} {event : Event Call Answer Error ι}
    (h : history.map Prod.snd = newer ++ event :: older) :
    ∃ later time earlier, history = later ++ (time, event) :: earlier ∧
      earlier.map Prod.snd = older := by
  obtain ⟨later, rest, hSplit, -, hRest⟩ := List.map_eq_append_iff.mp h
  obtain ⟨⟨time, stamped⟩, earlier, rfl, rfl, hEarlier⟩ := List.map_eq_cons_iff.mp hRest
  exact ⟨later, time, earlier, hSplit, hEarlier⟩

/-- Every event of a run is a step from where only the older events had happened. -/
theorem TimedRun.stepAt (run : TimedRun clock start point)
    {newer older : List (Int × Event Call Answer Error ι)} {stamped : Int × Event Call Answer Error ι}
    (hSplit : point.1 = newer ++ stamped :: older) :
    ∃ before env i request next, TimedRun clock start before ∧ before.1 = older ∧
      before.2.thread i = .call request next ∧
      stamped = (clock (W.perform env before.2.store request).1,
        ⟨i, request, (W.perform env before.2.store request).2⟩) := by
  induction run generalizing newer with
  | refl => exact absurd hSplit.symm (List.append_ne_nil_of_right_ne_nil _ (List.cons_ne_nil _ _))
  | @tail before after prior last ih =>
      obtain ⟨env, i, request, next, hThread, hHistory, -⟩ := last.cases
      rw [hHistory] at hSplit
      cases newer with
      | nil =>
          obtain ⟨hEvent, hOlder⟩ := List.cons.inj hSplit
          exact ⟨before, env, i, request, next, prior, hOlder, hThread, hEvent.symm⟩
      | cons latest rest => exact ih (List.cons.inj hSplit).2

/-- A run passes the points before and after each of its events. -/
theorem TimedRun.passes (run : TimedRun clock start point)
    {newer older : List (Int × Event Call Answer Error ι)} {stamped : Int × Event Call Answer Error ι}
    (hSplit : point.1 = newer ++ stamped :: older) :
    ∃ before after, TimedRun clock start before ∧ before.1 = older ∧ TimedStep clock before after ∧
      after.1 = stamped :: older ∧ TimedSteps clock after point := by
  induction run generalizing newer with
  | refl => exact absurd hSplit.symm (List.append_ne_nil_of_right_ne_nil _ (List.cons_ne_nil _ _))
  | @tail before after prior last ih =>
      obtain ⟨env, i, event, hStep, hHistory⟩ := last
      rw [hHistory] at hSplit
      cases newer with
      | nil =>
          obtain ⟨rfl, rfl⟩ := List.cons.inj hSplit
          exact ⟨before, after, prior, rfl, ⟨env, i, event, hStep, hHistory⟩, hHistory, .refl⟩
      | cons latest rest =>
          obtain ⟨first, second, hFirst, hOlder, hBetween, hSecond, hLater⟩ :=
            ih (List.cons.inj hSplit).2
          exact ⟨first, second, hFirst, hOlder, hBetween, hSecond,
            hLater.tail ⟨env, i, event, hStep, hHistory⟩⟩

section Invariants

variable (P : Protocol Call Answer Error State) (initial : ι → State)
  {Q : ι → State → Except Error Result → Prop}

/-- The invariant rule for timed runs of programs that follow a protocol. -/
theorem TimedRun.invariant (run : TimedRun clock start point)
    (hStart : ∀ i, (start.thread i).Follows P (Q i) (initial i))
    (Inv : List (Int × Event Call Answer Error ι) → W.Store → Prop) (hInit : Inv [] start.store)
    (hStep : ∀ history store env i request, Inv history store →
      P.allows (P.after initial (history.map Prod.snd) i) request →
      Inv ((clock (W.perform env store request).1,
        ⟨i, request, (W.perform env store request).2⟩) :: history)
        (W.perform env store request).1) :
    Inv point.1 point.2.store := by
  induction run with
  | refl => exact hInit
  | tail prior last ih =>
      obtain ⟨env, i, request, next, hThread, hHistory, hStore⟩ := last.cases
      rw [hHistory, hStore]
      exact hStep _ _ env i request ih
        (GuardedRun.allows P initial (TimedRun.erase prior) hStart hThread)

/-- Every event of a run was allowed by what its thread had learned before. -/
theorem TimedRun.allowed (run : TimedRun clock start point)
    (hStart : ∀ i, (start.thread i).Follows P (Q i) (initial i))
    {newer older : List (Int × Event Call Answer Error ι)} {time : Int}
    {event : Event Call Answer Error ι} (hSplit : point.1 = newer ++ (time, event) :: older) :
    P.allows (P.after initial (older.map Prod.snd) event.thread) event.request := by
  obtain ⟨before, env, i, request, next, prior, rfl, hThread, hEvent⟩ := run.stepAt hSplit
  cases hEvent
  exact GuardedRun.allows P initial (TimedRun.erase prior) hStart hThread

/-- The invariant rule for timed runs of programs of a known footprint. -/
theorem TimedRun.invariant_of_uses (run : TimedRun clock start point) {C : ι → Call → Prop}
    (hStart : ∀ i, (start.thread i).Uses (C i))
    (Inv : List (Int × Event Call Answer Error ι) → W.Store → Prop) (hInit : Inv [] start.store)
    (hStep : ∀ history store env i request, Inv history store → C i request →
      Inv ((clock (W.perform env store request).1,
        ⟨i, request, (W.perform env store request).2⟩) :: history)
        (W.perform env store request).1) :
    Inv point.1 point.2.store := by
  let P : Protocol Call Answer Error ι := ⟨C, fun i _ _ => i⟩
  have hStays (history : List (Event Call Answer Error ι)) (i : ι) : P.after id history i = i := by
    induction history generalizing i with
    | nil => rfl
    | cons event earlier ih =>
        by_cases hi : i = event.thread
        · subst hi
          rw [P.after_cons_self]
          exact ih event.thread
        · rw [P.after_cons_of_ne _ _ hi]
          exact ih i
  refine TimedRun.invariant P id run
    (fun i => (hStart i).follows fun request hCall => ⟨hCall, fun _ => rfl⟩) Inv hInit
    fun history store env i request hInv hAllowed => hStep history store env i request hInv ?_
  rw [hStays] at hAllowed
  exact hAllowed

/-- The times of a run follow the clock, if the clock does not go back. -/
theorem TimedRun.times (run : TimedRun clock start point)
    (hClock : ∀ env store request, clock store ≤ clock (W.perform env store request).1) :
    (point.1.Pairwise fun later earlier => earlier.1 ≤ later.1) ∧
      ∀ stamped ∈ point.1, clock start.store ≤ stamped.1 ∧ stamped.1 ≤ clock point.2.store := by
  suffices h : clock start.store ≤ clock point.2.store ∧
      (point.1.Pairwise fun later earlier => earlier.1 ≤ later.1) ∧
      ∀ stamped ∈ point.1, clock start.store ≤ stamped.1 ∧ stamped.1 ≤ clock point.2.store from h.2
  induction run with
  | refl => exact ⟨Int.le_refl _, .nil, fun _ h => absurd h List.not_mem_nil⟩
  | @tail before after prior last ih =>
      obtain ⟨env, i, request, next, hThread, hHistory, hStore⟩ := last.cases
      obtain ⟨hStarted, hSorted, hBounds⟩ := ih
      have hNow := hClock env before.2.store request
      rw [hHistory, hStore]
      refine ⟨Int.le_trans hStarted hNow, List.pairwise_cons.mpr ⟨fun earlier hEarlier => ?_, hSorted⟩, ?_⟩
      · exact Int.le_trans (hBounds earlier hEarlier).2 hNow
      · refine List.forall_mem_cons.mpr ⟨⟨Int.le_trans hStarted hNow, Int.le_refl _⟩, fun stamped h => ?_⟩
        exact ⟨(hBounds stamped h).1, Int.le_trans (hBounds stamped h).2 hNow⟩

/-- What had happened before an event had done so earlier, if the clock does not go back. -/
theorem TimedRun.earlier (run : TimedRun clock start point)
    (hClock : ∀ env store request, clock store ≤ clock (W.perform env store request).1)
    {newer older : List (Int × Event Call Answer Error ι)}
    {stamped before : Int × Event Call Answer Error ι} (hSplit : point.1 = newer ++ stamped :: older)
    (hBefore : before ∈ older) : before.1 ≤ stamped.1 := by
  have hTimes := (TimedRun.times run hClock).1
  rw [hSplit, List.pairwise_append, List.pairwise_cons] at hTimes
  exact hTimes.2.1.1 before hBefore

end Invariants

variable (clock) in
/-- Run a fixed schedule: which thread goes next and what the environment decides. -/
def Pool.runTimed : List (W.Env × ι) → TimedPoint W ι Result → Option (TimedPoint W ι Result)
  | [], point => some point
  | (env, i) :: rest, (history, pool) =>
      match pool.step env i with
      | none => none
      | some (event, pool') => runTimed rest ((clock pool'.store, event) :: history, pool')

theorem Pool.runTimed_steps {schedule : List (W.Env × ι)} {before after : TimedPoint W ι Result}
    (h : runTimed clock schedule before = some after) :
    Relation.ReflTransGen (TimedStep clock) before after := by
  induction schedule generalizing before with
  | nil =>
      simp only [runTimed, Option.some.injEq] at h
      exact h ▸ .refl
  | cons choice rest ih =>
      obtain ⟨env, i⟩ := choice
      obtain ⟨history, pool⟩ := before
      simp only [runTimed] at h
      split at h
      · cases h
      · rename_i event pool' hStep
        exact .head ⟨env, i, event, hStep, rfl⟩ (ih h)

/-- A timed run whose last point passes a test, found by following a schedule. -/
theorem Pool.exists_timedRun (clock : W.Store → Int) (start : Pool W ι Result)
    (test : TimedPoint W ι Result → Bool) (schedule : List (W.Env × ι))
    (h : (runTimed clock schedule ([], start)).any test = true) :
    ∃ point, TimedRun clock start point ∧ test point = true := by
  rw [Option.any_eq_true] at h
  obtain ⟨point, hRun, hTest⟩ := h
  exact ⟨point, runTimed_steps hRun, hTest⟩

end Async
