import Mathlib.Data.Option.Basic
import Navin.Semantics.Timed

/-! Values that are kept under keys for a time. Calls write them and read them, and a call
that failed may have written or not. What is read was written by the last call that is known
to have written there, or by a failed one since. -/
namespace Async

section Values

variable {α : Type}

/-- A value, and when it expires. -/
structure Expiring (α : Type) where
  value : α
  expiresAt : Int

/-- What is there at a time. -/
def found (now : Int) (stored : Option (Expiring α)) : Option α :=
  (stored.filter (now < ·.expiresAt)).map (·.value)

theorem found_eq_some_iff {now : Int} {stored : Option (Expiring α)} {value : α} :
    found now stored = some value ↔
      ∃ expiresAt, stored = some ⟨value, expiresAt⟩ ∧ now < expiresAt := by
  cases stored with
  | none => simp [found]
  | some entry =>
      by_cases hAlive : now < entry.expiresAt
      · simp only [found, Option.filter_some, hAlive, decide_true, if_true, Option.map_some,
          Option.some.injEq]
        refine ⟨fun h => ⟨entry.expiresAt, by rw [← h], hAlive⟩, ?_⟩
        rintro ⟨expiresAt, rfl, -⟩
        rfl
      · simp only [found, Option.filter_some, hAlive, decide_false, Bool.false_eq_true, if_false,
          Option.map_none, reduceCtorEq, Option.some.injEq, false_iff, not_exists]
        rintro expiresAt ⟨rfl, hLater⟩
        exact hAlive hLater

/-- What a call does to a value that is kept. -/
inductive Write (α : Type) where
  | keep
  | remove
  | put (value : α) (ms : Int)

def Write.apply (now : Int) (stored : Option (Expiring α)) : Write α → Option (Expiring α)
  | .keep => stored
  | .remove => none
  | .put value ms => some ⟨value, now + ms⟩

end Values

variable {Call : Type} {Answer : Call → Type} {Error ι Result κ α : Type}
  {W : World Call Answer Error} [DecidableEq ι] {clock : W.Store → Int}

/-- How the calls of a world write and read expiring values. A call that is answered has
written, one that failed may have. -/
structure ExpiringValues (W : World Call Answer Error) (clock : W.Store → Int) (κ α : Type) where
  entries : W.Store → κ → Option (Expiring α)
  writes : Call → κ → Write α
  reads : (request : Call) → Answer request → κ → Option α
  written : ∀ env store request key,
    entries (W.perform env store request).1 key =
        (writes request key).apply (clock (W.perform env store request).1) (entries store key) ∨
      (∃ error, (W.perform env store request).2 = .error error) ∧
        entries (W.perform env store request).1 key = entries store key
  read : ∀ env store request answer key value,
    (W.perform env store request).2 = .ok answer → reads request answer key = some value →
      found (clock (W.perform env store request).1) (entries store key) = some value

variable (V : ExpiringValues W clock κ α)

/-- The event is known to have written under the key. -/
def ExpiringValues.Acknowledges (event : Event Call Answer Error ι) (key : κ) : Prop :=
  V.writes event.request key ≠ .keep ∧ ∃ answer, event.response = .ok answer

/-- The value was put under the key to stay for that long, and nothing is known to have been
written there since. -/
def ExpiringValues.PutLast (history : List (Int × Event Call Answer Error ι)) (key : κ)
    (value : α) (expiresAt : Int) : Prop :=
  ∃ newer put older ms, history = newer ++ put :: older ∧
    V.writes put.2.request key = .put value ms ∧ expiresAt = put.1 + ms ∧
    ∀ later ∈ newer, ¬V.Acknowledges later.2 key

variable {V} {start : Pool W ι Result} {point : TimedPoint W ι Result} {key : κ} {value : α}

/-- What is kept under a key was put there last. -/
theorem TimedRun.putLast (run : TimedRun clock start point)
    (hEmpty : V.entries start.store key = none) {expiresAt : Int}
    (hEntry : V.entries point.2.store key = some ⟨value, expiresAt⟩) :
    V.PutLast point.1 key value expiresAt := by
  induction run with
  | refl => cases hEmpty.symm.trans hEntry
  | @tail before after prior last ih =>
      obtain ⟨env, i, request, next, -, hHistory, hStore⟩ := last.cases
      rw [hStore] at hEntry
      rw [hHistory]
      have hKept (hSame : V.entries before.2.store key = some ⟨value, expiresAt⟩)
          (hQuiet : ¬V.Acknowledges
            (⟨i, request, (W.perform env before.2.store request).2⟩ :
              Event Call Answer Error ι) key) :
          V.PutLast ((clock (W.perform env before.2.store request).1,
            ⟨i, request, (W.perform env before.2.store request).2⟩) :: before.1) key value
              expiresAt := by
        obtain ⟨newer, put, older, ms, hSplit, hPut, hExpires, hSince⟩ := ih hSame
        refine ⟨_ :: newer, put, older, ms, by rw [hSplit, List.cons_append], hPut, hExpires, ?_⟩
        exact List.forall_mem_cons.mpr ⟨hQuiet, hSince⟩
      rcases V.written env before.2.store request key with hWritten | ⟨⟨error, hError⟩, hSame⟩
      · rw [hWritten] at hEntry
        cases hWrite : V.writes request key with
        | keep =>
            rw [hWrite] at hEntry
            exact hKept hEntry fun hAcknowledged => hAcknowledged.1 hWrite
        | remove =>
            rw [hWrite] at hEntry
            cases hEntry
        | put newValue ms =>
            rw [hWrite] at hEntry
            cases hEntry
            exact ⟨[], _, before.1, ms, rfl, hWrite, rfl, fun _ h => absurd h List.not_mem_nil⟩
      · rw [hSame] at hEntry
        refine hKept hEntry fun ⟨_, answer, hAnswer⟩ => ?_
        cases hError.symm.trans hAnswer

/-- What is read under a key was put there last, and has not expired. -/
theorem TimedRun.read_putLast (run : TimedRun clock start point)
    (hEmpty : V.entries start.store key = none)
    {newer older : List (Int × Event Call Answer Error ι)} {time : Int}
    {event : Event Call Answer Error ι} {answer : Answer event.request}
    (hSplit : point.1 = newer ++ (time, event) :: older) (hAnswer : event.response = .ok answer)
    (hRead : V.reads event.request answer key = some value) :
    ∃ expiresAt, V.PutLast older key value expiresAt ∧ time < expiresAt := by
  obtain ⟨before, env, i, request, next, prior, rfl, -, hEvent⟩ := run.stepAt hSplit
  cases hEvent
  obtain ⟨expiresAt, hEntry, hAlive⟩ :=
    found_eq_some_iff.mp (V.read env before.2.store request answer key value hAnswer hRead)
  exact ⟨expiresAt, prior.putLast hEmpty hEntry, hAlive⟩

/-- What is known to have been put under a key stays for its time, if it is only written
over by what stays as long. -/
theorem TimedRun.stays (run : TimedRun clock start point)
    (hClock : ∀ env store request, clock store ≤ clock (W.perform env store request).1)
    {newer older : List (Int × Event Call Answer Error ι)} {time : Int}
    {event : Event Call Answer Error ι} {answer : Answer event.request} {ms : Int}
    (hSplit : point.1 = newer ++ (time, event) :: older) (hAnswer : event.response = .ok answer)
    (hPut : V.writes event.request key = .put value ms)
    (hSince : ∀ later ∈ newer, V.writes later.2.request key = .keep ∨
      ∃ newValue, V.writes later.2.request key = .put newValue ms) :
    ∃ entry, V.entries point.2.store key = some entry ∧ time + ms ≤ entry.expiresAt := by
  induction run generalizing newer with
  | refl => exact absurd hSplit.symm (List.append_ne_nil_of_right_ne_nil _ (List.cons_ne_nil _ _))
  | @tail before after prior last ih =>
      have hTimes := (TimedRun.times (prior.tail last) hClock).1
      obtain ⟨env, i, request, next, -, hHistory, hStore⟩ := last.cases
      rw [hHistory] at hSplit hTimes
      rw [hStore]
      cases newer with
      | nil =>
          obtain ⟨hEvent, rfl⟩ := List.cons.inj hSplit
          cases hEvent
          rcases V.written env before.2.store request key with hWritten | ⟨⟨error, hError⟩, -⟩
          · rw [hWritten, hPut]
            exact ⟨_, rfl, Int.le_refl _⟩
          · cases hError.symm.trans hAnswer
      | cons latest rest =>
          obtain ⟨rfl, hRest⟩ := List.cons.inj hSplit
          obtain ⟨hLatest, hEarlier⟩ := List.forall_mem_cons.mp hSince
          obtain ⟨entry, hEntry, hExpires⟩ := ih hRest hEarlier
          have hTime : time ≤ clock (W.perform env before.2.store request).1 := by
            refine (List.pairwise_cons.mp hTimes).1 (time, event) ?_
            rw [hRest]
            exact List.mem_append_right rest List.mem_cons_self
          rcases V.written env before.2.store request key with hWritten | ⟨-, hSame⟩
          · rw [hWritten]
            rcases hLatest with hKeep | ⟨newValue, hPutAgain⟩
            · rw [hKeep]
              exact ⟨entry, hEntry, hExpires⟩
            · rw [hPutAgain]
              exact ⟨_, rfl, Int.add_le_add_right hTime ms⟩
          · rw [hSame]
            exact ⟨entry, hEntry, hExpires⟩

end Async
