import Navin.Semantics.Protocol

/-! What one event of a run brings about, and later ones keep, still holds at the end. The
property may speak of the events since. -/
namespace Async

variable {Call : Type} {Answer : Call → Type} {Error ι Result : Type}
  {W : World Call Answer Error} [DecidableEq ι] {guard : Guard W ι} {start : Pool W ι Result}
  {point : Point W ι Result} {newer older : List (Event Call Answer Error ι)}
  {event : Event Call Answer Error ι}

/-- Every event of a run is a step from where only the older events had happened. -/
theorem GuardedRun.stepAt (run : GuardedRun guard start point)
    (hSplit : point.1 = newer ++ event :: older) :
    ∃ before env i request next, GuardedRun guard start before ∧ before.1 = older ∧
      before.2.thread i = .call request next ∧
      event = ⟨i, request, (W.perform env before.2.store request).2⟩ := by
  induction run generalizing newer with
  | refl => exact absurd hSplit.symm (List.append_ne_nil_of_right_ne_nil _ (List.cons_ne_nil _ _))
  | @tail before after prior last ih =>
      obtain ⟨env, i, request, next, hThread, -, hHistory, -⟩ := last.cases
      rw [hHistory] at hSplit
      cases newer with
      | nil =>
          obtain ⟨hEvent, hOlder⟩ := List.cons.inj hSplit
          exact ⟨before, env, i, request, next, prior, hOlder, hThread, hEvent.symm⟩
      | cons latest rest => exact ih (List.cons.inj hSplit).2

/-- An element that is not in the older part stands in the newer one. -/
theorem split_of_notMem {α : Type} {middle older newer rest : List α} {x : α}
    (h : middle ++ older = newer ++ x :: rest) (hOlder : x ∉ older) :
    ∃ between, middle = newer ++ x :: between ∧ rest = between ++ older := by
  rcases List.append_eq_append_iff.mp h with ⟨extra, rfl, hRest⟩ | ⟨extra, rfl, hRest⟩
  · exact absurd (hRest ▸ List.mem_append_right _ List.mem_cons_self) hOlder
  · cases extra with
    | nil =>
        rw [List.nil_append] at hRest
        exact absurd (hRest ▸ List.mem_cons_self) hOlder
    | cons latest between =>
        obtain ⟨rfl, hBetween⟩ := List.cons.inj hRest
        exact ⟨between, rfl, hBetween⟩

/-- Steps only add to the history. -/
theorem GuardedSteps.history_append {before after : Point W ι Result}
    (steps : GuardedSteps guard before after) : ∃ newer, after.1 = newer ++ before.1 := by
  induction steps with
  | refl => exact ⟨[], rfl⟩
  | tail prior last ih =>
      obtain ⟨newer, hNewer⟩ := ih
      obtain ⟨env, i, request, next, -, -, hHistory, -⟩ := last.cases
      rw [hHistory, hNewer]
      exact ⟨_ :: newer, rfl⟩

/-- The rule for what holds since an event. -/
theorem GuardedRun.since (run : GuardedRun guard start point)
    (hSplit : point.1 = newer ++ event :: older)
    (Inv : List (Event Call Answer Error ι) → W.Store → Prop)
    (hEvent : ∀ env store, event.response = (W.perform env store event.request).2 →
      Inv [] (W.perform env store event.request).1)
    (hStep : ∀ since store env i request, Inv since store →
      Inv (⟨i, request, (W.perform env store request).2⟩ :: since)
        (W.perform env store request).1) :
    Inv newer point.2.store := by
  induction run generalizing newer with
  | refl => exact absurd hSplit.symm (List.append_ne_nil_of_right_ne_nil _ (List.cons_ne_nil _ _))
  | @tail before after prior last ih =>
      obtain ⟨env, i, request, next, -, -, hHistory, hStore⟩ := last.cases
      rw [hHistory] at hSplit
      rw [hStore]
      cases newer with
      | nil =>
          obtain ⟨rfl, -⟩ := List.cons.inj hSplit
          exact hEvent env before.2.store rfl
      | cons latest rest =>
          obtain ⟨rfl, hRest⟩ := List.cons.inj hSplit
          exact hStep rest before.2.store env i request (ih hRest)

/-! A register that some calls write. -/
section Registers

variable {V : Type} {writes : Call → Option V} {first value written : V}

/-- What a register may hold after a history, latest event first. A write that failed may have taken
effect. -/
inductive LastWrite (writes : Call → Option V) (first : V) :
    List (Event Call Answer Error ι) → V → Prop
  | initial : LastWrite writes first [] first
  | written {event : Event Call Answer Error ι} {older : List (Event Call Answer Error ι)} {value : V}
      (h : writes event.request = some value) : LastWrite writes first (event :: older) value
  | kept {event : Event Call Answer Error ι} {older : List (Event Call Answer Error ι)} {value : V}
      (prior : LastWrite writes first older value)
      (h : writes event.request = none ∨ ∃ error, event.response = .error error) :
      LastWrite writes first (event :: older) value

omit [DecidableEq ι] in
/-- An answered write that no later one follows is what the register holds. -/
theorem LastWrite.eq_written {answer : Answer event.request}
    (h : LastWrite writes first (newer ++ event :: older) value)
    (hWrites : writes event.request = some written) (hAnswered : event.response = .ok answer)
    (hNone : ∀ later ∈ newer, writes later.request = none) : value = written := by
  induction newer with
  | nil =>
      cases h with
      | written hValue => exact Option.some.inj (hValue.symm.trans hWrites)
      | kept prior hKept =>
          rcases hKept with hRead | ⟨error, hFailed⟩
          · cases hRead.symm.trans hWrites
          · cases hFailed.symm.trans hAnswered
  | cons latest rest ih =>
      obtain ⟨hLatest, hRest⟩ := List.forall_mem_cons.mp hNone
      cases h with
      | written hValue => cases hLatest.symm.trans hValue
      | kept prior _ => exact ih prior hRest

/-- The rule for registers: a call writes what it says, or it changes nothing and either does not
write or fails. -/
theorem GuardedRun.lastWrite (run : GuardedRun guard start point) (register : W.Store → V)
    (hPerform : ∀ env store request,
      writes request = some (register (W.perform env store request).1) ∨
        register (W.perform env store request).1 = register store ∧
          (writes request = none ∨ ∃ error, (W.perform env store request).2 = .error error)) :
    LastWrite writes (register start.store) point.1 (register point.2.store) := by
  induction run with
  | refl => exact .initial
  | tail prior last ih =>
      obtain ⟨env, i, request, next, -, -, hHistory, hStore⟩ := last.cases
      rw [hHistory, hStore]
      rcases hPerform env _ request with hWritten | ⟨hSame, hKept⟩
      · exact .written hWritten
      · rw [hSame]
        exact .kept ih hKept

end Registers

/-! What a thread knows of itself. -/
section Records

variable {State : Type} {C : State → Call → Prop} {state : ι → State}

/-- The calls of a thread and how they settled, latest first. -/
abbrev Record (Answer : Call → Type) (Error : Type) : Type :=
  List (Σ call : Call, Except Error (Answer call))

/-- A thread makes only calls of its kind, and remembers them all. -/
def recording (C : State → Call → Prop) :
    Protocol Call Answer Error (State × Record Answer Error) where
  allows s call := C s.1 call
  next s call response := (s.1, ⟨call, response⟩ :: s.2)

theorem after_recording (history : List (Event Call Answer Error ι)) (i : ι) :
    (recording C).after (fun j => (state j, [])) history i =
      (state i, (history.filter (·.thread = i)).map fun event => ⟨event.request, event.response⟩) := by
  induction history with
  | nil => rfl
  | cons event earlier ih =>
      by_cases hi : i = event.thread
      · subst hi
        rw [Protocol.after_cons_self, ih]
        simp [recording]
      · rw [Protocol.after_cons_of_ne _ _ _ hi, ih]
        simp [Ne.symm hi]

/-- What a thread remembers has happened. -/
theorem exists_event_of_record {history : List (Event Call Answer Error ι)} {i : ι} {call : Call}
    {response : Except Error (Answer call)}
    (h : ⟨call, response⟩ ∈ ((recording C).after (fun j => (state j, [])) history i).2) :
    ∃ newer older, history = newer ++ ⟨i, call, response⟩ :: older := by
  rw [after_recording] at h
  obtain ⟨⟨thread, request, answer⟩, hOwn, hSame⟩ := List.mem_map.mp h
  cases hSame
  obtain ⟨hMem, hThread⟩ := List.mem_filter.mp hOwn
  cases of_decide_eq_true hThread
  exact List.append_of_mem hMem

end Records

end Async
