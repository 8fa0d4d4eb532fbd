import Navin.Semantics.Interleaving

/-! A protocol says which calls a program may make next, given what it has
called and been answered so far. A program that follows a protocol does so in
every interleaving, so an invariant of the store can be proved from the
protocol alone, without looking at the program again. -/
namespace Async

variable {Call : Type} {Answer : Call → Type} {Error State α β : Type}

/-- An automaton over calls and responses. It remembers what a thread has
learned; it constrains no response. -/
structure Protocol (Call : Type) (Answer : Call → Type) (Error State : Type) where
  allows : State → Call → Prop
  next : State → (request : Call) → Except Error (Answer request) → State

/-- A call that the protocol is not about: allowed in every state, and none is left by it. -/
def Protocol.Ignores (P : Protocol Call Answer Error State) (request : Call) : Prop :=
  ∀ s, P.allows s request ∧ ∀ response, P.next s request response = s

/-- Every call of the program is allowed when it is made, whatever the
responses, and the program ends in a state and outcome satisfying `Q`. -/
def Program.Follows (P : Protocol Call Answer Error State) (Q : State → Except Error α → Prop) :
    State → Program Call Answer Error α → Prop
  | s, .done a => Q s (.ok a)
  | s, .fail e => Q s (.error e)
  | s, .call request next =>
      P.allows s request ∧ ∀ response, (next response).Follows P Q (P.next s request response)

theorem forall_except {p : Except Error α → Prop} :
    (∀ outcome, p outcome) ↔ (∀ e, p (.error e)) ∧ ∀ a, p (.ok a) := by
  refine ⟨fun h => ⟨fun e => h _, fun a => h _⟩, fun h outcome => ?_⟩
  cases outcome with
  | error e => exact h.1 e
  | ok a => exact h.2 a

namespace Program

variable {P : Protocol Call Answer Error State} {Q R : State → Except Error α → Prop} {s : State}

@[simp] theorem follows_done {a : α} :
    (Program.done a : Program Call Answer Error α).Follows P Q s ↔ Q s (.ok a) := Iff.rfl

@[simp] theorem follows_fail {e : Error} :
    (Program.fail e : Program Call Answer Error α).Follows P Q s ↔ Q s (.error e) := Iff.rfl

@[simp] theorem follows_pure {a : α} :
    (pure a : Program Call Answer Error α).Follows P Q s ↔ Q s (.ok a) := Iff.rfl

@[simp] theorem follows_throw {e : Error} :
    (throw e : Program Call Answer Error α).Follows P Q s ↔ Q s (.error e) := Iff.rfl

theorem follows_await {request : Call} {Q : State → Except Error (Answer request) → Prop} :
    (await request).Follows P Q s ↔
      P.allows s request ∧ ∀ response, Q (P.next s request response) response := by
  refine and_congr_right fun _ => forall_congr' fun response => ?_
  cases response <;> rfl

/-- What remains to be shown of a continuation once its first part has settled. -/
def Then (f : α → Program Call Answer Error β) (R : State → Except Error β → Prop) :
    State → Except Error α → Prop
  | s, .ok a => (f a).Follows P R s
  | s, .error e => R s (.error e)

/-- What remains to be shown of a protected program once it has settled. -/
def Caught (handler : Error → Program Call Answer Error α) (Q : State → Except Error α → Prop) :
    State → Except Error α → Prop
  | s, .ok a => Q s (.ok a)
  | s, .error e => (handler e).Follows P Q s

@[simp] theorem then_ok (f : α → Program Call Answer Error β) (R : State → Except Error β → Prop)
    (s : State) (a : α) : Then (P := P) f R s (.ok a) ↔ (f a).Follows P R s := Iff.rfl

@[simp] theorem then_error (f : α → Program Call Answer Error β)
    (R : State → Except Error β → Prop) (s : State) (e : Error) :
    Then (P := P) f R s (.error e) ↔ R s (.error e) := Iff.rfl

@[simp] theorem caught_ok (handler : Error → Program Call Answer Error α)
    (Q : State → Except Error α → Prop) (s : State) (a : α) :
    Caught (P := P) handler Q s (.ok a) ↔ Q s (.ok a) := Iff.rfl

@[simp] theorem caught_error (handler : Error → Program Call Answer Error α)
    (Q : State → Except Error α → Prop) (s : State) (e : Error) :
    Caught (P := P) handler Q s (.error e) ↔ (handler e).Follows P Q s := Iff.rfl

@[simp] theorem follows_bind {p : Program Call Answer Error α} {f : α → Program Call Answer Error β}
    {R : State → Except Error β → Prop} :
    (p >>= f).Follows P R s ↔ p.Follows P (Then (P := P) f R) s := by
  rw [bind_def]
  induction p generalizing s with
  | done a => rfl
  | fail e => rfl
  | call request next ih => simp only [bind_call, Follows, ih]

@[simp] theorem follows_tryCatch {p : Program Call Answer Error α}
    {handler : Error → Program Call Answer Error α} :
    (tryCatch p handler).Follows P Q s ↔ p.Follows P (Caught (P := P) handler Q) s := by
  change (p.tryCatch handler).Follows P Q s ↔ _
  induction p generalizing s with
  | done a => rfl
  | fail e => rfl
  | call request next ih => simp only [Program.tryCatch, Follows, ih]

/-- The rule of consequence. -/
theorem Follows.mono {p : Program Call Answer Error α} (h : p.Follows P Q s)
    (hQ : ∀ s outcome, Q s outcome → R s outcome) : p.Follows P R s := by
  induction p generalizing s with
  | done a => exact hQ _ _ h
  | fail e => exact hQ _ _ h
  | call request next ih => exact ⟨h.1, fun response => ih response (h.2 response)⟩

/-- Sequencing from a summary of the first part. -/
theorem Follows.bind {p : Program Call Answer Error α} {f : α → Program Call Answer Error β}
    {R : State → Except Error β → Prop} (h : p.Follows P Q s)
    (hOk : ∀ s a, Q s (.ok a) → (f a).Follows P R s)
    (hError : ∀ s e, Q s (.error e) → R s (.error e)) : (p >>= f).Follows P R s := by
  rw [follows_bind]
  refine h.mono fun s outcome hQ => ?_
  cases outcome with
  | ok a => exact hOk s a hQ
  | error e => exact hError s e hQ

/-- One call and what follows it, when a refusal ends the program. -/
theorem Follows.await_bind {request : Call} {f : Answer request → Program Call Answer Error β}
    {R : State → Except Error β → Prop} (hAllows : P.allows s request)
    (hError : ∀ e, R (P.next s request (.error e)) (.error e))
    (hOk : ∀ answer, (f answer).Follows P R (P.next s request (.ok answer))) :
    (await request >>= f).Follows P R s := by
  refine follows_bind.mpr (follows_await.mpr ⟨hAllows, fun response => ?_⟩)
  cases response with
  | error e => exact hError e
  | ok answer => exact hOk answer

/-- Protection from a summary of the protected part. -/
theorem Follows.tryCatch {p : Program Call Answer Error α}
    {handler : Error → Program Call Answer Error α} (h : p.Follows P Q s)
    (hOk : ∀ s a, Q s (.ok a) → R s (.ok a))
    (hError : ∀ s e, Q s (.error e) → (handler e).Follows P R s) :
    (MonadExcept.tryCatch p handler).Follows P R s := by
  refine follows_tryCatch.mpr (h.mono fun s outcome hQ => ?_)
  cases outcome with
  | ok a => exact hOk s a hQ
  | error e => exact hError s e hQ

/-- The outcome of a protected program as a value. -/
theorem Follows.settled {p : Program Call Answer Error α} (h : p.Follows P Q s) :
    (MonadExcept.tryCatch (Except.ok <$> p) fun error => return .error error :
      Program Call Answer Error (Except Error α)).Follows P
        (fun after outcome => ∃ a, outcome = .ok a ∧ Q after a) s := by
  have hMapped : (Except.ok <$> p : Program Call Answer Error (Except Error α)).Follows P
      (fun after outcome => Q after (outcome.bind id)) s := by
    rw [map_eq_pure_bind]
    exact h.bind (fun after a hQ => hQ) fun after e hQ => hQ
  exact hMapped.tryCatch (fun after a hQ => ⟨a, rfl, hQ⟩) fun after e hQ => ⟨.error e, rfl, hQ⟩

/-- What `Promise.all` of two operations calls. -/
theorem Uses.promiseAll {C : Call → Prop} {first : Program Call Answer Error α}
    {second : Program Call Answer Error β} (hFirst : first.Uses C) (hSecond : second.Uses C) :
    (Async.promiseAll first second).Uses C := by
  have hSettled {γ : Type} {p : Program Call Answer Error γ} (h : p.Uses C) :
      (MonadExcept.tryCatch (Except.ok <$> p) fun error => return .error error :
        Program Call Answer Error (Except Error γ)).Uses C := by
    rw [map_eq_pure_bind]
    exact (h.bind fun _ => .pure).tryCatch fun _ => .pure
  refine (hSettled hFirst).bind fun a => (hSettled hSecond).bind fun b => ?_
  cases a with
  | error error => exact .throw
  | ok a =>
      cases b with
      | error error => exact .throw
      | ok b => exact .pure

/-- `Promise.all` from summaries of both operations, the second one issued whatever the
outcome of the first. -/
theorem Follows.promiseAll {first : Program Call Answer Error α}
    {second : Program Call Answer Error β} {T : Except Error α → State → Except Error β → Prop}
    {R : State → Except Error (α × β) → Prop} (hFirst : first.Follows P Q s)
    (hSecond : ∀ s a, Q s a → second.Follows P (T a) s)
    (hBoth : ∀ s a b, T a s b → R s (a.bind fun a => b.map fun b => (a, b))) :
    (Async.promiseAll first second).Follows P R s := by
  refine hFirst.settled.bind (fun after a hA => ?_) fun after e hNone => ?_
  · obtain ⟨_, ⟨⟩, hQ⟩ := hA
    refine (hSecond after a hQ).settled.bind (fun last b hB => ?_) fun last e hNone => ?_
    · obtain ⟨_, ⟨⟩, hT⟩ := hB
      have hR := hBoth last a b hT
      cases a <;> cases b <;> exact hR
    · obtain ⟨_, hOutcome, -⟩ := hNone
      cases hOutcome
  · obtain ⟨_, hOutcome, -⟩ := hNone
    cases hOutcome

/-- Following a protocol within a set of states is established call by call. -/
theorem Follows.compositional_within (P : Protocol Call Answer Error State) (I : State → Prop) :
    Compositional fun α (p : Program Call Answer Error α) =>
      ∀ s, I s → p.Follows P (fun s' _ => I s') s where
  pure _ _ h := h
  throw _ _ h := h
  bind hp hf s h := (hp s h).bind (fun s' a h' => hf a s' h') fun _ _ h' => h'
  tryCatch hp hHandler s h := (hp s h).tryCatch (fun _ _ h' => h') fun s' e h' => hHandler e s' h'

/-- In particular for a program that comes back to the state it started in. -/
theorem Follows.compositional (P : Protocol Call Answer Error State) (s : State) :
    Compositional fun α (p : Program Call Answer Error α) => p.Follows P (fun s' _ => s' = s) s := by
  simpa only [forall_eq] using compositional_within P (· = s)

/-- The frame rule. A program all of whose calls are allowed in `s` and leave
the protocol there follows it and stays there. -/
theorem Uses.follows {p : Program Call Answer Error α} {C : Call → Prop} (h : p.Uses C)
    (hC : ∀ request, C request →
      P.allows s request ∧ ∀ response, P.next s request response = s) :
    p.Follows P (fun s' _ => s' = s) s := by
  induction p with
  | done a => rfl
  | fail e => rfl
  | call request next ih =>
      obtain ⟨hAllows, hNext⟩ := hC request h.1
      refine ⟨hAllows, fun response => ?_⟩
      rw [hNext response]
      exact ih response (h.2 response)

/-- A program all of whose calls are allowed within a set of states and stay there. -/
theorem Uses.follows_within {p : Program Call Answer Error α} {C : Call → Prop} {I : State → Prop}
    (h : p.Uses C) (hC : ∀ s request, I s → C request →
      P.allows s request ∧ ∀ response, I (P.next s request response)) (hs : I s) :
    p.Follows P (fun s' _ => I s') s := by
  induction p generalizing s with
  | done a => exact hs
  | fail e => exact hs
  | call request next ih =>
      obtain ⟨hAllows, hNext⟩ := hC s request hs h.1
      exact ⟨hAllows, fun response => ih response (h.2 response) (hNext response)⟩

/-- An ignored call, and what follows it. -/
theorem Follows.skip {request : Call} {f : Answer request → Program Call Answer Error β}
    {R : State → Except Error β → Prop} (h : P.Ignores request) (hError : ∀ e, R s (.error e))
    (hOk : ∀ answer, (f answer).Follows P R s) : (await request >>= f).Follows P R s := by
  obtain ⟨hAllows, hNext⟩ := h s
  refine .await_bind hAllows (fun e => ?_) fun answer => ?_
  · rw [hNext]
    exact hError e
  · rw [hNext]
    exact hOk answer

/-- A program of ignored calls, and what follows it. -/
theorem Uses.skip {p : Program Call Answer Error α} {f : α → Program Call Answer Error β}
    {R : State → Except Error β → Prop} (h : p.Uses P.Ignores) (hError : ∀ e, R s (.error e))
    (hOk : ∀ a, (f a).Follows P R s) : (p >>= f).Follows P R s := by
  refine (h.follows fun request hIgnored => hIgnored s).bind (fun after a hAfter => ?_)
    fun after e hAfter => ?_
  · rw [hAfter]
    exact hOk a
  · rw [hAfter]
    exact hError e

end Program

section Both

variable {State' : Type}

/-- Two protocols at once. -/
def Protocol.both (P : Protocol Call Answer Error State) (P' : Protocol Call Answer Error State') :
    Protocol Call Answer Error (State × State') where
  allows s request := P.allows s.1 request ∧ P'.allows s.2 request
  next s request response := (P.next s.1 request response, P'.next s.2 request response)

/-- A program that follows each of two protocols follows them together. -/
theorem Program.Follows.both {P : Protocol Call Answer Error State}
    {P' : Protocol Call Answer Error State'} {p : Program Call Answer Error α}
    {Q : State → Except Error α → Prop} {Q' : State' → Except Error α → Prop} {s : State}
    {s' : State'} (h : p.Follows P Q s) (h' : p.Follows P' Q' s') :
    p.Follows (P.both P') (fun s outcome => Q s.1 outcome ∧ Q' s.2 outcome) (s, s') := by
  induction p generalizing s s' with
  | done a => exact ⟨h, h'⟩
  | fail e => exact ⟨h, h'⟩
  | call request next ih =>
      exact ⟨⟨h.1, h'.1⟩, fun response => ih response (h.2 response) (h'.2 response)⟩

end Both

variable {ι Result : Type} {W : World Call Answer Error} [DecidableEq ι]

/-- The protocol state of thread `i` after a history, latest event first. -/
def Protocol.after (P : Protocol Call Answer Error State) (initial : ι → State) :
    List (Event Call Answer Error ι) → ι → State
  | [] => initial
  | event :: history =>
      Function.update (P.after initial history) event.thread
        (P.next (P.after initial history event.thread) event.request event.response)

variable (P : Protocol Call Answer Error State)

@[simp] theorem Protocol.after_nil (initial : ι → State) : P.after initial [] = initial := rfl

theorem Protocol.after_cons_self (initial : ι → State) (event : Event Call Answer Error ι)
    (history : List (Event Call Answer Error ι)) :
    P.after initial (event :: history) event.thread =
      P.next (P.after initial history event.thread) event.request event.response := by
  simp [Protocol.after]

theorem Protocol.after_cons_of_ne (initial : ι → State) {event : Event Call Answer Error ι}
    (history : List (Event Call Answer Error ι)) {i : ι} (h : i ≠ event.thread) :
    P.after initial (event :: history) i = P.after initial history i := by
  simp [Protocol.after, h]

/-- A thread without events has not left its initial state. -/
theorem Protocol.after_of_forall_ne {initial : ι → State} {i : ι}
    {history : List (Event Call Answer Error ι)} (h : ∀ event ∈ history, event.thread ≠ i) :
    P.after initial history i = initial i := by
  induction history with
  | nil => rfl
  | cons event earlier ih =>
      obtain ⟨hEvent, hEarlier⟩ := List.forall_mem_cons.mp h
      rw [P.after_cons_of_ne initial earlier hEvent.symm]
      exact ih hEarlier

/-- What no call changes of a thread's state stays as it was. -/
theorem Protocol.after_field {β : Type} (field : State → β)
    (h : ∀ s request response, field (P.next s request response) = field s) (initial : ι → State)
    (history : List (Event Call Answer Error ι)) (i : ι) :
    field (P.after initial history i) = field (initial i) := by
  induction history with
  | nil => rfl
  | cons event earlier ih =>
      by_cases hi : i = event.thread
      · subst hi
        rw [P.after_cons_self, h, ih]
      · rw [P.after_cons_of_ne initial earlier hi, ih]

/-- What holds of a thread's state and did not at first, one of its events brought about. -/
theorem Protocol.exists_turn {p : State → Prop} {initial : ι → State} {i : ι}
    {history : List (Event Call Answer Error ι)} (h : p (P.after initial history i))
    (hInitial : ¬p (initial i)) :
    ∃ newer event older, history = newer ++ event :: older ∧ event.thread = i ∧
      ¬p (P.after initial older i) ∧
      p (P.next (P.after initial older i) event.request event.response) := by
  induction history with
  | nil => exact absurd h hInitial
  | cons event earlier ih =>
      by_cases hEarlier : p (P.after initial earlier i)
      · obtain ⟨newer, turn, older, rfl, hTurn⟩ := ih hEarlier
        exact ⟨event :: newer, turn, older, rfl, hTurn⟩
      · by_cases hi : i = event.thread
        · subst hi
          rw [after_cons_self] at h
          exact ⟨[], event, earlier, rfl, rfl, hEarlier, h⟩
        · rw [after_cons_of_ne _ _ _ hi] at h
          exact absurd h hEarlier

/-- Two protocols at once keep their states apart. -/
theorem Protocol.after_both {State' : Type} (P' : Protocol Call Answer Error State')
    (initial : ι → State × State') (history : List (Event Call Answer Error ι)) (i : ι) :
    (P.both P').after initial history i =
      (P.after (fun j => (initial j).1) history i, P'.after (fun j => (initial j).2) history i) := by
  induction history generalizing i with
  | nil => rfl
  | cons event earlier ih =>
      by_cases hi : i = event.thread
      · subst hi
        rw [after_cons_self, after_cons_self, after_cons_self, ih]
        rfl
      · rw [after_cons_of_ne _ _ _ hi, after_cons_of_ne _ _ _ hi, after_cons_of_ne _ _ _ hi, ih]

variable {guard : Guard W ι} {start : Pool W ι Result} {point : Point W ι Result}
  (initial : ι → State) {Q : ι → State → Except Error Result → Prop}

/-- Interleaving does not disturb a protocol: whatever the other threads did,
what is left of each program still follows it from the state its own events
lead to. -/
theorem GuardedRun.follows (run : GuardedRun guard start point)
    (hStart : ∀ i, (start.thread i).Follows P (Q i) (initial i)) (i : ι) :
    (point.2.thread i).Follows P (Q i) (P.after initial point.1 i) := by
  induction run with
  | refl => exact hStart i
  | tail prior last ih =>
      obtain ⟨env, j, event, hStep, -, hHistory⟩ := last
      obtain ⟨request, next, hThread, rfl, -, hThreads⟩ := Pool.step_cases hStep
      rw [hThreads, hHistory]
      by_cases hij : i = j
      · subst hij
        rw [hThread] at ih
        rw [Function.update_self, P.after_cons_self initial ⟨i, request, _⟩]
        exact ih.2 _
      · rw [Function.update_of_ne hij, P.after_cons_of_ne initial _ hij]
        exact ih

/-- Every thread has settled or has yet to start. -/
def AtRest (point : Point W ι Result) : Prop :=
  ∀ i, (point.2.thread i).settled?.isSome = true ∨ ∀ event ∈ point.1, event.thread ≠ i

/-- Where the threads rest, each has come to its end or is at its start. -/
theorem GuardedRun.ended_of_atRest (run : GuardedRun guard start point)
    (hStart : ∀ i, (start.thread i).Follows P (Q i) (initial i)) (hRest : AtRest point) (i : ι) :
    P.after initial point.1 i = initial i ∨ ∃ outcome, Q i (P.after initial point.1 i) outcome := by
  rcases hRest i with hSettled | hIdle
  · obtain ⟨outcome, hOutcome⟩ := Option.isSome_iff_exists.mp hSettled
    have hFollows := GuardedRun.follows P initial run hStart i
    rw [Program.settled?_eq_some_iff.mp hOutcome] at hFollows
    refine .inr ⟨outcome, ?_⟩
    cases outcome <;> exact hFollows
  · exact .inl (P.after_of_forall_ne hIdle)

/-- In every run, the call a thread makes next is one its protocol allows. -/
theorem GuardedRun.allows (run : GuardedRun guard start point)
    (hStart : ∀ i, (start.thread i).Follows P (Q i) (initial i)) {i : ι} {request : Call}
    {next : Except Error (Answer request) → Program Call Answer Error Result}
    (hThread : point.2.thread i = .call request next) :
    P.allows (P.after initial point.1 i) request := by
  have hFollows := GuardedRun.follows P initial run hStart i
  rw [hThread] at hFollows
  exact hFollows.1

/-- The invariant rule. It suffices that each allowed, guarded call keeps the
invariant; which program made the call does not matter. -/
theorem GuardedRun.invariant (run : GuardedRun guard start point)
    (hStart : ∀ i, (start.thread i).Follows P (Q i) (initial i))
    (Inv : List (Event Call Answer Error ι) → W.Store → Prop) (hInit : Inv [] start.store)
    (hStep : ∀ history store env i request, Inv history store →
      P.allows (P.after initial history i) request → guard history store i request →
      Inv (⟨i, request, (W.perform env store request).2⟩ :: history)
        (W.perform env store request).1) :
    Inv point.1 point.2.store := by
  induction run with
  | refl => exact hInit
  | tail prior last ih =>
      obtain ⟨env, i, request, next, hThread, hGuard, hHistory, hStore⟩ := last.cases
      rw [hHistory, hStore]
      exact hStep _ _ env i request ih (GuardedRun.allows P initial prior hStart hThread) hGuard

/-- From any point on, threads of a known footprint keep it, and what each guarded
call within it keeps is kept. -/
theorem GuardedSteps.invariant_of_uses {before after : Point W ι Result}
    (steps : GuardedSteps guard before after) {C : Call → Prop}
    (hThreads : ∀ i, (before.2.thread i).Uses C) (Inv : W.Store → Prop)
    (hInit : Inv before.2.store)
    (hStep : ∀ history store env i request, Inv store → C request →
      guard history store i request → Inv (W.perform env store request).1) :
    (∀ i, (after.2.thread i).Uses C) ∧ Inv after.2.store := by
  induction steps with
  | refl => exact ⟨hThreads, hInit⟩
  | tail prior last ih =>
      obtain ⟨env, j, event, hNext, hGuard, -⟩ := last
      obtain ⟨request, next, hThread, rfl, hStore, hUpdated⟩ := Pool.step_cases hNext
      have hCalls := ih.1 j
      rw [hThread] at hCalls
      constructor
      · intro i
        rw [hUpdated]
        by_cases hij : i = j
        · subst hij
          rw [Function.update_self]
          exact hCalls.2 _
        · rw [Function.update_of_ne hij]
          exact ih.1 i
      · rw [hStore]
        exact hStep _ _ env j request ih.2 hCalls.1 hGuard

/-- The invariant rule for programs of a known footprint. -/
theorem GuardedRun.invariant_of_uses (run : GuardedRun guard start point) {C : Call → Prop}
    (hStart : ∀ i, (start.thread i).Uses C) (Inv : W.Store → Prop) (hInit : Inv start.store)
    (hStep : ∀ store env request, Inv store → C request → Inv (W.perform env store request).1) :
    Inv point.2.store :=
  GuardedRun.invariant ⟨fun _ => C, fun _ _ _ => ()⟩ (fun _ => ()) run
    (fun i => (hStart i).follows fun _ hCall => ⟨hCall, fun _ => rfl⟩) (fun _ => Inv) hInit
    fun _ store env _ request hInv hCall _ => hStep store env request hInv hCall

end Async
