import Mathlib.Data.Fintype.Basic
import Navin.Semantics.Redis
import Navin.Shared.NumberText

/-! The recent events that clients poll for: one list in Redis that any number of
processes push to, command by command. A call also looks for what has grown too old at
the end of the list. Redis answers every command; which call an entry is due to is
recorded for the statements only. -/
namespace Navin.RecentEvents

/-- An event, with the properties that its type brings. -/
structure RealtimeEvent where
  type : String
  payload : List (String × Option Value)
  publishedAt : JsNumber

/-- `JSON.stringify(event)`. -/
def RealtimeEvent.text (event : RealtimeEvent) : String :=
  Json.stringify (.object (("type", some (.string event.type)) ::
    event.payload ++ [("publishedAt", some (.number event.publishedAt))]))

/-- `JSON.parse`, as far as it yields an event. -/
class EventParser where
  parse : String → Option RealtimeEvent

def maxEvents : Nat := 500

def ttlMs : Nat := 60000

structure Entry (ι : Type) where
  call : ι
  text : String
deriving DecidableEq

/-- What a call of `pushRecentEvent` awaits next. A tail that is to be popped is
remembered for the statements. -/
inductive Stage (ι : Type) where
  | pushing
  | trimming
  | timing
  | peeking (cutoff : Int)
  | popping (cutoff : Int) (tail : Entry ι)
  | returned
deriving DecidableEq

/-- The list in Redis, newest first, the clock, the calls, and who has pushed, latest
first. -/
structure System (ι : Type) where
  clock : Int
  list : List (Entry ι) := []
  stage : ι → Stage ι := fun _ => .pushing
  pushes : List ι := []

section Stages

variable {ι : Type} [DecidableEq ι] (system : System ι) (i : ι) (stage : Stage ι)

def System.goTo : System ι :=
  { system with stage := Function.update system.stage i stage }

@[simp]
theorem goTo_list : (system.goTo i stage).list = system.list := rfl

@[simp]
theorem goTo_pushes : (system.goTo i stage).pushes = system.pushes := rfl

@[simp]
theorem goTo_stage_self : (system.goTo i stage).stage i = stage := by
  simp only [System.goTo, Function.update_self]

theorem goTo_stage_of_ne {j : ι} (h : j ≠ i) :
    (system.goTo i stage).stage j = system.stage j := by
  simp only [System.goTo, Function.update_of_ne h]

end Stages

section Store

variable {ι : Type} [EventParser]

/-- What a call does with the tail it is answered. A text that is no event ends the call. -/
def judgeTail (cutoff : Int) : Option (Entry ι) → Stage ι
  | none => .returned
  | some tail =>
      match EventParser.parse tail.text with
      | some event =>
          if event.publishedAt.value < cutoff then .popping cutoff tail else .returned
      | none => .returned

/-- A loop goes on for a tail that is too old only. -/
theorem judgeTail_cases (cutoff : Int) (last : Option (Entry ι)) :
    judgeTail cutoff last = .returned ∨
      ∃ entry event, last = some entry ∧ EventParser.parse entry.text = some event ∧
        event.publishedAt.value < cutoff ∧ judgeTail cutoff last = .popping cutoff entry := by
  cases last with
  | none => exact .inl rfl
  | some entry =>
      simp only [judgeTail]
      cases hParse : EventParser.parse entry.text with
      | none => exact .inl rfl
      | some event =>
          by_cases hOld : event.publishedAt.value < cutoff
          · exact .inr ⟨entry, event, rfl, hParse, hOld, by simp only [if_pos hOld]⟩
          · exact .inl (by simp only [if_neg hOld])

variable [DecidableEq ι] (events : ι → RealtimeEvent)

/-- The next command of a call, with what the call does up to the one after. -/
def System.command (system : System ι) (i : ι) : System ι :=
  match system.stage i with
  | .pushing =>
      { system with
        list := Redis.lpush system.list ⟨i, (events i).text⟩
        pushes := i :: system.pushes }.goTo i .trimming
  | .trimming =>
      { system with list := Redis.ltrim system.list 0 (maxEvents - 1) }.goTo i .timing
  | .timing => system.goTo i (.peeking (system.clock - ttlMs))
  | .peeking cutoff => system.goTo i (judgeTail cutoff (Redis.lindex system.list (-1)))
  | .popping cutoff _ =>
      { system with list := Redis.rpop system.list }.goTo i (.peeking cutoff)
  | .returned => system

/-- The events that were published after `sinceMs`, oldest first. Texts that are no events
are skipped. -/
def getRecentEventsSince (sinceMs : ℚ) (list : List (Entry ι)) : List RealtimeEvent :=
  ((Redis.lrange list 0 (-1)).filterMap fun item =>
    (EventParser.parse item.text).filter fun event => sinceMs < event.publishedAt.value).reverse

inductive Action (ι : Type) where
  | command (i : ι)
  | wait (ms : Nat)
deriving DecidableEq

def System.step (system : System ι) : Action ι → System ι
  | .command i => system.command events i
  | .wait ms => { system with clock := system.clock + ms }

structure Transition (ι : Type) where
  before : System ι
  action : Action ι

/-- The transition is a command of this call. -/
def Transition.isOf (i : ι) (transition : Transition ι) : Bool :=
  match transition.action with
  | .command j => i = j
  | .wait _ => false

/-- Any interleaving, from an empty list. A call that has returned makes no commands. -/
inductive Run : List (Transition ι) → System ι → Prop where
  | start (clock : Int) : Run [] { clock }
  | step {transitions : List (Transition ι)} {system : System ι} {action : Action ι}
      (prior : Run transitions system)
      (h : ∀ i, action = .command i → system.stage i ≠ .returned) :
      Run (transitions ++ [⟨system, action⟩]) (system.step events action)

end Store

section Laws

variable {ι : Type} (events : ι → RealtimeEvent)

/-- The event of this call was published before the cutoff. -/
def PublishedBefore (cutoff : Int) (i : ι) : Prop :=
  (events i).publishedAt.value < (cutoff : ℚ)

instance (cutoff : Int) (i : ι) : Decidable (PublishedBefore events cutoff i) :=
  inferInstanceAs (Decidable (_ < _))

/-- The time of a call's event is up. -/
def Expired (clock : Int) (i : ι) : Prop :=
  PublishedBefore events (clock - ttlMs) i

variable [EventParser]

/-- A text from which the time of the event can be read back. -/
def WellFormed (event : RealtimeEvent) : Prop :=
  ∃ parsed, EventParser.parse event.text = some parsed ∧ parsed.publishedAt = event.publishedAt

variable [DecidableEq ι]

/-- What an `rpop` takes is the tail that the call has looked at, or has expired as well. -/
def PopsWhatItSaw (transition : Transition ι) : Prop :=
  ∀ i cutoff tail last, transition.action = .command i →
    transition.before.stage i = .popping cutoff tail →
      transition.before.list.getLast? = some last →
        last.call = tail.call ∨ Expired events transition.before.clock last.call

/-- An entry that disappears has expired, or is beyond the cap. -/
def EvictsByRule (transition : Transition ι) : Prop :=
  ∀ entry ∈ transition.before.list,
    entry ∉ (transition.before.step events transition.action).list →
      Expired events transition.before.clock entry.call ∨
        (∃ i, transition.action = .command i ∧ transition.before.stage i = .trimming) ∧
          entry ∉ transition.before.list.take maxEvents

instance [Fintype ι] (transition : Transition ι) :
    Decidable (EvictsByRule events transition) := by
  unfold EvictsByRule Expired
  infer_instance

/-- After the last command of a push pipeline the list is within the cap. -/
def TrimsToCap (transition : Transition ι) : Prop :=
  ∀ i, transition.action = .command i → transition.before.stage i = .trimming →
    (transition.before.step events transition.action).list.length ≤ maxEvents

def commandsOf (transitions : List (Transition ι)) (i : ι) : Nat :=
  transitions.countP (·.isOf i)

/-- A call makes two commands for each event that was pushed with a time before its cutoff,
and four more. What others push meanwhile with a later time does not delay it. -/
def LoopsEnd (transitions : List (Transition ι)) (last : System ι) : Prop :=
  ∀ i, ∀ timed ∈ transitions, timed.action = .command i → timed.before.stage i = .timing →
    commandsOf transitions i ≤
      4 + 2 * last.pushes.countP (PublishedBefore events (timed.before.clock - ttlMs))

/-- A read answers the events of the entries that are retained, in the order in which they
were pushed. -/
def ReadsRetained (system : System ι) : Prop :=
  ∀ sinceMs, getRecentEventsSince sinceMs system.list =
    (system.pushes.reverse.filter fun i => system.list.any (fun entry => entry.call = i) &&
      decide (sinceMs < (events i).publishedAt.value)).filterMap
        fun i => EventParser.parse (events i).text

/-- What is promised of the store, along a run. -/
structure StoreLaw (transitions : List (Transition ι)) (last : System ι) : Prop where
  trims : ∀ transition ∈ transitions, TrimsToCap events transition
  capped : (∀ i, last.stage i ≠ .trimming) → last.list.length ≤ maxEvents
  evicts : ∀ transition ∈ transitions, EvictsByRule events transition
  ends : LoopsEnd events transitions last
  reads : ReadsRetained events last

end Laws

section Commands

variable {ι : Type} [DecidableEq ι] [EventParser] {events : ι → RealtimeEvent} {system : System ι} {i : ι} {cutoff : Int} {tail : Entry ι}

theorem command_pushing (h : system.stage i = .pushing) :
    system.command events i =
      { system with
        list := ⟨i, (events i).text⟩ :: system.list
        pushes := i :: system.pushes }.goTo i .trimming := by
  simp only [System.command, h, Redis.lpush]

theorem command_trimming (h : system.stage i = .trimming) :
    system.command events i =
      { system with list := system.list.take maxEvents }.goTo i .timing := by
  simp only [System.command, h, Redis.ltrim_first _ (show 0 < maxEvents by decide)]

theorem command_timing (h : system.stage i = .timing) :
    system.command events i = system.goTo i (.peeking (system.clock - ttlMs)) := by
  simp only [System.command, h]

theorem command_peeking (h : system.stage i = .peeking cutoff) :
    system.command events i = system.goTo i (judgeTail cutoff system.list.getLast?) := by
  simp only [System.command, h, Redis.lindex_last]

theorem command_popping (h : system.stage i = .popping cutoff tail) :
    system.command events i =
      { system with list := system.list.dropLast }.goTo i (.peeking cutoff) := by
  simp only [System.command, h, Redis.rpop]

theorem command_returned (h : system.stage i = .returned) : system.command events i = system := by
  simp only [System.command, h]

variable (events) (system) in
/-- Nothing but a push lengthens the list. -/
theorem step_list_cases (action : Action ι) :
    (∃ i, action = .command i ∧ system.stage i = .pushing ∧
        (system.step events action).list = ⟨i, (events i).text⟩ :: system.list ∧
        (system.step events action).pushes = i :: system.pushes) ∨
      (system.step events action).list <+: system.list ∧
        (system.step events action).pushes = system.pushes := by
  cases action with
  | wait ms => exact .inr ⟨List.prefix_refl _, rfl⟩
  | command i =>
      simp only [System.step]
      cases hStage : system.stage i with
      | pushing =>
          rw [command_pushing hStage]
          exact .inl ⟨i, rfl, hStage, rfl, rfl⟩
      | trimming =>
          rw [command_trimming hStage]
          exact .inr ⟨List.take_prefix _ _, rfl⟩
      | timing =>
          rw [command_timing hStage]
          exact .inr ⟨List.prefix_refl _, rfl⟩
      | peeking cutoff =>
          rw [command_peeking hStage]
          exact .inr ⟨List.prefix_refl _, rfl⟩
      | popping cutoff tail =>
          rw [command_popping hStage]
          exact .inr ⟨List.dropLast_prefix _, rfl⟩
      | returned =>
          rw [command_returned hStage]
          exact .inr ⟨List.prefix_refl _, rfl⟩

/-- A command leaves the other calls where they are. -/
theorem step_stage_of_ne {action : Action ι} (h : action ≠ .command i) :
    (system.step events action).stage i = system.stage i := by
  cases action with
  | wait ms => rfl
  | command j =>
      have hNe : i ≠ j := fun hSame => h (congrArg Action.command hSame.symm)
      simp only [System.step]
      cases hStage : system.stage j with
      | pushing => rw [command_pushing hStage, goTo_stage_of_ne _ _ _ hNe]
      | trimming => rw [command_trimming hStage, goTo_stage_of_ne _ _ _ hNe]
      | timing => rw [command_timing hStage, goTo_stage_of_ne _ _ _ hNe]
      | peeking cutoff => rw [command_peeking hStage, goTo_stage_of_ne _ _ _ hNe]
      | popping cutoff tail => rw [command_popping hStage, goTo_stage_of_ne _ _ _ hNe]
      | returned => rw [command_returned hStage]

end Commands

section Coherence

variable {ι : Type} (events : ι → RealtimeEvent)

/-- What is so of a call at its stage. The tail that it is going to pop is at the end of the
list, or is no longer in it. -/
def Sound (system : System ι) : Stage ι → Prop
  | .peeking cutoff => cutoff ≤ system.clock - ttlMs
  | .popping cutoff tail => cutoff ≤ system.clock - ttlMs ∧
      PublishedBefore events cutoff tail.call ∧ tail.call ∈ system.pushes ∧
        (tail ∈ system.list → system.list.getLast? = some tail)
  | _ => True

/-- The list holds what some of the calls have pushed, in that order. -/
structure Coherent (system : System ι) : Prop where
  sublist : (system.list.map Entry.call).Sublist system.pushes
  nodup : system.pushes.Nodup
  text : ∀ entry ∈ system.list, entry.text = (events entry.call).text
  pushed : ∀ i ∈ system.pushes, system.stage i ≠ .pushing
  sound : ∀ i, Sound events system (system.stage i)

variable {events} {system : System ι} {i : ι}

theorem Coherent.list_nodup (h : Coherent events system) : system.list.Nodup :=
  (h.nodup.sublist h.sublist).of_map _

theorem Coherent.call_mem {entry : Entry ι} (h : Coherent events system)
    (hMem : entry ∈ system.list) : entry.call ∈ system.pushes :=
  h.sublist.subset (List.mem_map_of_mem hMem)

theorem Sound.wait {stage : Stage ι} (h : Sound events system stage) (ms : Nat) :
    Sound events { system with clock := system.clock + ms } stage := by
  cases stage with
  | peeking cutoff => exact le_trans h (by dsimp only; omega)
  | popping cutoff tail => exact ⟨le_trans h.1 (by dsimp only; omega), h.2⟩
  | _ => trivial

theorem Sound.push {stage : Stage ι} (h : Sound events system stage) (text : String)
    (hNew : i ∉ system.pushes) :
    Sound events
      { system with list := ⟨i, text⟩ :: system.list, pushes := i :: system.pushes } stage := by
  cases stage with
  | popping cutoff tail =>
      obtain ⟨hCutoff, hOld, hPushed, hLast⟩ := h
      refine ⟨hCutoff, hOld, List.mem_cons_of_mem i hPushed, fun hMem => ?_⟩
      rcases List.mem_cons.mp hMem with rfl | hMem
      · exact absurd hPushed hNew
      · exact List.mem_getLast?_cons (hLast hMem)
  | peeking => exact h
  | _ => trivial

/-- In a shorter list the tail that a call is going to pop is at the end, or is gone. -/
theorem Sound.shorten {stage : Stage ι} {list : List (Entry ι)} (h : Sound events system stage)
    (hNodup : system.list.Nodup) (hPrefix : list <+: system.list) :
    Sound events { system with list } stage := by
  cases stage with
  | popping cutoff tail =>
      obtain ⟨hCutoff, hOld, hPushed, hLast⟩ := h
      refine ⟨hCutoff, hOld, hPushed, fun hMem => ?_⟩
      have hEnd := hLast (hPrefix.subset hMem)
      obtain ⟨rest, hSplit⟩ := hPrefix
      rw [← hSplit] at hEnd hNodup
      cases hRest : rest.getLast? with
      | none => rwa [List.getLast?_eq_none_iff.mp hRest, List.append_nil] at hEnd
      | some entry =>
          rw [List.getLast?_append, hRest, Option.some_or] at hEnd
          cases hEnd
          exact absurd (List.mem_of_getLast? hRest) (List.disjoint_of_nodup_append hNodup hMem)
  | peeking => exact h
  | _ => trivial

theorem Coherent.wait (h : Coherent events system) (ms : Nat) :
    Coherent events { system with clock := system.clock + ms } :=
  ⟨h.sublist, h.nodup, h.text, h.pushed, fun i => (h.sound i).wait ms⟩

variable [DecidableEq ι]

theorem Coherent.push (h : Coherent events system) (hStage : system.stage i = .pushing) :
    Coherent events (System.goTo { system with
      list := ⟨i, (events i).text⟩ :: system.list
      pushes := i :: system.pushes } i .trimming) := by
  have hNew : i ∉ system.pushes := fun hMem => h.pushed i hMem hStage
  refine ⟨h.sublist.cons_cons i, List.nodup_cons.mpr ⟨hNew, h.nodup⟩,
    List.forall_mem_cons.mpr ⟨rfl, h.text⟩, fun j hMem => ?_, fun j => ?_⟩
  all_goals by_cases hSame : j = i
  · rw [hSame, goTo_stage_self]
    exact nofun
  · rw [goTo_stage_of_ne _ _ _ hSame]
    exact h.pushed j ((List.mem_cons.mp hMem).resolve_left hSame)
  · rw [hSame, goTo_stage_self]
    trivial
  · rw [goTo_stage_of_ne _ _ _ hSame]
    exact (h.sound j).push _ hNew

theorem Coherent.shorten {stage : Stage ι} {list : List (Entry ι)} (h : Coherent events system)
    (hPrefix : list <+: system.list) (hSound : Sound events { system with list } stage)
    (hStage : stage ≠ .pushing) :
    Coherent events (System.goTo { system with list } i stage) := by
  refine ⟨(hPrefix.sublist.map _).trans h.sublist, h.nodup,
    fun entry hMem => h.text entry (hPrefix.subset hMem), fun j hMem => ?_, fun j => ?_⟩
  all_goals by_cases hSame : j = i
  · rwa [hSame, goTo_stage_self]
  · rw [goTo_stage_of_ne _ _ _ hSame]
    exact h.pushed j hMem
  · rwa [hSame, goTo_stage_self]
  · rw [goTo_stage_of_ne _ _ _ hSame]
    exact (h.sound j).shorten h.list_nodup hPrefix

variable [EventParser]

theorem Coherent.command (h : Coherent events system) (hText : ∀ i, WellFormed (events i))
    (i : ι) : Coherent events (system.command events i) := by
  have hSound := h.sound i
  cases hStage : system.stage i with
  | pushing =>
      rw [command_pushing hStage]
      exact h.push hStage
  | trimming =>
      rw [command_trimming hStage]
      exact h.shorten (List.take_prefix _ _) trivial nofun
  | timing =>
      rw [command_timing hStage]
      exact h.shorten (List.prefix_refl _) (le_refl _) nofun
  | peeking cutoff =>
      rw [hStage] at hSound
      rw [command_peeking hStage]
      rcases judgeTail_cases cutoff system.list.getLast? with
        hJudge | ⟨tail, event, hTail, hParse, hOld, hJudge⟩
      · rw [hJudge]
        exact h.shorten (List.prefix_refl _) trivial nofun
      · have hMem : tail ∈ system.list := List.mem_of_getLast? hTail
        obtain ⟨parsed, hParsed, hTime⟩ := hText tail.call
        rw [← h.text tail hMem, hParse] at hParsed
        cases hParsed
        rw [hTime] at hOld
        rw [hJudge]
        exact h.shorten (List.prefix_refl _) ⟨hSound, hOld, h.call_mem hMem, fun _ => hTail⟩ nofun
  | popping cutoff tail =>
      rw [hStage] at hSound
      rw [command_popping hStage]
      exact h.shorten (List.dropLast_prefix _) hSound.1 nofun
  | returned => rwa [command_returned hStage]

theorem Coherent.step (h : Coherent events system) (hText : ∀ i, WellFormed (events i))
    (action : Action ι) : Coherent events (system.step events action) := by
  cases action with
  | command i => exact h.command hText i
  | wait ms => exact h.wait ms

theorem Run.coherent {transitions : List (Transition ι)} (run : Run events transitions system)
    (hText : ∀ i, WellFormed (events i)) : Coherent events system := by
  induction run with
  | start clock =>
      exact ⟨List.Sublist.refl _, List.nodup_nil, List.forall_mem_nil _, List.forall_mem_nil _,
        fun _ => trivial⟩
  | step prior _ ih => exact ih.step hText _

end Coherence

section Capping

variable {ι : Type} [DecidableEq ι] {system : System ι} {i : ι}

def Stage.isTrimming : Stage ι → Bool
  | .trimming => true
  | _ => false

/-- How many push pipelines are half done. -/
def System.untrimmed (system : System ι) : Nat :=
  system.pushes.countP fun i => (system.stage i).isTrimming

theorem goTo_untrimmed {stage : Stage ι} (h : stage.isTrimming = (system.stage i).isTrimming) :
    (system.goTo i stage).untrimmed = system.untrimmed := by
  refine List.countP_congr fun j _ => ?_
  by_cases hSame : j = i
  · rw [hSame, goTo_stage_self, h]
  · rw [goTo_stage_of_ne _ _ _ hSame]

variable [EventParser] {events : ι → RealtimeEvent}

theorem capped_command (h : Coherent events system)
    (hLength : system.list.length ≤ maxEvents + system.untrimmed) (i : ι) :
    (system.command events i).list.length ≤ maxEvents + (system.command events i).untrimmed := by
  cases hStage : system.stage i with
  | pushing =>
      have hNew : i ∉ system.pushes := fun hMem => h.pushed i hMem hStage
      rw [command_pushing hStage]
      have hOthers : (System.goTo { system with
          list := ⟨i, (events i).text⟩ :: system.list
          pushes := i :: system.pushes } i .trimming).untrimmed = system.untrimmed + 1 := by
        rw [System.untrimmed, goTo_pushes, List.countP_cons, goTo_stage_self]
        refine congrArg (· + 1) (List.countP_congr fun j hMem => ?_)
        have hOther : j ≠ i := fun hSame => hNew (hSame ▸ hMem)
        rw [goTo_stage_of_ne _ _ _ hOther]
      rw [hOthers, goTo_list, List.length_cons]
      omega
  | trimming =>
      rw [command_trimming hStage, goTo_list]
      exact Nat.le_add_right_of_le (List.length_take_le _ _)
  | timing => rwa [command_timing hStage, goTo_list, goTo_untrimmed (by rw [hStage]; rfl)]
  | peeking cutoff =>
      have hJudge : (judgeTail cutoff system.list.getLast?).isTrimming = false := by
        rcases judgeTail_cases cutoff system.list.getLast? with
          hJudge | ⟨_, _, _, _, _, hJudge⟩
        all_goals rw [hJudge]; rfl
      rwa [command_peeking hStage, goTo_list, goTo_untrimmed (by rw [hStage, hJudge]; rfl)]
  | popping cutoff tail =>
      rw [command_popping hStage, goTo_list, goTo_untrimmed (by rw [hStage]; rfl),
        List.length_dropLast]
      exact le_trans (Nat.sub_le _ _) hLength
  | returned => rwa [command_returned hStage]

theorem Run.length_le {transitions : List (Transition ι)} (run : Run events transitions system)
    (hText : ∀ i, WellFormed (events i)) :
    system.list.length ≤ maxEvents + system.untrimmed := by
  induction run with
  | start clock => exact Nat.zero_le _
  | @step transitions system action prior _ ih =>
      cases action with
      | command i => exact capped_command (prior.coherent hText) ih i
      | wait ms => exact ih

theorem Run.capped {transitions : List (Transition ι)} (run : Run events transitions system)
    (hText : ∀ i, WellFormed (events i)) (h : ∀ i, system.stage i ≠ .trimming) :
    system.list.length ≤ maxEvents := by
  have hNone : system.untrimmed = 0 := by
    refine List.countP_eq_zero.mpr fun i _ => ?_
    cases hStage : system.stage i with
    | trimming => exact absurd hStage (h i)
    | _ => exact Bool.false_ne_true
  have hLength := run.length_le hText
  omega

theorem trimsToCap (transition : Transition ι) : TrimsToCap events transition := by
  intro i hAction hStage
  rw [hAction, System.step, command_trimming hStage, goTo_list]
  exact List.length_take_le _ _

end Capping

section Looping

variable {ι : Type} (events : ι → RealtimeEvent)

/-- A call that has taken the time has this cutoff. -/
def TimedAt (transitions : List (Transition ι)) (i : ι) (cutoff : Int) : Prop :=
  ∀ timed ∈ transitions, timed.action = .command i → timed.before.stage i = .timing →
    timed.before.clock - ttlMs = cutoff

theorem TimedAt.append {transitions : List (Transition ι)} {system : System ι}
    {action : Action ι} {i : ι} {cutoff : Int} (h : TimedAt transitions i cutoff)
    (hLast : action = .command i → system.stage i = .timing → system.clock - ttlMs = cutoff) :
    TimedAt (transitions ++ [⟨system, action⟩]) i cutoff := by
  intro timed hMem
  rcases List.mem_append.mp hMem with hMem | hMem
  · exact h timed hMem
  · rw [List.mem_singleton.mp hMem]
    exact hLast

/-- How many entries of a list are too old for a loop with this cutoff. -/
def stale [DecidableEq ι] (cutoff : Int) (list : List (Entry ι)) : Nat :=
  list.countP fun entry => PublishedBefore events cutoff entry.call

variable [DecidableEq ι]

/-- The commands that a call still makes if nobody pushes: two for each entry that is too
old, without the one that it has looked at already, and one to find that there are no
more. -/
def Stage.remaining (cutoff : Int) (list : List (Entry ι)) : Stage ι → Nat
  | .peeking _ => 2 * stale events cutoff list + 1
  | .popping _ tail => 2 * stale events cutoff (list.filter (· ≠ tail)) + 2
  | _ => 0

theorem stale_le_of_sublist (cutoff : Int) {shorter list : List (Entry ι)}
    (h : shorter.Sublist list) : stale events cutoff shorter ≤ stale events cutoff list :=
  h.countP_le

variable {events} {cutoff : Int} {list : List (Entry ι)}

theorem stale_cons (entry : Entry ι) :
    stale events cutoff (entry :: list) =
      stale events cutoff list + if PublishedBefore events cutoff entry.call then 1 else 0 := by
  rw [stale, stale, List.countP_cons]
  simp only [decide_eq_true_eq]

theorem remaining_cons (entry : Entry ι) (stage : Stage ι) :
    stage.remaining events cutoff (entry :: list) ≤ stage.remaining events cutoff list +
      2 * if PublishedBefore events cutoff entry.call then 1 else 0 := by
  cases stage with
  | peeking _ =>
      simp only [Stage.remaining, stale_cons]
      omega
  | popping _ tail =>
      have hCons : stale events cutoff ((entry :: list).filter (· ≠ tail)) ≤
          stale events cutoff (entry :: list.filter (· ≠ tail)) := by
        rw [List.filter_cons]
        split
        · exact le_refl _
        · exact stale_le_of_sublist events cutoff (List.sublist_cons_self _ _)
      rw [stale_cons] at hCons
      simp only [Stage.remaining]
      omega
  | _ => exact Nat.zero_le _

theorem remaining_le_of_sublist {shorter : List (Entry ι)} (h : shorter.Sublist list)
    (stage : Stage ι) :
    stage.remaining events cutoff shorter ≤ stage.remaining events cutoff list := by
  cases stage with
  | peeking _ =>
      have hStale := stale_le_of_sublist events cutoff h
      simp only [Stage.remaining]
      omega
  | popping _ tail =>
      have hStale := stale_le_of_sublist events cutoff (h.filter (· ≠ tail))
      simp only [Stage.remaining]
      omega
  | _ => exact le_refl _

section Tails

variable {tail : Entry ι}

theorem filter_ne_eq_dropLast (hNodup : list.Nodup) (hTail : list.getLast? = some tail) :
    list.filter (· ≠ tail) = list.dropLast := by
  obtain ⟨front, rfl⟩ := List.getLast?_eq_some_iff.mp hTail
  have hFront : tail ∉ front := fun hMem =>
    List.disjoint_of_nodup_append hNodup hMem (List.mem_singleton_self tail)
  rw [List.filter_append, List.dropLast_concat]
  have hKept : front.filter (· ≠ tail) = front :=
    List.filter_eq_self.mpr fun entry hMem => decide_eq_true fun hSame => hFront (hSame ▸ hMem)
  rw [hKept]
  simp

theorem not_mem_dropLast (hNodup : list.Nodup) (hTail : list.getLast? = some tail) :
    tail ∉ list.dropLast := by
  rw [← filter_ne_eq_dropLast hNodup hTail]
  exact fun hMem => of_decide_eq_true (List.mem_filter.mp hMem).2 rfl

/-- The tail that is too old counts for two commands: the `rpop` and the next look. -/
theorem remaining_popping (hNodup : list.Nodup) (hTail : list.getLast? = some tail)
    (hOld : PublishedBefore events cutoff tail.call) :
    (Stage.popping cutoff tail).remaining events cutoff list + 1 =
      (Stage.peeking cutoff : Stage ι).remaining events cutoff list := by
  have hStale : stale events cutoff list = stale events cutoff list.dropLast + 1 := by
    obtain ⟨front, rfl⟩ := List.getLast?_eq_some_iff.mp hTail
    rw [List.dropLast_concat, stale, stale, List.countP_append]
    simp [hOld]
  simp only [Stage.remaining, filter_ne_eq_dropLast hNodup hTail, hStale]
  omega

/-- An `rpop` takes the tail that the call has looked at, unless that is gone. -/
theorem remaining_popped (hNodup : list.Nodup)
    (hTail : tail ∈ list → list.getLast? = some tail) :
    (Stage.peeking cutoff : Stage ι).remaining events cutoff list.dropLast + 1 ≤
      (Stage.popping cutoff tail).remaining events cutoff list := by
  have hStale : stale events cutoff list.dropLast ≤
      stale events cutoff (list.filter (· ≠ tail)) := by
    by_cases hMem : tail ∈ list
    · rw [filter_ne_eq_dropLast hNodup (hTail hMem)]
    · have hKept : list.filter (· ≠ tail) = list :=
        List.filter_eq_self.mpr fun entry hEntry =>
          decide_eq_true fun hSame => hMem (hSame ▸ hEntry)
      rw [hKept]
      exact stale_le_of_sublist events cutoff (List.dropLast_sublist _)
  simp only [Stage.remaining]
  omega

end Tails

section Budgets

variable {transitions : List (Transition ι)} {system : System ι} {action : Action ι} {i : ι}
  {stage : Stage ι}

variable (events) in
/-- The commands that a call has made and those that remain are within the bound. -/
def Looping (transitions : List (Transition ι)) (system : System ι) (i : ι) (cutoff : Int)
    (stage : Stage ι) : Prop :=
  TimedAt transitions i cutoff ∧
    commandsOf transitions i + stage.remaining events cutoff system.list ≤
      4 + 2 * system.pushes.countP (PublishedBefore events cutoff)

variable (events) in
/-- The bound at each stage. Before a call takes the time, no cutoff is wrong for it. -/
def Budget (transitions : List (Transition ι)) (system : System ι) (i : ι) : Stage ι → Prop
  | .pushing => commandsOf transitions i = 0 ∧ ∀ cutoff, TimedAt transitions i cutoff
  | .trimming => commandsOf transitions i = 1 ∧ ∀ cutoff, TimedAt transitions i cutoff
  | .timing => commandsOf transitions i = 2 ∧ ∀ cutoff, TimedAt transitions i cutoff
  | .peeking cutoff => Looping events transitions system i cutoff (.peeking cutoff)
  | .popping cutoff tail => Looping events transitions system i cutoff (.popping cutoff tail)
  | .returned => ∃ cutoff, Looping events transitions system i cutoff .returned

theorem commandsOf_self (system : System ι) :
    commandsOf (transitions ++ [⟨system, .command i⟩]) i = commandsOf transitions i + 1 := by
  rw [commandsOf, List.countP_append]
  simp [commandsOf, Transition.isOf]

theorem commandsOf_of_ne (system : System ι) (h : action ≠ .command i) :
    commandsOf (transitions ++ [⟨system, action⟩]) i = commandsOf transitions i := by
  rw [commandsOf, List.countP_append]
  cases action with
  | wait ms => simp [commandsOf, Transition.isOf]
  | command j =>
      have hNe : i ≠ j := fun hSame => h (congrArg Action.command hSame.symm)
      simp [commandsOf, Transition.isOf, hNe]

variable [EventParser]

/-- What another call does leaves the commands that remain within the bound. -/
theorem Looping.other (h : Looping events transitions system i cutoff stage)
    (hOther : action ≠ .command i) :
    Looping events (transitions ++ [⟨system, action⟩]) (system.step events action) i cutoff
      stage := by
  obtain ⟨hTimed, hBound⟩ := h
  refine ⟨hTimed.append fun hSame => absurd hSame hOther, ?_⟩
  rw [commandsOf_of_ne system hOther]
  rcases step_list_cases events system action with
    ⟨j, -, -, hList, hPushes⟩ | ⟨hPrefix, hPushes⟩
  · have hRemaining : stage.remaining events cutoff (⟨j, (events j).text⟩ :: system.list) ≤
        stage.remaining events cutoff system.list +
          2 * if PublishedBefore events cutoff j then 1 else 0 := remaining_cons _ stage
    rw [hList, hPushes, List.countP_cons]
    simp only [decide_eq_true_eq]
    omega
  · have hRemaining : stage.remaining events cutoff (system.step events action).list ≤ _ :=
      remaining_le_of_sublist hPrefix.sublist stage
    rw [hPushes]
    omega

theorem Budget.other (h : Budget events transitions system i stage)
    (hOther : action ≠ .command i) :
    Budget events (transitions ++ [⟨system, action⟩]) (system.step events action) i stage := by
  have hTimed (h : ∀ cutoff, TimedAt transitions i cutoff) (cutoff : Int) :
      TimedAt (transitions ++ [⟨system, action⟩]) i cutoff :=
    (h cutoff).append fun hSame => absurd hSame hOther
  cases stage with
  | peeking cutoff => exact Looping.other h hOther
  | popping cutoff tail => exact Looping.other h hOther
  | returned => exact h.imp fun _ h => h.other hOther
  | _ => exact ⟨(commandsOf_of_ne system hOther).trans h.1, hTimed h.2⟩

/-- A command of the loop is paid for by what it leaves to do. -/
theorem Looping.own {next : Stage ι} (h : Looping events transitions system i cutoff stage)
    (hStage : system.stage i = stage) (hTiming : stage ≠ .timing)
    (hList : (system.command events i).pushes = system.pushes)
    (hPaid : next.remaining events cutoff (system.command events i).list + 1 ≤
      stage.remaining events cutoff system.list) :
    Looping events (transitions ++ [⟨system, .command i⟩]) (system.command events i) i cutoff
      next := by
  refine ⟨h.1.append fun _ hTime => absurd (hStage.symm.trans hTime) hTiming, ?_⟩
  have hBound := h.2
  rw [commandsOf_self, hList]
  omega

theorem Budget.own (hCoherent : Coherent events system) (hText : ∀ i, WellFormed (events i))
    (h : Budget events transitions system i (system.stage i))
    (hRuns : system.stage i ≠ .returned) :
    Budget events (transitions ++ [⟨system, .command i⟩]) (system.command events i) i
      ((system.command events i).stage i) := by
  have hCount : commandsOf (transitions ++ [⟨system, .command i⟩]) i = _ := commandsOf_self system
  have hUntimed (hStage : system.stage i ≠ .timing) (cutoff : Int)
      (h : TimedAt transitions i cutoff) :
      TimedAt (transitions ++ [⟨system, .command i⟩]) i cutoff :=
    h.append fun _ hTime => absurd hTime hStage
  have hAfter := hCoherent.command hText i
  cases hStage : system.stage i with
  | pushing =>
      rw [hStage] at h hUntimed
      rw [command_pushing hStage, goTo_stage_self]
      exact ⟨hCount.trans (by rw [h.1]), fun cutoff => hUntimed nofun cutoff (h.2 cutoff)⟩
  | trimming =>
      rw [hStage] at h hUntimed
      rw [command_trimming hStage, goTo_stage_self]
      exact ⟨hCount.trans (by rw [h.1]), fun cutoff => hUntimed nofun cutoff (h.2 cutoff)⟩
  | timing =>
      rw [hStage] at h
      rw [command_timing hStage, goTo_stage_self]
      refine ⟨(h.2 _).append fun _ _ => rfl, ?_⟩
      have hPushed : stale events (system.clock - ttlMs) system.list ≤
          system.pushes.countP (PublishedBefore events (system.clock - ttlMs)) := by
        have hCalls := hCoherent.sublist.countP_le (p := fun i =>
          decide (PublishedBefore events (system.clock - ttlMs) i))
        rwa [List.countP_map] at hCalls
      rw [hCount, h.1]
      simp only [Stage.remaining, goTo_list, goTo_pushes]
      omega
  | peeking cutoff =>
      rw [hStage] at h
      have hLooping : Looping events transitions system i cutoff (.peeking cutoff) := h
      have hSame : (system.command events i).pushes = system.pushes := by
        rw [command_peeking hStage, goTo_pushes]
      have hList : (system.command events i).list = system.list := by
        rw [command_peeking hStage, goTo_list]
      have hNext : (system.command events i).stage i =
          judgeTail cutoff system.list.getLast? := by
        rw [command_peeking hStage, goTo_stage_self]
      rcases judgeTail_cases cutoff system.list.getLast? with
        hJudge | ⟨tail, event, hTail, -, -, hJudge⟩
      · rw [hNext, hJudge]
        refine ⟨cutoff, hLooping.own hStage nofun hSame ?_⟩
        simp only [Stage.remaining]
        omega
      · have hSound := hAfter.sound i
        rw [hNext, hJudge] at hSound ⊢
        refine hLooping.own hStage nofun hSame ?_
        rw [hList]
        exact (remaining_popping hCoherent.list_nodup hTail hSound.2.1).le
  | popping cutoff tail =>
      rw [hStage] at h
      have hLooping : Looping events transitions system i cutoff (.popping cutoff tail) := h
      have hSound := hCoherent.sound i
      rw [hStage] at hSound
      have hSame : (system.command events i).pushes = system.pushes := by
        rw [command_popping hStage, goTo_pushes]
      have hNext : (system.command events i).stage i = .peeking cutoff := by
        rw [command_popping hStage, goTo_stage_self]
      rw [hNext]
      refine hLooping.own hStage nofun hSame ?_
      rw [command_popping hStage, goTo_list]
      exact remaining_popped hCoherent.list_nodup hSound.2.2.2
  | returned => exact absurd hStage hRuns

theorem Run.budget (run : Run events transitions system) (hText : ∀ i, WellFormed (events i))
    (i : ι) : Budget events transitions system i (system.stage i) := by
  induction run with
  | start clock => exact ⟨rfl, fun _ => List.forall_mem_nil _⟩
  | @step transitions system action prior hRuns ih =>
      by_cases hOwn : action = .command i
      · subst hOwn
        exact Budget.own (prior.coherent hText) hText ih (hRuns i rfl)
      · rw [step_stage_of_ne hOwn]
        exact ih.other hOwn

theorem Run.loopsEnd (run : Run events transitions system) (hText : ∀ i, WellFormed (events i)) :
    LoopsEnd events transitions system := by
  intro i timed hMem hAction hTiming
  have hBudget := run.budget hText i
  cases hStage : system.stage i with
  | peeking cutoff =>
      rw [hStage] at hBudget
      rw [hBudget.1 timed hMem hAction hTiming]
      exact le_trans (Nat.le_add_right _ _) hBudget.2
  | popping cutoff tail =>
      rw [hStage] at hBudget
      rw [hBudget.1 timed hMem hAction hTiming]
      exact le_trans (Nat.le_add_right _ _) hBudget.2
  | returned =>
      rw [hStage] at hBudget
      obtain ⟨cutoff, hTimed, hBound⟩ := hBudget
      rw [hTimed timed hMem hAction hTiming]
      exact le_trans (Nat.le_add_right _ _) hBound
  | _ =>
      rw [hStage] at hBudget
      rw [hBudget.1]
      omega

end Budgets

end Looping

section Lists

variable {α : Type} {list part whole : List α}

theorem getLast?_of_not_mem_dropLast {item : α} (hMem : item ∈ list)
    (hFront : item ∉ list.dropLast) : list.getLast? = some item := by
  have hSome : list ≠ [] := List.ne_nil_of_mem hMem
  rw [← List.dropLast_concat_getLast hSome] at hMem
  have hLast := (List.mem_append.mp hMem).resolve_left hFront
  rw [List.mem_singleton.mp hLast, List.getLast?_eq_some_getLast hSome]

theorem filter_mem_of_sublist [DecidableEq α] (h : part.Sublist whole) (hNodup : whole.Nodup) :
    whole.filter (· ∈ part) = part := by
  have hPart : part.Sublist (whole.filter (· ∈ part)) := by
    have hFilter := h.filter (· ∈ part)
    rwa [List.filter_eq_self.mpr fun item hMem => decide_eq_true hMem] at hFilter
  have hLength : (whole.filter (· ∈ part)).length ≤ part.length :=
    (List.subperm_of_subset (hNodup.filter _) fun item hMem =>
      of_decide_eq_true (List.mem_filter.mp hMem).2).length_le
  exact (hPart.eq_of_length_le hLength).symm

end Lists

section Results

variable {ι : Type} [DecidableEq ι] [EventParser] {events : ι → RealtimeEvent}
  {transitions : List (Transition ι)} {system : System ι}

/-- Of the commands only an `rpop` can take what has not expired and is not beyond the
cap. -/
theorem evictsByRule_iff {transition : Transition ι}
    (h : Coherent events transition.before) :
    EvictsByRule events transition ↔ PopsWhatItSaw events transition := by
  obtain ⟨before, action⟩ := transition
  constructor
  · intro hRule i cutoff tail last hAction hStage hLast
    cases hAction
    have hGone : last ∉ (before.step events (.command i)).list := by
      rw [System.step, command_popping hStage, goTo_list]
      exact not_mem_dropLast h.list_nodup hLast
    rcases hRule last (List.mem_of_getLast? hLast) hGone with hOld | ⟨⟨j, hAction, hTrim⟩, -⟩
    · exact .inr hOld
    · cases hAction
      exact absurd (hStage.symm.trans hTrim) nofun
  · intro hSaw entry hMem hGone
    cases action with
    | wait ms => exact absurd hMem hGone
    | command i =>
        simp only [System.step] at hGone
        cases hStage : before.stage i with
        | pushing =>
            rw [command_pushing hStage, goTo_list] at hGone
            exact absurd (List.mem_cons_of_mem _ hMem) hGone
        | trimming =>
            rw [command_trimming hStage, goTo_list] at hGone
            exact .inr ⟨⟨i, rfl, hStage⟩, hGone⟩
        | timing =>
            rw [command_timing hStage, goTo_list] at hGone
            exact absurd hMem hGone
        | peeking cutoff =>
            rw [command_peeking hStage, goTo_list] at hGone
            exact absurd hMem hGone
        | popping cutoff tail =>
            rw [command_popping hStage, goTo_list] at hGone
            have hLast := getLast?_of_not_mem_dropLast hMem hGone
            rcases hSaw i cutoff tail entry rfl hStage hLast with hCall | hOld
            · have hSound := h.sound i
              rw [hStage] at hSound
              obtain ⟨hCutoff, hOld, -, -⟩ := hSound
              rw [← hCall] at hOld
              exact .inl (hOld.trans_le (Int.cast_le.mpr hCutoff))
            · exact .inl hOld
        | returned =>
            rw [command_returned hStage] at hGone
            exact absurd hMem hGone

theorem Coherent.readsRetained (h : Coherent events system)
    (hText : ∀ i, WellFormed (events i)) : ReadsRetained events system := by
  intro sinceMs
  have hRetained : (system.pushes.filter fun i =>
      system.list.any (fun entry => entry.call = i) &&
        decide (sinceMs < (events i).publishedAt.value)) =
      (system.list.map Entry.call).filter
        fun i => decide (sinceMs < (events i).publishedAt.value) := by
    conv_rhs => rw [← filter_mem_of_sublist h.sublist h.nodup, List.filter_filter]
    refine List.filter_congr fun i _ => ?_
    rw [Bool.and_comm]
    refine congrArg (_ && ·) ?_
    rw [Bool.eq_iff_iff, List.any_eq_true, decide_eq_true_iff, List.mem_map]
    simp only [decide_eq_true_eq]
  have hItem : ∀ entry ∈ system.list,
      ((EventParser.parse entry.text).filter fun event => sinceMs < event.publishedAt.value) =
        if sinceMs < (events entry.call).publishedAt.value then
          EventParser.parse (events entry.call).text else none := by
    intro entry hMem
    obtain ⟨parsed, hParse, hTime⟩ := hText entry.call
    rw [h.text entry hMem, hParse, Option.filter_some, hTime]
    simp only [decide_eq_true_eq]
  rw [getRecentEventsSince, Redis.lrange_all, List.filterMap_congr hItem,
    List.filter_reverse, hRetained, List.filterMap_reverse]
  refine congrArg List.reverse ?_
  rw [List.filter_map, List.filterMap_map, List.filterMap_filter]
  refine List.filterMap_congr fun entry _ => ?_
  simp only [Function.comp_apply, decide_eq_true_eq]

theorem Run.coherent_before (run : Run events transitions system)
    (hText : ∀ i, WellFormed (events i)) :
    ∀ transition ∈ transitions, Coherent events transition.before := by
  induction run with
  | start clock => exact List.forall_mem_nil _
  | step prior _ ih =>
      intro transition hMem
      rcases List.mem_append.mp hMem with hMem | hMem
      · exact ih transition hMem
      · rw [List.mem_singleton.mp hMem]
        exact prior.coherent hText

/-- The store does what is promised of it in exactly the runs in which each `rpop` takes
what its call has looked at, or else something that has expired too. -/
theorem storeLaw_iff_popsWhatItSaw (hText : ∀ i, WellFormed (events i))
    (run : Run events transitions system) :
    StoreLaw events transitions system ↔
      ∀ transition ∈ transitions, PopsWhatItSaw events transition := by
  have hEvicts (transition : Transition ι) (hMem : transition ∈ transitions) :
      EvictsByRule events transition ↔ PopsWhatItSaw events transition :=
    evictsByRule_iff (run.coherent_before hText transition hMem)
  constructor
  · exact fun law transition hMem => (hEvicts transition hMem).mp (law.evicts transition hMem)
  · exact fun hSaw => {
      trims := fun transition _ => trimsToCap transition
      capped := run.capped hText
      evicts := fun transition hMem => (hEvicts transition hMem).mpr (hSaw transition hMem)
      ends := run.loopsEnd hText
      reads := (run.coherent hText).readsRetained hText }

end Results

section Schedules

variable {ι : Type} [DecidableEq ι] [EventParser] (events : ι → RealtimeEvent)

/-- Does one action after the other. Calls that have returned are passed over. -/
def follow : List (Transition ι) × System ι → List (Action ι) →
    List (Transition ι) × System ι
  | point, [] => point
  | point, .wait ms :: rest =>
      follow (point.1 ++ [⟨point.2, .wait ms⟩], point.2.step events (.wait ms)) rest
  | point, .command i :: rest =>
      if point.2.stage i = .returned then follow point rest
      else follow (point.1 ++ [⟨point.2, .command i⟩], point.2.step events (.command i)) rest

variable {events}

theorem Run.follow {transitions : List (Transition ι)} {system : System ι}
    (run : Run events transitions system) (actions : List (Action ι)) :
    Run events (follow events (transitions, system) actions).1
      (follow events (transitions, system) actions).2 := by
  induction actions generalizing transitions system with
  | nil => exact run
  | cons action rest ih =>
      cases action with
      | wait ms => exact ih (run.step nofun)
      | command i =>
          rw [RecentEvents.follow]
          split
          · exact ih run
          · rename_i hStage
            refine ih (run.step ?_)
            rintro j ⟨⟩
            exact hStage

end Schedules

section Sample

/-- An event, and two a minute later and more. -/
def sampleEvents (i : Fin 3) : RealtimeEvent where
  type := "shipment:status"
  payload := [("shipmentId", some (.string "s-1")), ("seq", some (.number (.ofNat i)))]
  publishedAt := .ofNat (if i = 0 then 1000 else 70000)

local instance : EventParser where
  parse text :=
    ((List.finRange 3).find? fun i => text = (sampleEvents i).text).map sampleEvents

theorem sampleEvents_wellFormed (i : Fin 3) : WellFormed (sampleEvents i) := by
  have hTimes : ∀ i j, (sampleEvents i).text = (sampleEvents j).text →
      (sampleEvents i).publishedAt = (sampleEvents j).publishedAt := by
    decide +kernel
  have hFound : ((List.finRange 3).find? fun j =>
      (sampleEvents i).text = (sampleEvents j).text).isSome :=
    List.find?_isSome.mpr ⟨i, List.mem_finRange i, decide_eq_true rfl⟩
  obtain ⟨j, hFind⟩ := Option.isSome_iff_exists.mp hFound
  refine ⟨sampleEvents j, congrArg (Option.map sampleEvents) hFind, ?_⟩
  have hText := List.find?_some hFind
  exact (hTimes i j (of_decide_eq_true hText)).symm

/-- The call of the first event, and time goes by. -/
def staleFirst : List (Action (Fin 3)) :=
  List.replicate 4 (.command 0) ++ [.wait 69000]

/-- One call after the other: the second finds the first event too old. -/
theorem storeLaw_sample : ∃ transitions system, Run sampleEvents transitions system ∧
    system.pushes = [1, 0] ∧ system.list.map Entry.call = [1] ∧
    StoreLaw sampleEvents transitions system := by
  have start : Run sampleEvents [] { clock := 1000 } := .start 1000
  have run := start.follow (staleFirst ++ List.replicate 6 (.command 1))
  have hEvicts : ∀ transition ∈ (follow sampleEvents ([], { clock := 1000 })
      (staleFirst ++ List.replicate 6 (.command 1))).1, EvictsByRule sampleEvents transition := by
    decide +kernel
  refine ⟨_, _, run, by decide +kernel, by decide +kernel, ?_⟩
  exact (storeLaw_iff_popsWhatItSaw sampleEvents_wellFormed run).mpr fun transition hMem =>
    (evictsByRule_iff (run.coherent_before sampleEvents_wellFormed transition hMem)).mp
      (hEvicts transition hMem)

/-- Two calls see the first event at the end of the list. Both then pop, and the second to
do so takes the event of the other. -/
theorem doublePop_takes_fresh : ¬∀ (events : Fin 3 → RealtimeEvent)
    (transitions : List (Transition (Fin 3))) (system : System (Fin 3)),
    (∀ i, WellFormed (events i)) →
      (system.pushes.Pairwise fun later earlier =>
        (events earlier).publishedAt.value ≤ (events later).publishedAt.value) →
      Run events transitions system → StoreLaw events transitions system := by
  intro hLaw
  have start : Run sampleEvents [] { clock := 1000 } := .start 1000
  have run := start.follow (staleFirst ++ List.replicate 4 (.command 1) ++
    List.replicate 5 (.command 2) ++ [.command 1])
  have law := hLaw sampleEvents _ _ sampleEvents_wellFormed (by decide +kernel) run
  exact absurd law.evicts (by decide +kernel)

end Sample

end Navin.RecentEvents
