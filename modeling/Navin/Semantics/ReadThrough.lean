import Mathlib.Data.List.Basic

/-! A cache in front of a source that changes. An operation may compute values and
store them, serve values, and change what the source says of a key. Nothing else is
known of it. When every operation drops the values of the keys it changes, no value
that is served is older than the last change of its key. -/
namespace ReadThrough

/-- One completed operation: what the source says of each key before and after it,
what it computes and serves, and what the cache holds when it is over. -/
structure Turn (Key Input Value : Type) where
  before : Key → Input
  after : Key → Input
  computed : Key → Value → Prop
  served : Key → Value → Prop
  holds : Key → Value → Prop

variable {Key Input Value : Type} {key : Key} {value : Value}

namespace Turn

variable (turn : Turn Key Input Value)

def Changes (key : Key) : Prop :=
  turn.after key ≠ turn.before key

/-- The operation answers from what the cache held, and keeps a value it has not
computed itself only as long as the source has not changed. -/
structure Sound (held : Key → Value → Prop) : Prop where
  served : ∀ key value, turn.served key value → turn.computed key value ∨ held key value
  kept : ∀ key value, turn.holds key value →
    turn.computed key value ∨ held key value ∧ ¬turn.Changes key

end Turn

/-- The cache after the operations, the latest first. It is empty at the start. -/
def held : List (Turn Key Input Value) → Key → Value → Prop
  | [] => fun _ _ => False
  | turn :: _ => turn.holds

/-- The value was computed, and the key has not changed since. -/
def Current (turns : List (Turn Key Input Value)) (key : Key) (value : Value) : Prop :=
  ∃ later computing older, turns = later ++ computing :: older ∧
    computing.computed key value ∧ ∀ turn ∈ later, ¬turn.Changes key

theorem Current.cons {turns : List (Turn Key Input Value)} {turn : Turn Key Input Value}
    (h : Current turns key value) (hSame : ¬turn.Changes key) :
    Current (turn :: turns) key value := by
  obtain ⟨later, computing, older, rfl, hComputed, hLater⟩ := h
  refine ⟨turn :: later, computing, older, rfl, hComputed, ?_⟩
  intro other hOther
  rcases List.mem_cons.mp hOther with rfl | hOlder
  · exact hSame
  · exact hLater other hOlder

theorem Current.computed {turns : List (Turn Key Input Value)} {turn : Turn Key Input Value}
    (h : turn.computed key value) : Current (turn :: turns) key value :=
  ⟨[], turn, turns, rfl, h, fun _ hMem => absurd hMem List.not_mem_nil⟩

/-- Every operation of the history is sound with what the cache held before it. -/
def SoundHistory : List (Turn Key Input Value) → Prop
  | [] => True
  | turn :: earlier => turn.Sound (held earlier) ∧ SoundHistory earlier

theorem SoundHistory.drop {later earlier : List (Turn Key Input Value)}
    (h : SoundHistory (later ++ earlier)) : SoundHistory earlier := by
  induction later with
  | nil => exact h
  | cons turn rest ih => exact ih h.2

/-- What the cache holds is current. -/
theorem SoundHistory.current {turns : List (Turn Key Input Value)} (h : SoundHistory turns)
    (hHeld : held turns key value) : Current turns key value := by
  induction turns with
  | nil => exact hHeld.elim
  | cons turn earlier ih =>
      rcases h.1.kept key value hHeld with hComputed | ⟨hBefore, hSame⟩
      · exact .computed hComputed
      · exact (ih h.2 hBefore).cons hSame

/-- What is served is computed on the spot, or current. -/
theorem SoundHistory.served {later earlier : List (Turn Key Input Value)}
    {turn : Turn Key Input Value} (h : SoundHistory (later ++ turn :: earlier))
    (hServed : turn.served key value) :
    turn.computed key value ∨ Current earlier key value := by
  have hTurn := h.drop
  rcases hTurn.1.served key value hServed with hComputed | hHeld
  · exact .inl hComputed
  · exact .inr (hTurn.2.current hHeld)

end ReadThrough
