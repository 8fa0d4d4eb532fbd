import Mathlib.Data.List.Chain
import Mathlib.Data.List.Nodup
import Mathlib.Order.Basic

/-! Histories of a state machine to which entries are only ever added. -/
namespace Async

variable {State : Type} {step : State → State → Prop} {start state next : State}
  {entered : List State}

/-- Going through the `entered` states, one allowed step after the other, a
machine that started in `start` has arrived in `state`. -/
structure History (step : State → State → Prop) (start : State) (entered : List State)
    (state : State) : Prop where
  path : List.IsChain step (start :: entered)
  arrived : (start :: entered).getLast (List.cons_ne_nil _ _) = state

namespace History

theorem refl (step : State → State → Prop) (start : State) : History step start [] start :=
  ⟨List.isChain_singleton start, rfl⟩

/-- Entering a state extends the history. -/
theorem enter (h : History step start entered state) (hStep : step state next) :
    History step start (entered ++ [next]) next := by
  constructor
  · rw [← List.cons_append, List.isChain_append]
    refine ⟨h.path, List.isChain_singleton next, fun last hLast first hFirst => ?_⟩
    obtain rfl : next = first := by simpa using hFirst
    rw [List.getLast?_eq_some_getLast (List.cons_ne_nil _ _), Option.mem_some_iff,
      h.arrived] at hLast
    exact hLast ▸ hStep
  · simp

variable {Rank : Type} [Preorder Rank] {rank : State → Rank}

/-- Where steps only go up, no state is entered twice. -/
theorem nodup (h : History step start entered state)
    (hRank : ∀ a b, step a b → rank a < rank b) : (start :: entered).Nodup := by
  have hUp : List.IsChain (fun a b => rank a < rank b) (start :: entered) := h.path.imp hRank
  have : IsTrans State fun a b => rank a < rank b := ⟨fun _ _ _ => lt_trans⟩
  refine (List.isChain_iff_pairwise.mp hUp).imp fun {a b} hLt hEq => ?_
  exact lt_irrefl _ (hEq ▸ hLt)

/-- A machine whose steps only go up is where it started just when it has not
moved. -/
theorem eq_nil_iff (h : History step start entered state)
    (hRank : ∀ a b, step a b → rank a < rank b) : entered = [] ↔ state = start := by
  constructor
  · rintro rfl
    exact h.arrived.symm
  · rintro rfl
    by_contra hNe
    have hLast : entered.getLast hNe = state := by
      rw [← List.getLast_cons hNe]
      exact h.arrived
    have hStart := (List.nodup_cons.mp (h.nodup hRank)).1
    exact hStart (hLast ▸ List.getLast_mem hNe)

theorem getLast?_eq (h : History step start entered state) (hNe : entered ≠ []) :
    entered.getLast? = some state := by
  rw [List.getLast?_eq_some_getLast hNe, ← h.arrived, List.getLast_cons hNe]

end History

end Async
