import Navin.Shared.Domain

/-! Calls that fail. A refused call has no effect, and a call whose answer is lost has all
of it. -/
namespace Navin

variable {σ α β : Type}

/-- What comes of an effect if its call meets a fault. -/
def faultedBy (fault : Option Fault) (store : σ) (effect : σ × Except ThrownError α) :
    σ × Except ThrownError α :=
  match fault with
  | none => effect
  | some (.rejected error) => (store, .error error)
  | some (.lost error) => (effect.1, .error error)

variable {fault : Option Fault} {store : σ} {effect : σ × Except ThrownError α}

/-- A call takes effect, or it fails and changes nothing. -/
theorem faultedBy_cases :
    (faultedBy fault store effect).1 = effect.1 ∨
      (∃ error, (faultedBy fault store effect).2 = .error error) ∧
        (faultedBy fault store effect).1 = store := by
  rcases fault with _ | _ | _
  · exact .inl rfl
  · exact .inr ⟨⟨_, rfl⟩, rfl⟩
  · exact .inl rfl

/-- An answer is that of a call that went through. -/
theorem faultedBy_ok {answer : α} (h : (faultedBy fault store effect).2 = .ok answer) :
    faultedBy fault store effect = effect := by
  rcases fault with _ | _ | _
  · rfl
  · cases h
  · cases h

/-- What the effect keeps true is kept true. -/
theorem faultedBy_invariant {Inv : σ → Prop} (hStore : Inv store) (hEffect : Inv effect.1) :
    Inv (faultedBy fault store effect).1 := by
  rcases fault with _ | _ | _
  · exact hEffect
  · exact hStore
  · exact hEffect

/-- What the effect leaves alone is left alone. -/
theorem faultedBy_view (view : σ → β) (hEffect : view effect.1 = view store) :
    view (faultedBy fault store effect).1 = view store :=
  @faultedBy_invariant σ α fault store effect (view · = view store) rfl hEffect

/-- Effects that are answered alike and leave related stores do so under the same fault. -/
theorem faultedBy_related {R : σ → σ → Prop} {store' : σ} {effect' : σ × Except ThrownError α}
    (hStores : R store store') (hAnswers : effect'.2 = effect.2) (hEffects : R effect.1 effect'.1) :
    (faultedBy fault store' effect').2 = (faultedBy fault store effect).2 ∧
      R (faultedBy fault store effect).1 (faultedBy fault store' effect').1 := by
  rcases fault with _ | _ | _
  · exact ⟨hAnswers, hEffects⟩
  · exact ⟨rfl, hStores⟩
  · exact ⟨rfl, hEffects⟩

/-- A call that only fails could have been refused. -/
theorem exists_refusal {error : ThrownError} (h : effect = (store, .error error)) :
    ∃ refused, faultedBy fault store effect = (store, .error refused) := by
  subst h
  rcases fault with _ | _ | _
  · exact ⟨_, rfl⟩
  · exact ⟨_, rfl⟩
  · exact ⟨_, rfl⟩

/-- Where effects that are answered alike keep stores related, or the first one only fails,
there is a fault that keeps them so. -/
theorem exists_fault_related {R : σ → σ → Prop} {store' : σ}
    {effect' : σ × Except ThrownError α} (hStores : R store store')
    (h : (effect'.2 = effect.2 ∧ R effect.1 effect'.1) ∨ ∃ error, effect = (store, .error error)) :
    ∃ fault', (faultedBy fault' store' effect').2 = (faultedBy fault store effect).2 ∧
      R (faultedBy fault store effect).1 (faultedBy fault' store' effect').1 := by
  rcases h with ⟨hAnswers, hEffects⟩ | ⟨_, hTaken⟩
  · exact ⟨fault, faultedBy_related hStores hAnswers hEffects⟩
  · obtain ⟨error, hRefused⟩ := @exists_refusal _ _ fault _ _ _ hTaken
    refine ⟨some (.rejected error), ?_⟩
    rw [hRefused]
    exact ⟨rfl, hStores⟩

end Navin
