import Navin.Semantics.Noninterference
import Navin.ShipmentTemplates.Service

/-! Organisations do not notice each other's templates. However requests of any organisations
interleave and fail, what the requests of one are answered, and what templates it is left
with, does not depend on the others being there. -/
namespace Navin.ShipmentTemplates

open Async Program

/-- The organisation a request acts for, if its caller has a well-formed one. -/
abbrev Organization : Type :=
  Option ObjectId

/-- A call on behalf of an organisation. -/
def TemplateCall.actsFor (organization : Organization) : TemplateCall → Prop
  | .currentDate => True
  | .create _ _ organizationId | .find organizationId | .findOne _ organizationId
  | .findOneAndUpdate _ organizationId _ => ObjectId.cast? organizationId = organization

def Organization.owns (organization : Organization) (template : ShipmentTemplate) : Bool :=
  some template.organizationId = organization

/-- The templates of one organisation. -/
def templatesOf (organization : Organization) (store : TemplateStore) : TemplateStore :=
  store.filter organization.owns

variable {organization other : Organization} {owner : ObjectId} {template : ShipmentTemplate}

theorem owns_of_selected (h : template.selected owner = true) :
    Organization.owns (some owner) template = true := by
  simp only [ShipmentTemplate.selected, Bool.and_eq_true, decide_eq_true_eq] at h
  simp [Organization.owns, h.1]

theorem not_owns_of_selected (h : template.selected owner = true)
    (hOther : some owner ≠ organization) : organization.owns template = false := by
  simp only [ShipmentTemplate.selected, Bool.and_eq_true, decide_eq_true_eq] at h
  simpa [Organization.owns, h.1] using hOther

theorem owns_apply (update : TemplateUpdate) (now : Date) (template : ShipmentTemplate) :
    organization.owns (update.apply now template) = organization.owns template := by
  simp [Organization.owns]

section Calls

variable [SchemaValidation] {freshId : ObjectId} {now : Date} {store : TemplateStore}
  {call : TemplateCall}

/-- A call of another organisation changes none of the templates. -/
theorem execute_unnoticed (hOther : other ≠ organization) (hCall : call.actsFor other) :
    templatesOf organization (execute freshId now store call).1 =
      templatesOf organization store := by
  cases call with
  | currentDate => rfl
  | find organizationId =>
      simp only [execute, castingId]
      split <;> rfl
  | findOne id organizationId =>
      simp only [execute, castingId]
      split
      · rfl
      · split <;> rfl
  | create name fields organizationId =>
      simp only [execute]
      split
      · rfl
      · rename_i owner hOwner
        have hForeign : some owner ≠ organization := fun h => hOther (hCall.symm.trans (hOwner.trans h))
        split
        · rfl
        · split
          · rename_i hFree
            exact Collection.filter_insert_unseen _ hFree (decide_eq_false hForeign)
          · rfl
  | findOneAndUpdate id organizationId update =>
      simp only [execute, castingId]
      split
      · rfl
      · rename_i id _
        split
        · rfl
        · rename_i owner hOwner
          have hForeign : some owner ≠ organization := fun h => hOther (hCall.symm.trans (hOwner.trans h))
          split
          · rfl
          · split
            · rfl
            · rename_i template hFound
              obtain ⟨hThere, hSelected⟩ := Option.filter_eq_some_iff.mp hFound
              refine Collection.filter_modify_unseen _ (update.apply_id now) (owns_apply update now) fun doc hDoc => ?_
              cases hDoc.symm.trans hThere
              exact not_owns_of_selected hSelected hForeign

/-- A call of the organisation is answered from its own templates, except that an identifier
may be taken by a template of another one. -/
theorem execute_answered (hCall : call.actsFor organization) :
    ((execute freshId now (templatesOf organization store) call).2 =
        (execute freshId now store call).2 ∧
      (execute freshId now (templatesOf organization store) call).1 =
        templatesOf organization (execute freshId now store call).1) ∨
      execute freshId now store call = (store, .error .duplicateKey) := by
  cases call with
  | currentDate => exact .inl ⟨rfl, rfl⟩
  | find organizationId =>
      refine .inl ?_
      simp only [execute, castingId]
      split
      · exact ⟨rfl, rfl⟩
      · rename_i owner hOwner
        cases hOwner.symm.trans hCall
        refine ⟨?_, rfl⟩
        rw [templatesOf, Collection.filter_filter_of_imp _ fun _ => owns_of_selected]
  | findOne id organizationId =>
      refine .inl ?_
      simp only [execute, castingId]
      split
      · exact ⟨rfl, rfl⟩
      · split
        · exact ⟨rfl, rfl⟩
        · rename_i owner hOwner
          cases hOwner.symm.trans hCall
          refine ⟨?_, rfl⟩
          rw [templatesOf, Collection.get?_filter_filter _ fun _ => owns_of_selected]
  | create name fields organizationId =>
      simp only [execute]
      split
      · exact .inl ⟨rfl, rfl⟩
      · rename_i owner hOwner
        cases hOwner.symm.trans hCall
        split
        · exact .inl ⟨rfl, rfl⟩
        · by_cases hFree : store.get? freshId = none
          · have hPart := store.get?_filter_eq_none hFree (Organization.owns (some owner))
            rw [dif_pos hFree, templatesOf, dif_pos hPart]
            exact .inl ⟨rfl, (store.filter_insert hFree hPart (decide_eq_true rfl)).symm⟩
          · exact .inr (dif_neg hFree)
  | findOneAndUpdate id organizationId update =>
      refine .inl ?_
      simp only [execute, castingId]
      split
      · exact ⟨rfl, rfl⟩
      · rename_i id _
        split
        · exact ⟨rfl, rfl⟩
        · rename_i owner hOwner
          cases hOwner.symm.trans hCall
          split
          · exact ⟨rfl, rfl⟩
          · rw [templatesOf, Collection.get?_filter_filter _ fun _ => owns_of_selected]
            split
            · exact ⟨rfl, rfl⟩
            · exact ⟨rfl, (store.filter_modify (update.apply_id now) (owns_apply update now)).symm⟩

/-- The calls on behalf of organisations keep their templates apart. -/
theorem separates : Separates templates TemplateCall.actsFor
    fun organization store part => part = templatesOf organization store where
  unnoticed {organization other call store part} hOther hCall hPart decision := by
    subst hPart
    exact (faultedBy_view (templatesOf organization) (execute_unnoticed hOther hCall)).symm
  answered {organization call store part} hCall hPart decision := by
    subst hPart
    obtain ⟨fault, hRelated⟩ :=
      exists_fault_related (R := fun store part => part = templatesOf organization store) rfl
        ((execute_answered hCall).imp id fun h => ⟨_, h⟩)
    exact ⟨{ decision with fault }, hRelated⟩

end Calls

section Requests

variable {caller : Caller} {request : TemplateRequest}

theorem uses_orNotFound {C : TemplateCall → Prop} (found : Option ShipmentTemplate) :
    (orNotFound found).Uses C := by
  cases found with
  | none => exact .throw
  | some template => exact .pure

/-- A request calls on behalf of its caller's organisation only. -/
theorem uses_serve (organizationId : String) (request : TemplateRequest) :
    (request.serve organizationId).Uses
      (TemplateCall.actsFor (ObjectId.cast? organizationId)) := by
  have hAsk (call : TemplateCall) (h : call.actsFor (ObjectId.cast? organizationId)) :
      (ask call).Uses (TemplateCall.actsFor (ObjectId.cast? organizationId)) := .await h
  cases request with
  | getTemplates => exact (hAsk (.find organizationId) rfl).bind fun _ => .pure
  | createTemplate name fields =>
      exact (hAsk (.create name fields organizationId) rfl).bind fun _ => .pure
  | getTemplateById id =>
      exact ((hAsk (.findOne id organizationId) rfl).bind uses_orNotFound).bind fun _ => .pure
  | updateTemplate id name fields =>
      exact ((hAsk (.findOneAndUpdate id organizationId (.set name fields)) rfl).bind
        uses_orNotFound).bind fun _ => .pure
  | deleteTemplate id =>
      have hDelete (now : Date) := hAsk (.findOneAndUpdate id organizationId (.deletedAt now)) rfl
      exact ((hAsk .currentDate trivial).bind fun now => (hDelete now).bind uses_orNotFound).bind
        fun _ => .pure

theorem uses_program (caller : Caller) (request : TemplateRequest) :
    (request.program caller).Uses
      (TemplateCall.actsFor (ObjectId.cast? caller.organizationId)) := by
  unfold TemplateRequest.program
  split
  · exact .throw
  · split
    · exact .throw
    · exact uses_serve _ _

end Requests

variable {ι : Type} [DecidableEq ι]

/-- The organisation that each request acts for. -/
def actsIn (requests : ι → Caller × TemplateRequest) (i : ι) : Organization :=
  ObjectId.cast? (requests i).1.organizationId

/-- Whatever is called on behalf of an organisation while others are served, and however it
settles, could be seen by its requests alone on a database that holds only its templates, and
the templates it is left with are the same. -/
theorem served_alone [SchemaValidation] {store : TemplateStore}
    {requests : ι → Caller × TemplateRequest} {point : Point templates ι TemplateReply}
    (run : GuardedRun anyStep (templatePool store requests) point) (organization : Organization) :
    ∃ alone, GuardedRun (actingFor (actsIn requests) organization)
        (templatePool (templatesOf organization store) requests) alone ∧
      alone.1 = point.1.filter (fun event => actsIn requests event.thread = organization) ∧
      alone.2.store = templatesOf organization point.2.store ∧
      ∀ i, actsIn requests i = organization → alone.2.thread i = point.2.thread i :=
  separates.alone (fun i => uses_program (requests i).1 (requests i).2) run rfl

section Sample

private instance sampleValidation : SchemaValidation where
  refused _ := .unavailable

private def sampleFields : TemplateFields :=
  ⟨some "Lagos", some "Accra", none, none, none, none⟩

/-- A template is created in one organisation and listed in two. -/
private def sampleRequests (i : Fin 3) : Caller × TemplateRequest :=
  if i = 0 then
    (⟨none, .manager, (ObjectId.repeated 11).toString⟩, .createTemplate "Cold chain" sampleFields)
  else if i = 1 then (⟨none, .viewer, (ObjectId.repeated 11).toString⟩, .getTemplates)
  else (⟨none, .viewer, (ObjectId.repeated 12).toString⟩, .getTemplates)

private def calm : TemplateDecision :=
  ⟨.repeated 1, ⟨0⟩, none⟩

/-- The listing of the second organisation is all that its run alone consists of. -/
theorem served_alone_sample :
    ∃ point alone, GuardedRun anyStep (templatePool .empty sampleRequests) point ∧
      point.1.length = 3 ∧
      GuardedRun (actingFor (actsIn sampleRequests) (some (.repeated 12)))
        (templatePool (templatesOf (some (.repeated 12)) .empty) sampleRequests) alone ∧
      alone.1 =
        point.1.filter (fun event => actsIn sampleRequests event.thread = some (.repeated 12)) := by
  obtain ⟨point, run, hTest⟩ := Pool.exists_run anyStep (templatePool .empty sampleRequests)
    (fun point => point.1.length = 3) [(calm, 0), (calm, 1), (calm, 2)] (by decide +kernel)
  obtain ⟨alone, runAlone, hHistory, -, -⟩ := served_alone run (some (.repeated 12))
  exact ⟨point, alone, run, of_decide_eq_true hTest, runAlone, hHistory⟩

end Sample

end Navin.ShipmentTemplates
