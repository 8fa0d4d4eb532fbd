import Navin.Shipments.ForeignShipments
import Navin.Shipments.OutsideShipment

/-! Which operations on a shipment id leave the shipments of other organisations
alone and reveal nothing about them. An operation does so exactly when it
compares organisations or never comes to look a shipment up. -/
namespace Navin

open Async

namespace ShipmentOperation

/-- The id an operation acts on without comparing organisations, if the request
carries the file it needs. -/
def uncheckedId : ShipmentOperation → Option String
  | .patch id _ | .setStatus id _ | .dispute id _ _ _ | .delete id | .eta id => some id
  | .proof id file _ _ => file.map fun _ => id
  | .document id file _ => (file.filter documentUploadConstraints.accepts).map fun _ => id
  | .photo id file _ => (file.filter photoUploadConstraints.accepts).map fun _ => id
  | .bulkStatus _ _ | .detail _ | .timeline _ _ _ => none

/-- The same for a caller: a request without the role is refused before. -/
def unchecked (caller : Caller) (operation : ShipmentOperation) : Option String :=
  if operation.roles.all (·.contains caller.role) then operation.uncheckedId else none

end ShipmentOperation

section Uniform

variable {caller : Caller} {start start' : Store} {id : String}

/-- The access check answers both runs alike, and never lets a hidden shipment
pass. -/
theorem uniform_isAuthorized (id organizationId : String) :
    Program.Coupled (W := backend) (ForeignUntouched organizationId start start')
      (fun first second => first = second ∧ (first = true → ¬Hidden organizationId start id))
      (isAuthorizedForShipment id (some organizationId))
      (isAuthorizedForShipment id (some organizationId)) := by
  unfold isAuthorizedForShipment
  split
  · rename_i shipmentId asked hShipment hAsked
    cases (Option.filter_eq_some_iff.mp hShipment).1
    cases (Option.filter_eq_some_iff.mp hAsked).1
    refine (ForeignUntouched.find _).bind fun first second hFound => Program.Coupled.pure ?_
    cases hFound with
    | missing => simp
    | own hOwned hShown => simp [hOwned, hShown]
    | foreign hFirst hSecond _ => simp [hFirst, hSecond]
  · exact Program.Coupled.pure (by simp)

theorem uniform_getShipmentById (hRole : caller.role ≠ .superAdmin) (id : String) :
    Uniform caller.organizationId start start' _ (getShipmentByIdService id caller.context) := by
  refine (ForeignUntouched.find id).bind fun first second hFound => ?_
  have hCheck : ∀ first second : Shipment,
      (¬Hidden caller.organizationId start id → first = second) →
      Program.Coupled (W := backend) (ForeignUntouched caller.organizationId start start') (· = ·)
        (authorizeDetail id caller.context first) (authorizeDetail id caller.context second) := by
    intro first second hSame
    simp only [authorizeDetail, Caller.context, hRole, if_false]
    split
    · exact Program.Coupled.throw _
    · rename_i organizationId hOrganization
      obtain ⟨hContext, -⟩ := Option.filter_eq_some_iff.mp hOrganization
      cases hContext
      refine (uniform_isAuthorized id _).bind fun authorized _ hAuthorized => ?_
      obtain ⟨rfl, hShown⟩ := hAuthorized
      cases authorized with
      | false => exact Program.Coupled.throw _
      | true => exact Program.Coupled.pure (hSame (hShown rfl))
  cases hFound with
  | missing => exact Program.Coupled.throw _
  | own _ _ => exact hCheck _ _ fun _ => rfl
  | foreign _ _ hHidden => exact hCheck _ _ fun hShown => absurd hHidden hShown

/-- One turn of the bulk loop: a hidden shipment is refused, any other one is
the same in both snapshots. -/
theorem uniform_bulkUpdateOne [Sha256] {organizationId : String} {snapshot snapshot' : List Shipment}
    {status : ShipmentStatus} {actor : Option String}
    (hFound : FoundAlike organizationId start id
      (snapshot.find? fun shipment => shipment.id.toString = id)
      (snapshot'.find? fun shipment => shipment.id.toString = id)) :
    Program.Coupled (W := backend) (ForeignUntouched organizationId start start') (· = ·)
      (bulkUpdateOne snapshot organizationId status actor id)
      (bulkUpdateOne snapshot' organizationId status actor id) := by
  have hT := uniform_compositional organizationId start start'
  have hAside (call : BackendCall) (h : call.aside = true) :
      Uniform organizationId start start' _ (request call) :=
    uniform_incidental _ _ _ call (BackendCall.incidental_of_aside h)
  unfold bulkUpdateOne
  generalize snapshot.find? _ = first at hFound ⊢
  generalize snapshot'.find? _ = second at hFound ⊢
  cases hFound with
  | missing => exact hT.pure _
  | foreign hFirst hSecond _ =>
      simp only [hFirst, hSecond]
      exact hT.pure _
  | own hOwned hShown =>
      simp only [hOwned, not_true_eq_false, if_false]
      split
      · exact hT.pure _
      · refine hT.bind (milestoneFor_holds hT hAside) fun milestone => ?_
        refine bulkCommit_holds hT hAside (ForeignUntouched.update hShown _) fun updated => ?_
        have hIgnoring := uniform_ignoring organizationId start start'
        exact settleBulkDelivery_holds hT (fun _ => hIgnoring (.paymentFindByShipmentId _) rfl)
          (fun _ => hIgnoring (.releaseEscrow _) rfl)
          fun _ _ => hIgnoring (.paymentFindByIdAndUpdate _ _) rfl

theorem uniform_bulkUpdateLoop [Sha256] {organizationId : String} {snapshot snapshot' : List Shipment}
    {status : ShipmentStatus} {actor : Option String}
    (hFound : ∀ id, FoundAlike organizationId start id
      (snapshot.find? fun shipment => shipment.id.toString = id)
      (snapshot'.find? fun shipment => shipment.id.toString = id))
    (ids : List String) (result : BulkUpdateResult) :
    Program.Coupled (W := backend) (ForeignUntouched organizationId start start') (· = ·)
      (bulkUpdateLoop snapshot organizationId status actor ids result)
      (bulkUpdateLoop snapshot' organizationId status actor ids result) := by
  induction ids generalizing result with
  | nil => exact Program.Coupled.pure rfl
  | cons id rest ih =>
      refine (uniform_bulkUpdateOne (hFound id)).bind fun failure _ hSame => ?_
      subst hSame
      cases failure with
      | none => exact ih _
      | some reason => exact ih _

theorem uniform_requireUpload {organizationId : String} {constraints : UploadConstraints}
    {file : Option UploadedFile} {handler : UploadedFile → BackendM Reply}
    (hHandler : ∀ uploaded, file = some uploaded → constraints.accepts uploaded = true →
      Uniform organizationId start start' _ (handler uploaded)) :
    Uniform organizationId start start' _ (requireUpload constraints file handler) := by
  have hT := uniform_compositional organizationId start start'
  cases file with
  | none => exact hT.throw _
  | some uploaded =>
      unfold requireUpload requireFile
      dsimp only
      split
      · exact hT.throw _
      · rename_i hRefusal
        exact hHandler uploaded rfl ((constraints.check_eq_none_iff _ _ _).mp hRefusal)

theorem uniform_attachFile {organizationId : String} (hCast : ObjectId.cast? id = none)
    {file : UploadedFile} {key : BackendM String} {label userId : Option String}
    {refusal : Shipment → Option ThrownError} {changes : Attachment → ShipmentChanges}
    (hKey : Uniform organizationId start start' _ key) :
    Uniform organizationId start start' _
      (attachFile id file key label userId refusal changes) := by
  have hT := uniform_compositional organizationId start start'
  have hAside := uniform_incidental organizationId start start'
  exact hT.bind (storeFile_holds hT hAside hKey) fun url => uniform_find_bind hCast _

end Uniform

theorem UploadConstraints.accepts_of_filter {constraints : UploadConstraints}
    {file : Option UploadedFile} {text id : String}
    (h : ((file.filter constraints.accepts).map fun _ => text) = some id) :
    text = id ∧ ∃ uploaded, file = some uploaded ∧ constraints.accepts uploaded = true := by
  obtain ⟨uploaded, hFile, rfl⟩ := Option.map_eq_some_iff.mp h
  exact ⟨rfl, uploaded, Option.filter_eq_some_iff.mp hFile⟩

theorem requireUpload_of_accepts {constraints : UploadConstraints} {uploaded : UploadedFile}
    (hAccepts : constraints.accepts uploaded = true) (handler : UploadedFile → BackendM Reply) :
    requireUpload constraints (some uploaded) handler = handler uploaded := by
  have hRefusal : constraints.refusal uploaded = none :=
    (constraints.check_eq_none_iff _ _ _).mpr hAccepts
  simp only [requireUpload, requireFile, hRefusal]

theorem differInForeign_holding {organizationId : String} {first second : Shipment}
    (hId : first.id = second.id) (hFirst : ownedBy first organizationId = false)
    (hSecond : ownedBy second organizationId = false)
    (hLive : first.deletedAt = second.deletedAt) :
    DifferInForeign organizationId (holding first) (holding second) := by
  refine ⟨rfl, fun id => ?_⟩
  by_cases h : second.id = id
  · simp only [holding, Store.shipment, Collection.get?, List.find?_cons, hId, h, decide_true]
    exact .foreign hFirst hSecond (by rw [hLive])
  · simp only [holding, Store.shipment, Collection.get?, List.find?_cons, hId, h, decide_false,
      List.find?_nil]
    exact .same none

section Isolation

variable [Sha256] [Locale] [EtaArithmetic]

/-- Run by itself, the operation keeps every shipment foreign to the caller as
it is, and its outcome does not depend on their contents. -/
structure Isolated (caller : Caller) (operation : ShipmentOperation) : Prop where
  keeps : ∀ env store shipment, shipment ∈ store.shipments.docs →
    ownedBy shipment caller.organizationId = false →
      shipment ∈ ((operation.program caller).run backend env store).1.shipments.docs
  hides : ∀ env store store', DifferInForeign caller.organizationId store store' →
    ((operation.program caller).run backend env store).2.1 =
      ((operation.program caller).run backend env store').2.1

variable {caller : Caller} {operation : ShipmentOperation}

/-- An operation whose id, if it comes to use one, denotes nothing. -/
theorem uniform_handler (hRole : caller.role ≠ .superAdmin)
    (hUnchecked : operation.uncheckedId.bind ObjectId.cast? = none) 
    (start start' : Store) :
    Uniform caller.organizationId start start' _ (operation.handler caller) := by
  have hT := uniform_compositional caller.organizationId start start'
  have hAside := uniform_incidental caller.organizationId start start'
  have hKey (shipmentId folder name : String) :
      Uniform caller.organizationId start start' _ (storageKey shipmentId folder name) :=
    storageKey_holds hT hAside
  cases operation with
  | patch id offChainMetadata => exact uniform_update_bind hUnchecked _ _
  | setStatus id status => exact hT.bind (uniform_find_bind hUnchecked _) fun _ => hT.pure _
  | bulkStatus shipmentIds status =>
      refine hT.bind ?_ fun _ => hT.pure _
      exact (ForeignUntouched.findByIds _).bind fun _ _ hFound => uniform_bulkUpdateLoop hFound _ _
  | proof id file recipientSignatureName notes =>
      cases file with
      | none => exact hT.throw _
      | some file =>
          refine hT.bind (hT.bind (storeFile_holds hT hAside (hKey _ _ _)) fun url => ?_)
            fun _ => hT.pure _
          exact hT.bind (hAside .now rfl) fun now => uniform_update_bind hUnchecked _ _
  | document id file docType =>
      refine uniform_requireUpload fun uploaded hFile hAccepts => hT.bind ?_ fun _ => hT.pure _
      simp only [ShipmentOperation.uncheckedId, hFile, Option.filter_some, hAccepts, if_true,
        Option.map_some, Option.bind_some] at hUnchecked
      exact uniform_attachFile hUnchecked (hKey _ _ _)
  | photo id file caption =>
      refine uniform_requireUpload fun uploaded hFile hAccepts => hT.bind ?_ fun _ => hT.pure _
      simp only [ShipmentOperation.uncheckedId, hFile, Option.filter_some, hAccepts, if_true,
        Option.map_some, Option.bind_some] at hUnchecked
      exact uniform_attachFile hUnchecked (hKey _ _ _)
  | dispute id file type description =>
      refine hT.bind (hT.bind ?_ fun evidence => uniform_find_bind hUnchecked _) fun _ => hT.pure _
      cases file with
      | none => exact hT.pure _
      | some file =>
          refine hT.bind (storeFile_holds hT hAside ?_) fun _ => hT.pure _
          exact hT.bind (hAside .now rfl) fun _ => hKey _ _ _
  | delete id =>
      refine hT.bind (hT.bind (hAside .now rfl) fun now => ?_) fun _ => hT.pure _
      exact uniform_update_bind hUnchecked _ _
  | eta id =>
      refine hT.bind (hT.bind (hAside (.readShipmentEtaCache id) rfl) fun cached => ?_) fun _ =>
        hT.pure _
      cases cached with
      | some payload => exact hT.pure _
      | none => exact uniform_find_bind hUnchecked _
  | detail id => exact hT.bind (uniform_getShipmentById hRole id) fun _ => hT.pure _
  | timeline id cursor limit =>
      refine hT.bind (hT.bind (uniform_getShipmentById hRole id) fun shipment => ?_) fun _ =>
        hT.pure _
      have hIgnoring := uniform_ignoring caller.organizationId start start'
      exact hT.bind (promiseAll_holds hT (hIgnoring (.telemetryFind id) rfl)
        (hIgnoring (.anomalyFind id) rfl)) fun _ => hT.pure _

/-- A request that is refused, or whose unchecked id denotes nothing, behaves
alike over stores that differ in foreign shipments. -/
theorem uniform_program (hRole : caller.role ≠ .superAdmin)
    (hUnchecked : (operation.unchecked caller).bind ObjectId.cast? = none)
    (start start' : Store) :
    Uniform caller.organizationId start start' _ (operation.program caller) := by
  have hT := uniform_compositional caller.organizationId start start'
  have hHandled (hAdmitted : operation.roles.all (·.contains caller.role) = true) :
      Uniform caller.organizationId start start' _ (operation.handler caller) := by
    simp only [ShipmentOperation.unchecked, hAdmitted, if_true] at hUnchecked
    exact uniform_handler hRole hUnchecked start start'
  unfold ShipmentOperation.program requireRole
  dsimp only
  split
  · rename_i hRoles
    split
    · exact hT.throw _
    · exact hHandled (by simp [hRoles])
  · rename_i roles hRoles
    split
    · rename_i hMem
      split
      · exact hT.throw _
      · exact hHandled (by simp [hRoles, hMem])
    · exact hT.throw _

theorem isolated_of_unchecked (hRole : caller.role ≠ .superAdmin)
    (hUnchecked : (operation.unchecked caller).bind ObjectId.cast? = none) :
    Isolated caller operation where
  keeps env store shipment hMem hForeign := by
    have hSelf : DifferInForeign caller.organizationId store store := ⟨rfl, fun _ => .same _⟩
    obtain ⟨hKept, -⟩ := uniform_program hRole hUnchecked store store env store store (.refl hSelf)
    have hStored : store.shipment shipment.id = some shipment := store.shipments.get?_of_mem hMem
    have hLeft := hKept.left shipment.id
    simp only [Store.foreignShipment, hStored, Option.filter_some, hForeign, Bool.not_false,
      if_true, Option.filter_eq_some_iff] at hLeft
    exact (Collection.get?_eq_some_iff _).mp hLeft.1 |>.1
  hides env store store' hDiffer := by
    obtain ⟨-, hOutcomes, -⟩ :=
      uniform_program hRole hUnchecked store store' env store store' (.refl hDiffer)
    exact matching_eq.mp hOutcomes

/-- The upload filter passes what an unchecked operation carries. -/
theorem ShipmentOperation.program_of_unchecked {id : String}
    (h : operation.unchecked caller = some id) :
    operation.program caller = operation.handler caller ∧ operation.uncheckedId = some id := by
  unfold unchecked at h
  split at h
  · rename_i hAdmitted
    refine ⟨?_, h⟩
    have hFilter : operation.uploadError = none := by
      cases operation with
      | document id file docType =>
          obtain ⟨-, uploaded, rfl, hAccepts⟩ := UploadConstraints.accepts_of_filter h
          exact (UploadConstraints.check_eq_none_iff _ _ _ _).mpr hAccepts
      | photo id file caption =>
          obtain ⟨-, uploaded, rfl, hAccepts⟩ := UploadConstraints.accepts_of_filter h
          exact (UploadConstraints.check_eq_none_iff _ _ _ _).mpr hAccepts
      | _ => rfl
    unfold program requireRole
    simp only [hFilter]
    split
    · rfl
    · rename_i roles hRoles
      have hMem : caller.role ∈ roles := by simpa [hRoles] using hAdmitted
      rw [if_pos hMem]
  · cases h

theorem not_isolated_of_rewritten {key : ObjectId}
    (h : Rewritten ((operation.program caller).run backend steady
      (holding (outsideShipment caller.organizationId key))).1.shipments) :
    ¬Isolated caller operation := by
  intro isolated
  have hKept := isolated.keeps steady (holding (outsideShipment caller.organizationId key))
    (outsideShipment caller.organizationId key) (by simp [holding]) (ownedBy_outsideShipment _ _)
  have hTime := h _ hKept
  simp [outsideShipment, sampleShipment] at hTime

/-- The reply to a repeated status carries the whole shipment. -/
theorem setStatus_reveals {id : String} {key : ObjectId} {status : ShipmentStatus}
    (hProgram : (ShipmentOperation.setStatus id status).program caller =
      (ShipmentOperation.setStatus id status).handler caller)
    (hCast : ObjectId.cast? id = some key) : ¬Isolated caller (.setStatus id status) := by
  intro isolated
  have hForeign := ownedBy_outsideShipment caller.organizationId key
  let first : Shipment := { outsideShipment caller.organizationId key with status }
  let second : Shipment := { first with origin := "Kano" }
  have hSame := isolated.hides steady (holding first) (holding second)
    (differInForeign_holding rfl hForeign hForeign rfl)
  have hFirst := run_setStatus_same hCast caller.userId first rfl rfl
  have hSecond := run_setStatus_same hCast caller.userId second rfl rfl
  rw [hProgram, ShipmentOperation.handler, Program.run_map, Program.run_map, hFirst, hSecond] at hSame
  injection hSame with hReply
  injection hReply with _ _ hData
  injection hData with hResult
  injection hResult with hShipment
  have hOrigin : "Lagos" = "Kano" := congrArg Shipment.origin hShipment
  exact absurd hOrigin (by decide)

/-- The estimate tells a shipment in transit from one that is not. -/
theorem eta_reveals {id : String} {key : ObjectId} (hCast : ObjectId.cast? id = some key) :
    ¬Isolated caller (.eta id) := by
  intro isolated
  have hForeign := ownedBy_outsideShipment caller.organizationId key
  let first := outsideShipment caller.organizationId key
  let second : Shipment := { first with status := .inTransit }
  have hSame := congrArg Except.isOk <| isolated.hides steady (holding first) (holding second)
    (differInForeign_holding rfl hForeign hForeign rfl)
  have hIsOk (shipment : Shipment) (hId : shipment.id = key) (hLive : shipment.deletedAt = none)
      (hMetadata : shipment.offChainMetadata = none) :
      (((ShipmentOperation.eta id).program caller).run backend steady (holding shipment)).2.1.isOk =
        decide (shipment.status ≠ .inTransit) := by
    rw [← run_eta hCast hId hLive hMetadata]
    change ((_ <$> getShipmentEtaService id).run backend steady (holding shipment)).2.1.isOk = _
    rw [Program.run_map]
    cases ((getShipmentEtaService id).run backend steady (holding shipment)).2.1 <;> rfl
  rw [hIsOk first rfl rfl rfl, hIsOk second rfl rfl rfl] at hSame
  have hStatus : first.status = .created := rfl
  simp [hStatus, second] at hSame

/-- Every unchecked operation reaches a shipment of others. -/
theorem not_isolated_of_unchecked {id : String} {key : ObjectId}
    (hUnchecked : operation.unchecked caller = some id) (hCast : ObjectId.cast? id = some key) :
    ¬Isolated caller operation := by
  obtain ⟨hProgram, hId⟩ := ShipmentOperation.program_of_unchecked hUnchecked
  have hWrite (h : Rewritten ((operation.handler caller).run backend steady
      (holding (outsideShipment caller.organizationId key))).1.shipments) :
      ¬Isolated caller operation := by
    rw [← hProgram] at h
    exact not_isolated_of_rewritten h
  cases operation with
  | patch _ offChainMetadata =>
      cases hId
      refine hWrite ?_
      rw [ShipmentOperation.handler, Program.run_map]
      exact patch_rewrites hCast offChainMetadata
  | proof _ file recipientSignatureName notes =>
      obtain ⟨uploaded, rfl, hText⟩ := Option.map_eq_some_iff.mp hId
      cases hText
      refine hWrite ?_
      rw [ShipmentOperation.handler, requireFile, Program.run_map]
      exact proof_rewrites hCast recipientSignatureName notes
  | document _ file docType =>
      obtain ⟨hText, uploaded, rfl, hAccepts⟩ := UploadConstraints.accepts_of_filter hId
      cases hText
      refine hWrite ?_
      rw [ShipmentOperation.handler, requireUpload_of_accepts hAccepts, Program.run_map]
      exact attachFile_rewrites hCast rfl
  | photo _ file caption =>
      obtain ⟨hText, uploaded, rfl, hAccepts⟩ := UploadConstraints.accepts_of_filter hId
      cases hText
      refine hWrite ?_
      rw [ShipmentOperation.handler, requireUpload_of_accepts hAccepts, Program.run_map]
      exact attachFile_rewrites hCast rfl
  | dispute _ file type description =>
      cases hId
      refine hWrite ?_
      rw [ShipmentOperation.handler, Program.run_map]
      exact dispute_rewrites hCast file type description
  | delete _ =>
      cases hId
      refine hWrite ?_
      rw [ShipmentOperation.handler, Program.run_map]
      exact delete_rewrites hCast
  | setStatus _ status =>
      cases hId
      exact setStatus_reveals hProgram hCast
  | eta _ =>
      cases hId
      exact eta_reveals hCast
  | _ => cases hId

/-- An operation isolates tenants exactly when nothing comes of its unchecked
id: it has none, the request is refused, or the id denotes nothing. -/
theorem isolated_iff (hRole : caller.role ≠ .superAdmin) :
    Isolated caller operation ↔ (operation.unchecked caller).bind ObjectId.cast? = none := by
  refine ⟨fun isolated => ?_, isolated_of_unchecked hRole⟩
  by_contra hSome
  obtain ⟨key, hKey⟩ := Option.ne_none_iff_exists'.mp hSome
  obtain ⟨id, hUnchecked, hCast⟩ := Option.bind_eq_some_iff.mp hKey
  exact not_isolated_of_unchecked hUnchecked hCast isolated

end Isolation

/-- A manager of an organisation that takes no part in the sample shipment. -/
def sampleManager : Caller :=
  ⟨some "u1", .manager, (ObjectId.repeated 13).toString⟩

/-- The manager's bulk updates are isolated, a single update of the sample
shipment is not. -/
theorem isolated_iff_sample :
    @Isolated (tabulatedSha256 []) ⟨fun _ _ => 0⟩ ⟨fun _ _ _ _ => .unavailable ""⟩ sampleManager
        (.bulkStatus [sampleShipment.id.toString] .cancelled) ∧
      ¬@Isolated (tabulatedSha256 []) ⟨fun _ _ => 0⟩ ⟨fun _ _ _ _ => .unavailable ""⟩ sampleManager
        (.setStatus sampleShipment.id.toString .cancelled) := by
  have hIff (operation : ShipmentOperation) :=
    @isolated_iff (tabulatedSha256 []) ⟨fun _ _ => 0⟩ ⟨fun _ _ _ _ => .unavailable ""⟩
      sampleManager operation (by decide)
  have hCast : ObjectId.cast? sampleShipment.id.toString = some sampleShipment.id :=
    ObjectId.cast?_toString _
  refine ⟨(hIff _).mpr rfl, fun isolated => ?_⟩
  have hNone := (hIff _).mp isolated
  change ObjectId.cast? sampleShipment.id.toString = none at hNone
  rw [hCast] at hNone
  cases hNone

/-- The manager deletes the sample shipment of two other organisations. -/
theorem manager_deletes_foreign_shipment :
    ¬@Isolated (tabulatedSha256 []) ⟨fun _ _ => 0⟩ ⟨fun _ _ _ _ => .unavailable ""⟩ sampleManager
      (.delete sampleShipment.id.toString) :=
  @not_isolated_of_unchecked (tabulatedSha256 []) ⟨fun _ _ => 0⟩ ⟨fun _ _ _ _ => .unavailable ""⟩ _ _ _
    sampleShipment.id rfl (ObjectId.cast?_toString _)

end Navin
