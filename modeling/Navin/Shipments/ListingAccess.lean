import Navin.Backend.World
import Navin.Shipments.ListService
import Navin.Shipments.QueryService

/-! The access relation of shipments is written three times: as a filter of the
listing, as a filter of the export, and as a check of a loaded shipment. -/
namespace Navin

open Async

/-- Nothing fails. -/
abbrev quiet : Nat → Decision :=
  fun _ => .ok

section Listing

variable [TextMatching] {store : Store} {organizationId : String} {shipment : Shipment}

/-- Some page of the listing for `organizationId`, without other filters, shows
the shipment. -/
def Listed (store : Store) (organizationId : String) (limit : Nat) (shipment : Shipment) : Prop :=
  ∃ page result, ((getShipmentsService
      { page, limit, filters := ⟨some organizationId⟩ }).run backend quiet store).2.1 = .ok result ∧
    shipment ∈ result.data

/-- The export for `organizationId`, without other filters. -/
def exported (store : Store) (organizationId : String) : Except ThrownError (List Shipment) :=
  ((exportShipmentsService { organizationId := some organizationId }).run backend quiet store).2.1

/-- The shipment is stored, not deleted, and the access check accepts it. -/
def Authorized (store : Store) (organizationId : String) (shipment : Shipment) : Prop :=
  shipment ∈ store.shipments.docs ∧ shipment.deletedAt = none ∧
    ((isAuthorizedForShipment shipment.id.toString (some organizationId)).run
      backend quiet store).2.1 = .ok true

theorem run_getShipments (params : ListParams) (store : Store) :
    ((getShipmentsService params).run backend quiet store).2.1 =
      .ok { data := window (offsetSkip params.page params.limit) params.limit
              (params.query.live.select params.sort store.shipments.docs)
            page := params.page
            limit := params.limit
            total := (store.shipments.docs.filter params.query.live.accepts).length } := rfl

/-- The pages together show the live shipments that the query accepts. -/
theorem mem_listing_iff (params : ListParams) (hLimit : 0 < params.limit) :
    (∃ page result, ((getShipmentsService { params with page }).run backend quiet store).2.1 =
        .ok result ∧ shipment ∈ result.data) ↔
      shipment ∈ store.shipments.docs ∧ shipment.deletedAt = none ∧
        params.query.accepts shipment = true := by
  have hPages : shipment ∈ params.query.live.select params.sort store.shipments.docs ↔
      shipment ∈ store.shipments.docs ∧ shipment.deletedAt = none ∧
        params.query.accepts shipment = true := by
    simp only [Query.mem_select_iff, Query.accepts_live, Bool.and_eq_true, Option.isNone_iff_eq_none]
  rw [← hPages, ← mem_pages_iff hLimit]
  constructor
  · rintro ⟨page, result, hRun, hMem⟩
    rw [run_getShipments] at hRun
    cases hRun
    exact ⟨page, hMem⟩
  · rintro ⟨page, hMem⟩
    exact ⟨page, _, run_getShipments _ store, hMem⟩

theorem run_export (params : ExportParams) (store : Store) :
    ((exportShipmentsService params).run backend quiet store).2.1 =
      if exportMaxRecords < (store.shipments.docs.filter params.query.live.accepts).length then
        .error (exportTooLarge (store.shipments.docs.filter params.query.live.accepts).length)
      else .ok (window 0 exportMaxRecords
        (params.query.live.select [("createdAt", .descending)] store.shipments.docs)) := by
  rw [exportShipmentsService, Program.run_bind, Program.run_await]
  simp only [perform, Decision.ok, execute]
  split <;> rfl

theorem mem_export_iff {params : ExportParams} {result : List Shipment}
    (hResult : ((exportShipmentsService params).run backend quiet store).2.1 = .ok result) :
    shipment ∈ result ↔ shipment ∈ store.shipments.docs ∧ shipment.deletedAt = none ∧
      params.query.accepts shipment = true := by
  rw [run_export] at hResult
  split at hResult
  · cases hResult
  · rename_i hCount
    cases hResult
    have hAll : window 0 exportMaxRecords
        (params.query.live.select [("createdAt", .descending)] store.shipments.docs) =
        params.query.live.select [("createdAt", .descending)] store.shipments.docs := by
      rw [window, if_neg (by decide), List.drop_zero, List.take_of_length_le]
      rw [Query.select, List.length_insertionSort]
      omega
    rw [hAll, Query.mem_select_iff, Query.accepts_live, Bool.and_eq_true, Option.isNone_iff_eq_none]

omit [TextMatching] in
/-- The check of a stored live shipment. -/
theorem run_isAuthorized (hStored : store.shipment shipment.id = some shipment)
    (hLive : shipment.deletedAt = none) :
    ((isAuthorizedForShipment shipment.id.toString (some organizationId)).run
      backend quiet store).2.1 =
        .ok (decide (organizationId ≠ "") && ownedBy shipment organizationId) := by
  have hId : truthy (some shipment.id.toString) = some shipment.id.toString := by
    simp [truthy, Option.filter_some, ObjectId.toString_ne_empty]
  have hFound : store.liveShipment shipment.id = some shipment := by
    simp [Store.liveShipment, hStored, hLive, Option.filter_some]
  by_cases hEmpty : organizationId = ""
  · subst hEmpty
    rw [isAuthorizedForShipment, hId]
    rfl
  · have hOrganization : truthy (some organizationId) = some organizationId := by
      simp [truthy, Option.filter_some, hEmpty]
    rw [isAuthorizedForShipment, hId, hOrganization]
    simp only [findShipmentById, Program.run_bind, Program.run_await, perform, Decision.ok, execute,
      castingId, ObjectId.cast?_toString, hFound, Program.run_pure, Option.any_some, hEmpty,
      ne_eq, not_false_eq_true, decide_true, Bool.true_and]

omit [TextMatching] in
theorem authorized_iff : Authorized store organizationId shipment ↔
    shipment ∈ store.shipments.docs ∧ shipment.deletedAt = none ∧ organizationId ≠ "" ∧
      ownedBy shipment organizationId = true := by
  refine and_congr_right fun hMem => and_congr_right fun hLive => ?_
  rw [run_isAuthorized (store.shipments.get?_of_mem hMem) hLive]
  simp

/-- The query of a listing or an export without other filters. -/
def organizationQuery (organizationId : String) : Query where
  conditions := givenConditions [("organizationId", organizationCondition (some organizationId))]

omit [TextMatching] in
/-- Shipments have no `organizationId`, so the filter accepts nothing; an empty
one is not sent and everything is accepted. -/
theorem organizationQuery_accepts_iff :
    (organizationQuery organizationId).accepts shipment = true ↔ organizationId = "" := by
  constructor
  · intro hAccepts
    by_contra hEmpty
    have hMem : ("organizationId", .equals (.string organizationId)) ∈
        (organizationQuery organizationId).conditions := by
      simp [organizationQuery, givenConditions, organizationCondition, truthy, Option.filter_some,
        hEmpty]
    rw [Query.not_accepts_of_unknown hMem (by simp) rfl] at hAccepts
    cases hAccepts
  · rintro rfl
    rfl

theorem listed_iff {limit : Nat} (hLimit : 0 < limit) :
    Listed store organizationId limit shipment ↔
      shipment ∈ store.shipments.docs ∧ shipment.deletedAt = none ∧ organizationId = "" := by
  have hQuery (page : Nat) :
      ListParams.query { page, limit, filters := ⟨some organizationId⟩ } =
        organizationQuery organizationId := by
    unfold organizationQuery ListParams.query givenConditions
    cases organizationCondition (some organizationId) <;> rfl
  refine (mem_listing_iff { page := 1, limit, filters := ⟨some organizationId⟩ } hLimit).trans ?_
  rw [hQuery, organizationQuery_accepts_iff]

theorem mem_exported_iff {result : List Shipment}
    (hResult : exported store organizationId = .ok result) :
    shipment ∈ result ↔
      shipment ∈ store.shipments.docs ∧ shipment.deletedAt = none ∧ organizationId = "" := by
  have hQuery : ExportParams.query { organizationId := some organizationId } =
      organizationQuery organizationId := by
    unfold organizationQuery ExportParams.query givenConditions
    cases organizationCondition (some organizationId) <;> rfl
  refine (mem_export_iff hResult).trans ?_
  rw [hQuery, organizationQuery_accepts_iff]

/-- Listing and export show exactly the shipments the access check accepts. An
export that is too large is refused and shows nothing. -/
def ListingsAgree (store : Store) (organizationId : String) : Prop :=
  (∀ limit, 0 < limit → ∀ shipment,
      Listed store organizationId limit shipment ↔ Authorized store organizationId shipment) ∧
    ∀ result, exported store organizationId = .ok result →
      ∀ shipment, shipment ∈ result ↔ Authorized store organizationId shipment

/-- They agree exactly when there is nothing to show. -/
theorem listingsAgree_iff (store : Store) (organizationId : String) :
    ListingsAgree store organizationId ↔
      ∀ shipment ∈ store.shipments.docs, shipment.deletedAt = none →
        organizationId ≠ "" ∧ ownedBy shipment organizationId = false := by
  constructor
  · rintro ⟨hListing, -⟩ shipment hMem hLive
    have hAgree := hListing 1 Nat.one_pos shipment
    rw [listed_iff Nat.one_pos, authorized_iff] at hAgree
    have hOrganization : organizationId ≠ "" := fun hEmpty =>
      (hAgree.mp ⟨hMem, hLive, hEmpty⟩).2.2.1 hEmpty
    refine ⟨hOrganization, Bool.eq_false_iff.mpr fun hOwned => ?_⟩
    exact hOrganization (hAgree.mpr ⟨hMem, hLive, hOrganization, hOwned⟩).2.2
  · intro hNone
    have hEmpty (shipment : Shipment) :
        (shipment ∈ store.shipments.docs ∧ shipment.deletedAt = none ∧ organizationId = "") ↔
          Authorized store organizationId shipment := by
      rw [authorized_iff]
      refine and_congr_right fun hMem => and_congr_right fun hLive => ?_
      obtain ⟨hOrganization, hForeign⟩ := hNone shipment hMem hLive
      simp [hOrganization, hForeign]
    exact ⟨fun limit hLimit shipment => (listed_iff hLimit).trans (hEmpty shipment),
      fun result hResult shipment => (mem_exported_iff hResult).trans (hEmpty shipment)⟩

end Listing

/-- The enterprise of the sample shipment may see it but is not shown it. -/
theorem listing_hides_own_shipment :
    ¬@ListingsAgree ⟨fun _ _ => false, fun _ _ => false⟩ { shipments := ⟨[sampleShipment], by decide⟩ }
      sampleShipment.enterpriseId.toString := by
  rintro ⟨hListing, -⟩
  have hAgree := hListing 20 (by decide) sampleShipment
  rw [@listed_iff ⟨fun _ _ => false, fun _ _ => false⟩ _ _ _ _ (by decide), authorized_iff] at hAgree
  have hOrganization := sampleShipment.enterpriseId.toString_ne_empty
  have hOwned : ownedBy sampleShipment sampleShipment.enterpriseId.toString = true := by
    simp [ownedBy]
  exact hOrganization (hAgree.mpr ⟨List.mem_singleton_self _, rfl, hOrganization, hOwned⟩).2.2

end Navin
