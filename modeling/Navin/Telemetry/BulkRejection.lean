import Mathlib.Data.Fintype.BigOperators
import Navin.Webhooks.Normalisation
import Navin.Webhooks.TelemetryEtas

/-! What is left of a bulk ingest that is rejected for one of its items. The items are
stored one by one, and whoever was stored before the bad one stays. -/
namespace Navin

open Async

section FreshIds

/-- An id that ends in zeros. -/
def ObjectId.numbered (number : Fin 4 → Fin 16) : ObjectId :=
  ⟨List.ofFn (fun place => lowerHexDigits.get (number place)) ++ List.replicate 20 '0', by
    simp only [isPrintedId, List.length_append, List.length_ofFn, List.length_replicate,
      Bool.and_eq_true, List.all_eq_true, List.mem_append, List.mem_ofFn, List.mem_replicate]
    refine ⟨rfl, fun c hc => ?_⟩
    rcases hc with ⟨place, rfl⟩ | ⟨-, rfl⟩
    · exact List.contains_iff_mem.mpr (List.get_mem _ _)
    · decide⟩

theorem ObjectId.numbered_injective : Function.Injective ObjectId.numbered := by
  intro first second hSame
  have hNodup : lowerHexDigits.Nodup := by decide
  have hDigits := List.append_cancel_right (congrArg ObjectId.digits hSame)
  funext place
  exact List.nodup_iff_injective_get.mp hNodup (congrFun (List.ofFn_injective hDigits) place)

/-- There are more ids than a few thousand records use. -/
theorem ObjectId.exists_fresh {ids : List ObjectId} (h : ids.length < 16 ^ 4) :
    ∃ id, id ∉ ids := by
  by_contra hNone
  rw [not_exists] at hNone
  have hAll : Finset.univ.image ObjectId.numbered ⊆ ids.toFinset := fun id _ =>
    List.mem_toFinset.mpr (not_not.mp (hNone id))
  have hCard : (Finset.univ.image ObjectId.numbered).card = 16 ^ 4 := by
    rw [Finset.card_image_of_injective _ ObjectId.numbered_injective, Finset.card_univ,
      Fintype.card_fun, Fintype.card_fin, Fintype.card_fin]
  have hUsed := Finset.card_le_card hAll
  rw [hCard] at hUsed
  exact absurd (hUsed.trans ids.toFinset_card_le) (not_le.mpr h)

end FreshIds

/-- The bounds that `BulkTelemetryItemSchema` checks, once the texts are trimmed. -/
def BulkTelemetryItem.accepted (item : BulkTelemetryItem) : Bool :=
  item.shipmentId ≠ "" && withinRange (.mk (-5) 1 JsNumber.fifty_reduced) (.ofNat 100) item.temperature &&
    withinRange .zero (.ofNat 100) item.batteryLevel

/-- The bounds that `BulkTelemetryBodySchema` checks. -/
def acceptedItems (items : List BulkTelemetryItem) : Bool :=
  decide (1 ≤ items.length) && decide (items.length ≤ 1000) && items.all (·.accepted)

def BulkTelemetryItem.Castable (item : BulkTelemetryItem) : Prop :=
  ∃ id, ObjectId.cast? item.shipmentId = some id

/-- The ingest gives up over an item whose shipment id cannot be cast. An accepted item
names its shipment, so there is nothing else to resolve. -/
def RejectsInput {α : Type} (items : List BulkTelemetryItem) (outcome : Except ThrownError α) :
    Prop :=
  ∃ item ∈ items, ¬item.Castable ∧ outcome = .error (.castError item.shipmentId)

section Ingest

variable [Sha256]

/-- When the ingest gives up over its input, nothing has been stored, enqueued or
emitted. -/
def AllOrNothing (items : List BulkTelemetryItem) : Prop :=
  ∀ (env : Nat → Decision × TelemetryDecision) (store : TelemetryStore),
    let ended := (bulkIngestTelemetry items).run telemetryWorld env store
    RejectsInput items ended.2.1 →
      TelemetryStore.records ended.1 = store.records ∧
        ended.1.2.anchorJobs = store.2.anchorJobs ∧
        ∀ step ∈ (bulkIngestTelemetry items).steps (W := telemetryWorld) env store,
          ∀ shipmentId payload, step.request ≠ .inr (.emitTelemetryUpdate shipmentId payload)

variable {item : BulkTelemetryItem} {items : List BulkTelemetryItem} {store : TelemetryStore}

/-- An accepted item goes straight to the creation of its record. -/
theorem ingestTelemetryItem_named (hNamed : item.shipmentId ≠ "") : ingestTelemetryItem item =
    call (.telemetryCreate (item.input item.shipmentId)) >>= fun telemetry =>
      backendProgram (request (.invalidateShipmentEtaCache item.shipmentId)) >>= fun _ =>
        announceIngested item.shipmentId (item.input item.shipmentId).dataHash telemetry := by
  rw [ingestTelemetryItem_eq, resolveShipmentId, truthy_of_ne hNamed]
  rfl

theorem executeTelemetry_uncastable (hCast : ¬item.Castable) (decision : TelemetryDecision)
    (store : TelemetryStore) :
    executeTelemetry decision store (.telemetryCreate (item.input item.shipmentId)) =
      (store, .error (.castError item.shipmentId)) := by
  have hNone : ObjectId.cast? (item.input item.shipmentId).shipmentId = none :=
    Option.eq_none_iff_forall_ne_some.mpr fun id hId => hCast ⟨id, hId⟩
  simp only [executeTelemetry, castingId, hNone]
  rfl

/-- The record of an item that cannot be cast is never stored. -/
theorem performTelemetry_uncastable (hCast : ¬item.Castable) (decision : TelemetryDecision)
    (store : TelemetryStore) :
    ∃ error, performTelemetry decision store (.telemetryCreate (item.input item.shipmentId)) =
      (store, .error error) := by
  have hExecuted := executeTelemetry_uncastable hCast decision store
  rw [performTelemetry]
  split
  · exact ⟨_, hExecuted⟩
  · exact ⟨_, rfl⟩
  · rw [hExecuted]
    exact ⟨_, rfl⟩

/-- An item that cannot be cast ends the ingest before anything is done. -/
theorem uncastable_ends (hNamed : item.shipmentId ≠ "") (hCast : ¬item.Castable)
    (rest : List BulkTelemetryItem) (env : Nat → Decision × TelemetryDecision) :
    ((bulkIngestTelemetry (item :: rest)).run telemetryWorld env store).1 = store ∧
      ∀ step ∈ (bulkIngestTelemetry (item :: rest)).steps (W := telemetryWorld) env store,
        step.request = .inr (.telemetryCreate (item.input item.shipmentId)) := by
  obtain ⟨error, hError⟩ := performTelemetry_uncastable hCast (env 0).2 store
  have hCreate : (call (.telemetryCreate (item.input item.shipmentId))).run telemetryWorld env
      store = (store, .error error, fun n => env (n + 1)) := by
    rw [run_call, hError]
  have hItem : (ingestTelemetryItem item).run telemetryWorld env store =
      (store, .error error, fun n => env (n + 1)) := by
    rw [ingestTelemetryItem_named hNamed]
    exact Program.run_bind_error hCreate
  constructor
  · rw [bulkIngestTelemetry, Program.run_bind_error hItem]
  · intro step hStep
    rw [bulkIngestTelemetry, Program.steps_bind_error hItem, ingestTelemetryItem_named hNamed,
      Program.steps_bind_error hCreate] at hStep
    exact Program.Uses.steps (C := (· = .inr (.telemetryCreate (item.input item.shipmentId))))
      (.await rfl) step hStep

omit [Sha256] in
/-- What is shown of every run is shown of the one in which the call is answered so. -/
theorem answered_call {request : TelemetryCall} {β : Type} {f : request.Answer → TelemetryM β}
    {Q : Except ThrownError β → TelemetryStore → Prop} (decision : TelemetryDecision)
    {served : TelemetryStore} {answer : request.Answer}
    (hServed : performTelemetry decision store request = (served, .ok answer))
    (h : (call request >>= f).wp (fun _ : Step telemetryWorld => True) Q store) :
    (f answer).wp (fun _ : Step telemetryWorld => True) Q served := by
  have hAnswered := (wp_call_bind _ _).mp h ({}, decision) trivial
  rw [hServed] at hAnswered
  exact hAnswered

/-- With every service up a castable item is stored, and the ingest goes on. -/
theorem ingestTelemetryItem_served {β : Type} {f : String → TelemetryM β}
    {Q : Except ThrownError β → TelemetryStore → Prop} {id shipmentId : ObjectId}
    (hNamed : item.shipmentId ≠ "") (hCast : ObjectId.cast? item.shipmentId = some shipmentId)
    (hFresh : ∀ row ∈ store.1.telemetry, row.id ≠ id)
    (h : (ingestTelemetryItem item >>= f).wp (fun _ : Step telemetryWorld => True) Q store) :
    ∃ served createdId, (f createdId).wp (fun _ : Step telemetryWorld => True) Q served ∧
      ∃ row, served.1.telemetry = store.1.telemetry ++ [row] := by
  have hItem := (Program.wp_bind _).mp h
  rw [ingestTelemetryItem_named hNamed] at hItem
  obtain ⟨telemetry, hTelemetry⟩ : ∃ telemetry,
    telemetry = (item.input item.shipmentId).telemetry id shipmentId := ⟨_, rfl⟩
  have hCreate : performTelemetry { freshId := id } store
      (.telemetryCreate (item.input item.shipmentId)) =
        (store.insertTelemetry telemetry, .ok telemetry) := by
    have hInput : ObjectId.cast? (item.input item.shipmentId).shipmentId = some shipmentId := hCast
    rw [performTelemetry_of_fault_none rfl]
    simp only [executeTelemetry, castingId, hInput, if_pos hFresh, hTelemetry]
  have hStored := answered_call _ hCreate hItem
  have hDropped : (announceIngested item.shipmentId (item.input item.shipmentId).dataHash
      telemetry).wp (fun _ : Step telemetryWorld => True) (Program.afterwards (fun _ => True) f Q)
        (_, (store.insertTelemetry telemetry).2) :=
    (wp_request_bind _ _).mp hStored ({}, {}) trivial
  have hPushed := answered_call {} rfl hDropped
  have hEmitted := answered_call {} rfl hPushed
  have hScheduled := answered_call {} rfl hEmitted
  exact ⟨_, _, hScheduled, telemetry.toTelemetryRow, rfl⟩

/-- The ingest gets to an item that cannot be cast, and keeps what it has stored. -/
theorem ingest_reaches {Q : Except ThrownError (List String) → TelemetryStore → Prop}
    (hNamed : ∀ item ∈ items, item.shipmentId ≠ "") (hBad : ∃ item ∈ items, ¬item.Castable)
    (hSpace : store.1.telemetry.length + items.length < 16 ^ 4)
    (h : (bulkIngestTelemetry items).wp (fun _ : Step telemetryWorld => True) Q store) :
    ∃ after, ∃ item ∈ items, ¬item.Castable ∧ Q (.error (.castError item.shipmentId)) after ∧
      store.1.telemetry.length ≤ after.1.telemetry.length := by
  induction items generalizing store Q with
  | nil =>
      obtain ⟨item, hItem, -⟩ := hBad
      cases hItem
  | cons item rest ih =>
      rw [bulkIngestTelemetry] at h
      by_cases hCast : item.Castable
      · obtain ⟨shipmentId, hShipment⟩ := hCast
        obtain ⟨id, hFresh⟩ : ∃ id, id ∉ store.1.telemetry.map (·.id) :=
          ObjectId.exists_fresh (by simp only [List.length_map]; omega)
        have hUnused : ∀ row ∈ store.1.telemetry, row.id ≠ id := fun row hRow hId =>
          hFresh (List.mem_map.mpr ⟨row, hRow, hId⟩)
        obtain ⟨served, createdId, hRest, row, hRow⟩ := ingestTelemetryItem_served
          (hNamed item List.mem_cons_self) hShipment hUnused h
        have hLater : ∃ item ∈ rest, ¬item.Castable := by
          obtain ⟨bad, hMem, hBad⟩ := hBad
          rcases List.mem_cons.mp hMem with rfl | hMem
          · exact absurd ⟨shipmentId, hShipment⟩ hBad
          · exact ⟨bad, hMem, hBad⟩
        have hMore : served.1.telemetry.length + rest.length < 16 ^ 4 := by
          rw [hRow, List.length_append]
          simp only [List.length_cons, List.length_nil] at hSpace ⊢
          omega
        obtain ⟨after, bad, hMem, hBad, hEnded, hLength⟩ := ih
          (fun item hItem => hNamed item (List.mem_cons_of_mem _ hItem)) hLater hMore
          ((Program.wp_bind _).mp hRest)
        refine ⟨after, bad, List.mem_cons_of_mem _ hMem, hBad, hEnded, ?_⟩
        rw [hRow, List.length_append] at hLength
        omega
      · have hItem := (Program.wp_bind _).mp h
        rw [ingestTelemetryItem_named (hNamed item List.mem_cons_self)] at hItem
        have hEnded := (wp_call_bind _ _).mp hItem ({}, {}) trivial
        have hDone : performTelemetry {} store (.telemetryCreate (item.input item.shipmentId)) =
            (store, .error (.castError item.shipmentId)) := by
          rw [performTelemetry_of_fault_none rfl]
          exact executeTelemetry_uncastable hCast _ _
        rw [hDone] at hEnded
        exact ⟨store, item, List.mem_cons_self, hCast, hEnded, le_refl _⟩

/-- When an item is stored before one that cannot be cast, the ingest is rejected and the
record stays. -/
theorem not_allOrNothing {first : BulkTelemetryItem} {rest : List BulkTelemetryItem}
    (hNamed : ∀ item ∈ first :: rest, item.shipmentId ≠ "")
    (hLength : (first :: rest).length ≤ 1000) (hFirst : first.Castable)
    (hBad : ∃ item ∈ first :: rest, ¬item.Castable) : ¬AllOrNothing (first :: rest) := by
  intro hAll
  have : Nonempty telemetryWorld.Env := ⟨(({}, {}) : Decision × TelemetryDecision)⟩
  have hRuns : (bulkIngestTelemetry (first :: rest)).wp (fun _ : Step telemetryWorld => True)
      (fun outcome after => RejectsInput (first :: rest) outcome →
        TelemetryStore.records after = TelemetryStore.records ({}, {})) ({}, {}) :=
    Program.wp_of_run fun env hRejects => (hAll env ({}, {}) hRejects).1
  obtain ⟨shipmentId, hShipment⟩ := hFirst
  rw [bulkIngestTelemetry] at hRuns
  obtain ⟨served, createdId, hRest, row, hRow⟩ := @ingestTelemetryItem_served _ _ _ _ _ _
    (.repeated 0) _ (hNamed first List.mem_cons_self) hShipment (fun _ hRow => by cases hRow) hRuns
  have hLater : ∃ item ∈ rest, ¬item.Castable := by
    obtain ⟨bad, hMem, hBad⟩ := hBad
    rcases List.mem_cons.mp hMem with rfl | hMem
    · exact absurd ⟨shipmentId, hShipment⟩ hBad
    · exact ⟨bad, hMem, hBad⟩
  have hSpace : served.1.telemetry.length + rest.length < 16 ^ 4 := by
    rw [hRow, List.length_append]
    simp only [List.length_cons, List.length_nil] at hLength ⊢
    omega
  obtain ⟨after, bad, hMem, hUncastable, hEnded, hKept⟩ := ingest_reaches
    (fun item hItem => hNamed item (List.mem_cons_of_mem _ hItem)) hLater hSpace
    ((Program.wp_bind _).mp hRest)
  have hSame := hEnded ⟨bad, List.mem_cons_of_mem _ hMem, hUncastable, rfl⟩
  have hNone : after.1.telemetry = [] := congrArg Prod.fst hSame
  rw [hRow, hNone] at hKept
  simp at hKept

/-- A bulk ingest that is rejected for its input has done nothing, exactly when all its
items can be cast or already the first one cannot. -/
theorem allOrNothing_iff (hAccepted : acceptedItems items = true) :
    AllOrNothing items ↔
      (∀ item ∈ items, item.Castable) ∨ ∃ first ∈ items.head?, ¬first.Castable := by
  simp only [acceptedItems, Bool.and_eq_true, decide_eq_true_eq, List.all_eq_true] at hAccepted
  obtain ⟨⟨hSome, hLength⟩, hItems⟩ := hAccepted
  have hNamed : ∀ item ∈ items, item.shipmentId ≠ "" := by
    intro item hItem
    have hBounds := hItems item hItem
    simp only [BulkTelemetryItem.accepted, Bool.and_eq_true, decide_eq_true_eq] at hBounds
    exact hBounds.1.1
  cases items with
  | nil => cases hSome
  | cons first rest =>
      constructor
      · intro hAll
        by_contra hNeither
        rw [not_or] at hNeither
        obtain ⟨hUncastable, hFirst⟩ := hNeither
        have hCastable : first.Castable := by
          by_contra hBad
          exact hFirst ⟨first, rfl, hBad⟩
        push Not at hUncastable
        exact not_allOrNothing hNamed hLength hCastable hUncastable hAll
      · rintro (hAll | ⟨head, hHead, hBad⟩)
        · intro env store ended hRejects
          obtain ⟨item, hItem, hUncastable, -⟩ := hRejects
          exact absurd (hAll item hItem) hUncastable
        · cases hHead
          intro env store ended _
          obtain ⟨hStore, hSteps⟩ := uncastable_ends (hNamed first List.mem_cons_self) hBad rest env
          refine ⟨congrArg TelemetryStore.records hStore,
            congrArg (fun after : TelemetryStore => after.2.anchorJobs) hStore,
            fun step hStep shipmentId payload hEmit => ?_⟩
          have hCreate := (hSteps step hStep).symm.trans hEmit
          cases hCreate

end Ingest

section Samples

def sampleItem (shipmentId : String) : BulkTelemetryItem where
  shipmentId
  temperature := .ofNat 5
  humidity := .ofNat 50
  latitude := .finite (.ofNat 10)
  longitude := .finite (.ofNat 20)
  batteryLevel := .ofNat 90
  timestamp := ⟨0⟩
  sensorId := none

theorem sampleItem_castable : (sampleItem sampleShipment.id.toString).Castable :=
  ⟨_, ObjectId.cast?_toString _⟩

theorem sampleItem_uncastable : ¬(sampleItem "shipment-7").Castable := by
  rintro ⟨id, hId⟩
  have hNone : ObjectId.cast? "shipment-7" = none := by decide
  cases hNone.symm.trans hId

/-- The bad item comes first. -/
theorem allOrNothing_sample : @AllOrNothing blankSha256
    [sampleItem "shipment-7", sampleItem sampleShipment.id.toString] :=
  (@allOrNothing_iff blankSha256 _ (by decide +kernel)).mpr
    (.inr ⟨_, rfl, sampleItem_uncastable⟩)

/-- The bad item comes last, and the one before it stays stored. -/
theorem rejected_ingest_leaves_record : ¬∀ (_ : Sha256) (items : List BulkTelemetryItem),
    acceptedItems items = true → AllOrNothing items := by
  intro hAll
  have hItems : ∀ item ∈ [sampleItem sampleShipment.id.toString, sampleItem "shipment-7"],
      item.shipmentId ≠ "" := by
    intro item hItem
    rcases List.mem_pair.mp hItem with rfl | rfl <;> decide
  exact @not_allOrNothing blankSha256 _ _ hItems (by decide) sampleItem_castable
    ⟨_, List.mem_cons_of_mem _ List.mem_cons_self, sampleItem_uncastable⟩
    (hAll blankSha256 _ (by decide +kernel))

end Samples

end Navin
