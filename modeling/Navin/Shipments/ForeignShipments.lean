import Navin.Backend.Effects
import Navin.Semantics.TwoRuns
import Navin.Shipments.Routes

/-! Stores that agree on everything but the contents of the shipments of other
organisations, and which calls keep them so. -/
namespace Navin

open Async

/-- A call that ignores shipments does the same over any shipments. -/
theorem execute_withShipments {call : BackendCall} (h : call.ignoresShipments = true)
    (decision : Decision) (store : Store) (shipments : Collection Shipment.id) :
    execute decision { store with shipments } call =
      ({ (execute decision store call).1 with shipments }, (execute decision store call).2) := by
  cases call with
  | streamEvent position =>
      simp only [execute]
      cases decision.event with
      | none => rfl
      | some event =>
          have hReport : Store.mayReport { store with shipments } event = store.mayReport event := rfl
          simp only [hReport]
          split <;> rfl
  | _ =>
      simp only [BackendCall.ignoresShipments, Bool.false_eq_true] at h <;>
        simp only [execute, castingId, Store.submit, Store.livePayment, Store.payment,
          Store.paymentOfShipment, Store.ledgerBlock, Store.blockOfTransaction,
          Store.modifyPayment] <;> repeat' split
      all_goals rfl

/-- The stored shipment if `organizationId` has no part in it. -/
def Store.foreignShipment (store : Store) (organizationId : String) (id : ObjectId) :
    Option Shipment :=
  (store.shipment id).filter fun shipment => !ownedBy shipment organizationId

/-- Equal shipments, or foreign ones of which both or neither are deleted. -/
inductive SameShipment (organizationId : String) : Option Shipment → Option Shipment → Prop
  | same (shipment : Option Shipment) : SameShipment organizationId shipment shipment
  | foreign {first second : Shipment} (hFirst : ownedBy first organizationId = false)
      (hSecond : ownedBy second organizationId = false)
      (hLive : first.deletedAt.isNone = second.deletedAt.isNone) :
      SameShipment organizationId (some first) (some second)

/-- The stores differ only in the contents of foreign shipments. -/
structure DifferInForeign (organizationId : String) (first second : Store) : Prop where
  elsewhere : second = { first with shipments := second.shipments }
  shipments : ∀ id, SameShipment organizationId (first.shipment id) (second.shipment id)

/-- Both runs are still at stores that differ only in foreign shipments, and
those are as they were at the start. -/
structure ForeignUntouched (organizationId : String) (start start' store store' : Store) : Prop where
  differ : DifferInForeign organizationId store store'
  left : ∀ id, store.foreignShipment organizationId id = start.foreignShipment organizationId id
  right : ∀ id, store'.foreignShipment organizationId id = start'.foreignShipment organizationId id

/-- The id denotes a shipment that was foreign at the start. -/
def Hidden (organizationId : String) (start : Store) (id : String) : Prop :=
  ∃ key, ObjectId.cast? id = some key ∧ start.foreignShipment organizationId key ≠ none

/-- What both runs find under an id: nothing, the same own shipment, or each a
foreign one. -/
inductive FoundAlike (organizationId : String) (start : Store) (id : String) :
    Option Shipment → Option Shipment → Prop
  | missing : FoundAlike organizationId start id none none
  | own {shipment : Shipment} (hOwned : ownedBy shipment organizationId = true)
      (hShown : ¬Hidden organizationId start id) :
      FoundAlike organizationId start id (some shipment) (some shipment)
  | foreign {first second : Shipment} (hFirst : ownedBy first organizationId = false)
      (hSecond : ownedBy second organizationId = false) (hHidden : Hidden organizationId start id) :
      FoundAlike organizationId start id (some first) (some second)

section Calls

variable {organizationId : String} {start start' store store' : Store}

theorem SameShipment.eq_of_left {first second : Option Shipment}
    (h : SameShipment organizationId first second)
    (hOwned : (first.filter fun shipment => !ownedBy shipment organizationId) = none) :
    first = second := by
  cases h with
  | same _ => rfl
  | foreign hFirst _ _ => simp [hFirst] at hOwned

theorem ForeignUntouched.refl (h : DifferInForeign organizationId start start') :
    ForeignUntouched organizationId start start' start start' :=
  ⟨h, fun _ => rfl, fun _ => rfl⟩

/-- A call is coupled with itself if it is wherever it succeeds. -/
theorem coupled_request (call : BackendCall) {R : Store → Store → Prop}
    {V : call.Answer → call.Answer → Prop}
    (hRecover : ∀ decision error, Matching V (recover decision error call)
      (recover decision error call))
    (hExecute : ∀ decision store store', R store store' →
      R (execute decision store call).1 (execute decision store' call).1 ∧
        Matching V (execute decision store call).2 (execute decision store' call).2) :
    Program.Coupled (W := backend) R V (request call) (request call) := by
  refine Program.Coupled.await fun decision store store' h => ?_
  simp only [perform]
  split
  · exact hExecute decision store store' h
  · exact ⟨h, hRecover decision _⟩
  · exact ⟨(hExecute decision store store' h).1, hRecover decision _⟩

theorem matching_refl {α : Type} (outcome : Except ThrownError α) :
    Matching (· = ·) outcome outcome :=
  matching_eq.mpr rfl

theorem ForeignUntouched.hidden_iff (h : ForeignUntouched organizationId start start' store store')
    {id : String} {key : ObjectId} (hCast : ObjectId.cast? id = some key) :
    Hidden organizationId start id ↔ store.foreignShipment organizationId key ≠ none := by
  simp only [Hidden, hCast, Option.some.injEq, exists_eq_left', h.left key]

theorem SameShipment.foundAlike {first second : Option Shipment} {id : String}
    (h : SameShipment organizationId first second)
    (hHidden : Hidden organizationId start id ↔
      first.filter (fun shipment => !ownedBy shipment organizationId) ≠ none) :
    FoundAlike organizationId start id (first.filter fun shipment => shipment.deletedAt.isNone)
      (second.filter fun shipment => shipment.deletedAt.isNone) := by
  cases h with
  | same _ =>
      cases first with
      | none => exact .missing
      | some shipment =>
          simp only [Option.filter_some]
          split
          · cases hOwned : ownedBy shipment organizationId with
            | true => exact .own hOwned (by simp [hHidden, hOwned])
            | false => exact .foreign hOwned hOwned (by simp [hHidden, hOwned])
          · exact .missing
  | foreign hFirst hSecond hLive =>
      simp only [Option.filter_some, ← hLive]
      split
      · exact .foreign hFirst hSecond (by simp [hHidden, hFirst])
      · exact .missing

theorem ForeignUntouched.find (id : String) :
    Program.Coupled (W := backend) (ForeignUntouched organizationId start start')
      (FoundAlike organizationId start id) (findShipmentById id) (findShipmentById id) := by
  refine coupled_request (.shipmentFindById id) (fun _ _ => rfl)
    fun decision store store' hStores => ?_
  simp only [execute, castingId]
  cases hCast : ObjectId.cast? id with
  | none => exact ⟨hStores, rfl⟩
  | some key =>
      exact ⟨hStores, (hStores.differ.shipments key).foundAlike (hStores.hidden_iff hCast)⟩

/-- A snapshot holds the live shipments among the wanted ones. -/
theorem Store.find?_snapshot (store : Store) (wanted : List ObjectId) (key : ObjectId) :
    ((store.shipments.docs.filter fun shipment =>
        wanted.contains shipment.id && shipment.deletedAt.isNone).find? fun shipment =>
      shipment.id.toString = key.toString) =
      if wanted.contains key then store.liveShipment key else none := by
  have hFiltered := store.shipments.get?_filter (k := key) fun shipment =>
    wanted.contains shipment.id && shipment.deletedAt.isNone
  simp only [Collection.get?, Collection.filter] at hFiltered
  simp only [ObjectId.toString_injective.eq_iff, hFiltered]
  change (store.shipment key).filter _ = _
  cases hStored : store.shipment key with
  | none => simp [Store.liveShipment, hStored]
  | some shipment =>
      have hId : shipment.id = key := store.shipments.key_of_get? hStored
      by_cases hWanted : key ∈ wanted <;>
        simp [Store.liveShipment, hStored, hId, hWanted, Option.filter_some]

/-- The snapshot of a bulk update, looked up by the printed id. -/
theorem ForeignUntouched.findByIds (ids : List String) :
    Program.Coupled (W := backend) (ForeignUntouched organizationId start start')
      (fun first second => ∀ id, FoundAlike organizationId start id
        (first.find? fun shipment => shipment.id.toString = id)
        (second.find? fun shipment => shipment.id.toString = id))
      (request (.shipmentFindByIds ids)) (request (.shipmentFindByIds ids)) := by
  refine coupled_request _ (fun _ _ => rfl) fun decision store store' hStores => ?_
  simp only [execute]
  cases hCast : ids.mapM ObjectId.cast? with
  | none => exact ⟨hStores, rfl⟩
  | some wanted =>
      refine ⟨hStores, fun id => ?_⟩
      by_cases hPrinted : ∃ key : ObjectId, key.toString = id
      · obtain ⟨key, rfl⟩ := hPrinted
        have hCast := ObjectId.cast?_toString key
        rw [store.find?_snapshot, store'.find?_snapshot]
        split
        · exact (hStores.differ.shipments key).foundAlike (hStores.hidden_iff hCast)
        · exact .missing
      · have hAbsent (docs : List Shipment) :
            docs.find? (fun shipment => shipment.id.toString = id) = none :=
          List.find?_eq_none.mpr fun shipment _ h =>
            hPrinted ⟨shipment.id, of_decide_eq_true h⟩
        rw [hAbsent, hAbsent]
        exact .missing

theorem Store.shipment_modifyShipment_self (store : Store) (key : ObjectId)
    {f : Shipment → Shipment} {hId : ∀ shipment, (f shipment).id = shipment.id} :
    (store.modifyShipment key f hId).shipment key = (store.shipment key).map f :=
  store.shipments.get?_modify_self hId

theorem Store.shipment_modifyShipment_of_ne (store : Store) {key id : ObjectId} (hNe : id ≠ key)
    {f : Shipment → Shipment} {hId : ∀ shipment, (f shipment).id = shipment.id} :
    (store.modifyShipment key f hId).shipment id = store.shipment id :=
  store.shipments.get?_modify_of_ne hId hNe

theorem Store.foreignShipment_modifyShipment (store : Store) {key : ObjectId}
    (hShown : store.foreignShipment organizationId key = none) {f : Shipment → Shipment}
    (hId : ∀ shipment, (f shipment).id = shipment.id)
    (hOwned : ∀ shipment, ownedBy (f shipment) organizationId = ownedBy shipment organizationId)
    (id : ObjectId) :
    (store.modifyShipment key f hId).foreignShipment organizationId id =
      store.foreignShipment organizationId id := by
  by_cases hKey : id = key
  · subst hKey
    rw [hShown]
    simp only [Store.foreignShipment, shipment_modifyShipment_self] at hShown ⊢
    cases hStored : store.shipment id with
    | none => rfl
    | some shipment => simpa [hStored, hOwned] using hShown
  · simp only [Store.foreignShipment, store.shipment_modifyShipment_of_ne hKey]

/-- An update of a shipment that is not foreign. -/
theorem ForeignUntouched.modify (h : ForeignUntouched organizationId start start' store store')
    {key : ObjectId} (hShown : store.foreignShipment organizationId key = none)
    {f : Shipment → Shipment} (hId : ∀ shipment, (f shipment).id = shipment.id)
    (hOwned : ∀ shipment, ownedBy (f shipment) organizationId = ownedBy shipment organizationId) :
    ForeignUntouched organizationId start start' (store.modifyShipment key f hId)
      (store'.modifyShipment key f hId) := by
  have hSame := (h.differ.shipments key).eq_of_left hShown
  have hShown' : store'.foreignShipment organizationId key = none := by
    rwa [Store.foreignShipment, ← hSame]
  refine ⟨⟨?_, fun id => ?_⟩, fun id => ?_, fun id => ?_⟩
  · rw [Store.modifyShipment, h.differ.elsewhere]
    rfl
  · by_cases hKey : id = key
    · subst hKey
      rw [Store.shipment_modifyShipment_self, Store.shipment_modifyShipment_self, hSame]
      exact .same _
    · rw [Store.shipment_modifyShipment_of_ne _ hKey, Store.shipment_modifyShipment_of_ne _ hKey]
      exact h.differ.shipments id
  · rw [← h.left id, store.foreignShipment_modifyShipment hShown hId hOwned]
  · rw [← h.right id, store'.foreignShipment_modifyShipment hShown' hId hOwned]

theorem ForeignUntouched.update {id : String} (hShown : ¬Hidden organizationId start id)
    (update : ShipmentUpdate) :
    Program.Coupled (W := backend) (ForeignUntouched organizationId start start') (· = ·)
      (request (.shipmentFindByIdAndUpdate id update))
      (request (.shipmentFindByIdAndUpdate id update)) := by
  refine coupled_request _ (fun _ _ => rfl) fun decision store store' hStores => ?_
  simp only [execute, castingId]
  cases hCast : ObjectId.cast? id with
  | none => exact ⟨hStores, rfl⟩
  | some key =>
      have hNone : store.foreignShipment organizationId key = none :=
        not_not.mp fun h => hShown ((hStores.hidden_iff hCast).mpr h)
      have hSame := (hStores.differ.shipments key).eq_of_left hNone
      simp only [Store.liveShipment, ← hSame]
      split
      · exact ⟨hStores, rfl⟩
      · exact ⟨hStores.modify hNone _ fun shipment => by cases update <;> rfl, rfl⟩

end Calls

section Uniform

variable {start start' : Store} {id : String}

/-- The program behaves alike over stores that differ in foreign shipments. -/
abbrev Uniform (organizationId : String) (start start' : Store) (α : Type) (p : BackendM α) : Prop :=
  Program.Coupled (W := backend) (ForeignUntouched organizationId start start') (· = ·) p p

theorem uniform_compositional (organizationId : String) (start start' : Store) :
    Program.Compositional (Uniform organizationId start start') :=
  Program.Coupled.compositional _

/-- Calls that ignore shipments answer both runs alike. -/
theorem uniform_ignoring (organizationId : String) (start start' : Store) (call : BackendCall)
    (h : call.ignoresShipments = true) : Uniform organizationId start start' _ (request call) := by
  refine coupled_request _ (fun _ _ => matching_refl _) fun decision store store' hStores => ?_
  have hWrites := BackendCall.writesShipments_of_ignoresShipments h
  have hLeft := @execute_shipments decision store call hWrites
  have hRight := @execute_shipments decision store' call hWrites
  have hFrame := execute_withShipments h decision store store'.shipments
  rw [← hStores.differ.elsewhere] at hFrame
  refine ⟨⟨⟨?_, fun id => ?_⟩, fun id => ?_, fun id => ?_⟩, ?_⟩
  · rw [hRight, hFrame]
  · simpa only [Store.shipment, hLeft, hRight] using hStores.differ.shipments id
  · simpa only [Store.foreignShipment, Store.shipment, hLeft] using hStores.left id
  · simpa only [Store.foreignShipment, Store.shipment, hRight] using hStores.right id
  · rw [hFrame]
    exact matching_refl _

theorem uniform_incidental (organizationId : String) (start start' : Store) (call : BackendCall)
    (h : call.incidental = true) : Uniform organizationId start start' _ (request call) :=
  uniform_ignoring _ _ _ call (BackendCall.ignoresShipments_of_incidental h)

/-- A lookup of something that is no id fails, so nothing after it runs. -/
theorem uniform_find_bind {organizationId : String} {β : Type} (hCast : ObjectId.cast? id = none)
    (f : Option Shipment → BackendM β) :
    Uniform organizationId start start' β (findShipmentById id >>= f) := by
  refine Program.Coupled.bind (V := fun _ _ => False) ?_ fun _ _ h => h.elim
  refine coupled_request (.shipmentFindById id) (fun _ _ => rfl)
    fun decision store store' hStores => ?_
  simp only [execute, castingId, hCast]
  exact ⟨hStores, rfl⟩

theorem uniform_update_bind {organizationId : String} {β : Type} (hCast : ObjectId.cast? id = none)
    (update : ShipmentUpdate) (f : Option Shipment → BackendM β) :
    Uniform organizationId start start' β (request (.shipmentFindByIdAndUpdate id update) >>= f) := by
  refine Program.Coupled.bind (V := fun _ _ => False) ?_ fun _ _ h => h.elim
  refine coupled_request _ (fun _ _ => rfl) fun decision store store' hStores => ?_
  simp only [execute, castingId, hCast]
  exact ⟨hStores, rfl⟩

end Uniform

end Navin
