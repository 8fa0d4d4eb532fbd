import Navin.Listings.PageLaws

/-! The listings in the order of event times. Their cursors are ids, so that they are
exact where the ids at the ends of the pages tell what comes before from what comes
after. -/
namespace Navin

open Async

/-- The text of a filter by id can be cast. -/
def castable (text : Option String) : Bool :=
  (truthy text).all fun text => (ObjectId.cast? text).isSome

/-- A filter by id keeps the documents with that id. -/
def keepsId (text : Option String) (id : ObjectId) : Bool :=
  (truthy text).all fun text => ObjectId.cast? text = some id

def keepsText (text : Option String) (value : String) : Bool :=
  (truthy text).all fun text => value = text

section Criteria

variable {kind : ListedCollection}

theorem givenCriteria_append (filters more : List (Option (Criterion kind))) :
    givenCriteria (filters ++ more) = givenCriteria filters ++ givenCriteria more :=
  List.filterMap_append

theorem givenCriteria_all (filters : List (Option (Criterion kind))) (p : Criterion kind → Bool) :
    (givenCriteria filters).all p = filters.all fun filter => filter.all p := by
  rw [givenCriteria, List.all_filterMap]
  exact List.all_congr rfl fun filter => by cases filter <;> rfl

theorem answerable_given_iff (filters : List (Option (Criterion kind))) :
    Answerable (givenCriteria filters) ↔
      (filters.all fun filter => filter.all fun criterion => criterion.refused?.isNone) = true := by
  rw [← givenCriteria_all, List.all_eq_true]
  simp only [Answerable, Option.isNone_iff_eq_none]

theorem idCriterion_answerable (field : kind.Document → ObjectId) (text : Option String) :
    ((idCriterion field text).all fun criterion => criterion.refused?.isNone) = castable text := by
  cases hText : truthy text with
  | none => simp [idCriterion, castable, hText]
  | some text =>
      cases hCast : ObjectId.cast? text <;>
        simp [idCriterion, castable, hText, Criterion.refused?, hCast]

theorem idCriterion_accepts (field : kind.Document → ObjectId) (text : Option String)
    (doc : kind.Document) : ((idCriterion field text).all fun criterion => criterion.accepts doc) =
      keepsId text (field doc) := by
  cases hText : truthy text <;> simp [idCriterion, keepsId, hText, Criterion.accepts]

theorem textCriterion_answerable (field : kind.Document → String) (text : Option String) :
    ((textCriterion field text).all fun criterion => criterion.refused?.isNone) = true := by
  cases hText : truthy text <;> simp [textCriterion, hText, Criterion.refused?]

theorem textCriterion_accepts (field : kind.Document → String) (text : Option String)
    (doc : kind.Document) :
    ((textCriterion field text).all fun criterion => criterion.accepts doc) =
      keepsText text (field doc) := by
  cases hText : truthy text <;> simp [textCriterion, keepsText, hText, Criterion.accepts]

theorem equalsCriterion_answerable {β : Type} [DecidableEq β] (field : kind.Document → β)
    (value : Option β) :
    ((equalsCriterion field value).all fun criterion => criterion.refused?.isNone) = true := by
  cases value <;> rfl

theorem equalsCriterion_accepts {β : Type} [DecidableEq β] (field : kind.Document → β)
    (value : Option β) (doc : kind.Document) :
    ((equalsCriterion field value).all fun criterion => criterion.accepts doc) =
      value.all fun value => field doc = value := by
  cases value <;> rfl

theorem windowCriterion_answerable (field : kind.Document → Date) (start stop : Option Date) :
    ((windowCriterion field start stop).all fun criterion => criterion.refused?.isNone) = true := by
  rw [windowCriterion]
  split <;> rfl

theorem windowCriterion_accepts (field : kind.Document → Date) (start stop : Option Date)
    (doc : kind.Document) :
    ((windowCriterion field start stop).all fun criterion => criterion.accepts doc) =
      withinWindow start stop (field doc) := by
  cases start <;> cases stop <;> rfl

end Criteria

section Finding

variable {kind : ListedCollection} {filters : List (Option (Criterion kind))}
  {belongs : kind.Document → Bool} {sort : kind.Document → kind.Document → Bool}
  {store : ListingStore} {limit : Nat} {P : Type} {ask : Option String → Except ThrownError P}
  {page : P → CursorPage kind.Document}

/-- A listing that finds the documents below the cursor is exact where its pages end by
the ids. -/
theorem listsExactly_of_find
    (hFind : ∀ cursor, (ask cursor).map page = (executeListing store (.find kind
      (givenCriteria (filters ++ [cursorCriterion cursor])) sort 0 (limit + 1))).map
        fun docs => paginateCursor kind docs limit)
    (hAccepts : ∀ doc, ((kind.deletedAt doc).isNone &&
      (givenCriteria filters).all fun criterion => criterion.accepts doc) = belongs doc)
    (hLimit : 0 < limit) (hOrder : Paging.OrdersKeys (fun doc => doc) sort (store.docs kind)) :
    ListsExactly kind store belongs sort ask (fun answer => (page answer).nextCursor)
        (fun answer => (page answer).data) ↔
      Answerable (givenCriteria filters) ∧
        EndsById kind (store.listing kind belongs sort) limit := by
  refine listsExactly_iff_endsById (fun hRefused => ?_) (fun hAnswerable cursor hCursor => ?_)
    hLimit hOrder
  · have hFirst := hFind none
    have hQuery : ¬ Answerable (givenCriteria (filters ++ [cursorCriterion none])) := by
      rwa [givenCriteria_append, show givenCriteria [cursorCriterion none] =
        ([] : List (Criterion kind)) from rfl, List.append_nil]
    obtain ⟨error, hError⟩ := @executeListing_refused kind _ sort store 0 (limit + 1) hQuery
    rw [hError] at hFirst
    cases hAsk : ask none with
    | error error => exact ⟨error, rfl⟩
    | ok answer =>
        rw [hAsk] at hFirst
        cases hFirst
  · have hPage := hFind cursor
    rw [givenCriteria_append, find_belowCursor hAnswerable hOrder hAccepts hCursor] at hPage
    cases hAsk : ask cursor with
    | error error =>
        rw [hAsk] at hPage
        cases hPage
    | ok answer =>
        rw [hAsk] at hPage
        exact ⟨answer, rfl, (Except.ok.inj hPage).trans (paginateCursor_overfetched _ _)⟩

end Finding

section Telemetry

variable (shipmentId : Option String) (start stop : Option Date) (limit : Nat)
  (store : ListingStore)

def telemetryBelongs (row : TelemetryRow) : Bool :=
  row.deletedAt.isNone && keepsId shipmentId row.shipmentId &&
    withinWindow start stop row.timestamp

def telemetryListing : List TelemetryRow :=
  store.listing .telemetry (telemetryBelongs shipmentId start stop)
    newestTelemetryFirst

def askTelemetry (cursor : Option String) : Except ThrownError (CursorPage TelemetryRow) :=
  listed (getTelemetryService { cursor, limit, shipmentId, start, stop }) store

/-- The criteria without the cursor. -/
def telemetryCriteria : List (Option (Criterion .telemetry)) :=
  [idCriterion (fun row => row.shipmentId) shipmentId,
   windowCriterion (fun row => row.timestamp) start stop]

variable {shipmentId start stop limit store}

theorem telemetryCriteria_answerable :
    Answerable (givenCriteria (telemetryCriteria shipmentId start stop)) ↔
      castable shipmentId = true := by
  simp only [answerable_given_iff, telemetryCriteria, List.all_cons, List.all_nil,
    idCriterion_answerable, windowCriterion_answerable, Bool.and_true]

theorem telemetryCriteria_accepts (row : TelemetryRow) :
    (row.deletedAt.isNone && (givenCriteria (telemetryCriteria shipmentId start stop)).all
      fun criterion => criterion.accepts row) = telemetryBelongs shipmentId start stop row := by
  simp only [givenCriteria_all, telemetryCriteria, List.all_cons, List.all_nil,
    idCriterion_accepts, windowCriterion_accepts, Bool.and_true, telemetryBelongs, Bool.and_assoc]

theorem askTelemetry_find (cursor : Option String) :
    askTelemetry shipmentId start stop limit store cursor =
      (executeListing store (.find .telemetry
        (givenCriteria (telemetryCriteria shipmentId start stop ++ [cursorCriterion cursor]))
        newestTelemetryFirst 0 (limit + 1))).map
          fun telemetry => paginateCursor .telemetry telemetry limit := by
  have hOrganization : truthy none = none := rfl
  have hSkip : telemetrySkip { cursor, limit, shipmentId, start, stop } = 0 := by
    rw [telemetrySkip]
    cases truthy cursor <;> rfl
  simp only [askTelemetry, getTelemetryService, hOrganization, findTelemetry]
  rw [hSkip, listed_bind, listed_list]
  rfl

end Telemetry

section Organization

variable (store : ListingStore) (organization : ObjectId) (shipmentId : Option String)
  (start stop : Option Date) (limit : Nat)

/-- The shipment is one of the organisation's, as its document says. -/
def ownsShipment (shipment : Shipment) : Prop :=
  shipment.enterpriseId = organization ∨ shipment.logisticsId = organization

/-- The record is to be listed for the organisation. -/
def organizationTelemetryBelongs (row : TelemetryRow) : Prop :=
  telemetryBelongs shipmentId start stop row = true ∧
    ∃ shipment ∈ store.shipments.docs, shipment.id = row.shipmentId ∧
      ownsShipment organization shipment

def askOrganizationTelemetry (cursor : Option String) :
    Except ThrownError (CursorPage TelemetryRow) :=
  listed (getTelemetryService
    { cursor, limit, shipmentId, organizationId := some organization.toString, start, stop }) store

variable {store organization shipmentId start stop limit}

/-- No shipment has the path that is asked for. -/
theorem listed_organizationShipments (organizationId : String) :
    listed (organizationShipments organizationId) store = .ok [] := by
  have hNone : store.select .shipments [.test ({
      conditions := [("organizationId", .equals (.string organizationId))] } : Query).accepts] =
        [] := by
    refine List.filter_eq_nil_iff.mpr fun shipment _ => ?_
    have hPath : Query.accepts { conditions :=
        [("organizationId", .equals (.string organizationId))] } shipment = false :=
      Query.not_accepts_of_unknown List.mem_cons_self (by simp) rfl
    simp [Criterion.accepts, hPath]
  rw [organizationShipments, listed_list]
  simp only [executeListing, List.findSome?, Criterion.refused?, hNone]
  rfl

theorem askOrganizationTelemetry_eq (cursor : Option String) :
    askOrganizationTelemetry store organization shipmentId start stop limit cursor =
      .ok { data := [], nextCursor := none, hasMore := false } := by
  have hOrganization : truthy (some organization.toString) = some organization.toString := by
    simp [truthy, ObjectId.toString_ne_empty]
  simp only [askOrganizationTelemetry, getTelemetryService, hOrganization]
  rw [listed_bind, listed_organizationShipments]
  rfl

theorem organizationTelemetry_nothing {pages : List (CursorPage TelemetryRow)}
    (hReads : CursorPages.Reads
      (askOrganizationTelemetry store organization shipmentId start stop limit)
      (fun page => page.nextCursor) none pages) :
    pages.flatMap (fun page => page.data) = [] := by
  cases hReads with
  | last answered ends =>
      cases (askOrganizationTelemetry_eq none).symm.trans answered
      rfl
  | more answered goesOn =>
      cases (askOrganizationTelemetry_eq none).symm.trans answered
      cases goesOn

/-- For an organisation nothing is listed, which is right only if it has no telemetry. -/
theorem organizationTelemetry_exact_iff (store : ListingStore) (organization : ObjectId)
    (shipmentId : Option String) (start stop : Option Date) (limit : Nat) :
    (∃ pages, CursorPages.Reads
        (askOrganizationTelemetry store organization shipmentId start stop limit)
        (fun page => page.nextCursor) none pages ∧
      ∀ row, row ∈ pages.flatMap (fun page => page.data) ↔ row ∈ store.telemetry.docs ∧
        organizationTelemetryBelongs store organization shipmentId start stop row) ↔
      ∀ row ∈ store.telemetry.docs,
        ¬ organizationTelemetryBelongs store organization shipmentId start stop row := by
  constructor
  · rintro ⟨pages, hReads, hRows⟩ row hRow hBelongs
    have hListed := (hRows row).mpr ⟨hRow, hBelongs⟩
    rw [organizationTelemetry_nothing hReads] at hListed
    cases hListed
  · intro hNone
    refine ⟨_, .last (askOrganizationTelemetry_eq none) rfl, fun row => ?_⟩
    exact ⟨nofun, fun h => absurd h.2 (hNone row h.1)⟩

/-- A shipment of an enterprise with one reading. -/
def ownReading : ListingStore where
  shipments := ⟨[sampleShipment], List.nodup_singleton _⟩
  telemetry :=
    ⟨[{ id := .repeated 1, shipmentId := sampleShipment.id, latitude := .finite .zero
        longitude := .finite .zero, timestamp := ⟨0⟩, dataHash := "", stellarTxHash := none, anchored := false
        deletedAt := none }], List.nodup_singleton _⟩

theorem organizationTelemetry_not_exact :
    ¬ ∃ pages, CursorPages.Reads
        (askOrganizationTelemetry ownReading sampleShipment.enterpriseId none none none 20)
        (fun page => page.nextCursor) none pages ∧
      ∀ row, row ∈ pages.flatMap (fun page => page.data) ↔ row ∈ ownReading.telemetry.docs ∧
        organizationTelemetryBelongs ownReading sampleShipment.enterpriseId none none none row := by
  rintro ⟨pages, hReads, hRows⟩
  have hListed := (hRows _).mpr ⟨List.mem_cons_self, rfl, sampleShipment, List.mem_cons_self, rfl,
    .inl rfl⟩
  rw [organizationTelemetry_nothing hReads] at hListed
  cases hListed

end Organization

section Anomalies

variable (params : AnomaliesParams) (limit : Nat) (store : ListingStore)

def anomalyBelongs (row : AnomalyRow) : Bool :=
  row.deletedAt.isNone && keepsId params.shipmentId row.shipmentId &&
    keepsText params.severity row.severity && keepsText params.type row.type &&
      params.resolved.all fun resolved => row.resolved = resolved

def anomalyListing : List AnomalyRow :=
  store.listing .anomalies (anomalyBelongs params)
    newestAnomalyFirst

def askAnomalies (cursor : Option String) : Except ThrownError (CursorPage AnomalyRow) :=
  listed (getAnomaliesService { params with limit, cursor }) store

def anomalyCriteria : List (Option (Criterion .anomalies)) :=
  [idCriterion (fun row => row.shipmentId) params.shipmentId,
   textCriterion (fun row => row.severity) params.severity,
   textCriterion (fun row => row.type) params.type,
   equalsCriterion (fun row => row.resolved) params.resolved]

variable {params limit store}

theorem anomalyCriteria_answerable :
    Answerable (givenCriteria (anomalyCriteria params)) ↔ castable params.shipmentId = true := by
  simp only [answerable_given_iff, anomalyCriteria, List.all_cons, List.all_nil,
    idCriterion_answerable, textCriterion_answerable, equalsCriterion_answerable, Bool.and_true]

theorem anomalyCriteria_accepts (row : AnomalyRow) :
    (row.deletedAt.isNone && (givenCriteria (anomalyCriteria params)).all
      fun criterion => criterion.accepts row) = anomalyBelongs params row := by
  simp only [givenCriteria_all, anomalyCriteria, List.all_cons, List.all_nil,
    idCriterion_accepts, textCriterion_accepts, equalsCriterion_accepts, Bool.and_true,
    anomalyBelongs, Bool.and_assoc]

theorem askAnomalies_find (cursor : Option String) :
    askAnomalies params limit store cursor =
      (executeListing store (.find .anomalies
        (givenCriteria (anomalyCriteria params ++ [cursorCriterion cursor]))
        newestAnomalyFirst 0 (limit + 1))).map
          fun anomalies => paginateCursor .anomalies anomalies limit := by
  rw [askAnomalies, getAnomaliesService, listed_bind, listed_list]
  rfl

end Anomalies

section AuditLogs

variable (params : GetAuditLogsParams) (limit : Nat) (store : ListingStore)

def AuditFilter.keeps (filter : AuditFilter) (entry : AuditLog) : Bool :=
  entry.deletedAt.isNone && keepsId filter.userId entry.userId &&
    keepsText filter.action entry.action && keepsText filter.resource entry.resource

def auditLogBelongs (entry : AuditLog) : Bool :=
  params.keeps entry && withinWindow params.start params.stop entry.timestamp

def auditLogListing : List AuditLog :=
  store.listing .auditLogs (auditLogBelongs params) newestEntryFirst

def askAuditLogs (cursor : Option String) : Except ThrownError (CountedPage AuditLog) :=
  listed (getAuditLogsService { params with limit, cursor }) store

def auditLogCriteria : List (Option (Criterion .auditLogs)) :=
  params.query ++
    [windowCriterion (fun (entry : AuditLog) => entry.timestamp) params.start params.stop]

variable {params limit store}

theorem AuditFilter.query_answerable (filter : AuditFilter) :
    Answerable (givenCriteria filter.query) ↔ castable filter.userId = true := by
  simp only [answerable_given_iff, AuditFilter.query, List.all_cons, List.all_nil,
    idCriterion_answerable, textCriterion_answerable, Bool.and_true]

theorem AuditFilter.query_accepts (filter : AuditFilter) (entry : AuditLog) :
    (entry.deletedAt.isNone && (givenCriteria filter.query).all
      fun criterion => criterion.accepts entry) = filter.keeps entry := by
  simp only [givenCriteria_all, AuditFilter.query, List.all_cons, List.all_nil,
    idCriterion_accepts, textCriterion_accepts, Bool.and_true, AuditFilter.keeps, Bool.and_assoc]

theorem auditLogCriteria_answerable :
    Answerable (givenCriteria (auditLogCriteria params)) ↔ castable params.userId = true := by
  rw [auditLogCriteria, givenCriteria_append, Answerable, List.forall_mem_append]
  refine (and_iff_left ?_).trans params.query_answerable
  refine (answerable_given_iff _).mpr ?_
  simp only [List.all_cons, List.all_nil, windowCriterion_answerable, Bool.and_true]

theorem auditLogCriteria_accepts (entry : AuditLog) :
    (entry.deletedAt.isNone && (givenCriteria (auditLogCriteria params)).all
      fun criterion => criterion.accepts entry) = auditLogBelongs params entry := by
  have hWindow : ((givenCriteria
      [windowCriterion (fun (entry : AuditLog) => entry.timestamp) params.start params.stop] :
        List (Criterion .auditLogs)).all fun criterion => criterion.accepts entry) =
          withinWindow params.start params.stop entry.timestamp := by
    simp only [givenCriteria_all, List.all_cons, List.all_nil, windowCriterion_accepts,
      Bool.and_true]
  rw [auditLogCriteria, givenCriteria_append, List.all_append, ← Bool.and_assoc,
    params.query_accepts, hWindow, auditLogBelongs]

/-- The count is refused only if the documents are. -/
theorem askAuditLogs_find (cursor : Option String) :
    (askAuditLogs params limit store cursor).map (fun answer => answer.toCursorPage) =
      (executeListing store (.find .auditLogs
        (givenCriteria (auditLogCriteria params ++ [cursorCriterion cursor])) newestEntryFirst 0
        (limit + 1))).map fun logs => paginateCursor .auditLogs logs limit := by
  have hAsk : askAuditLogs params limit store cursor =
      (executeListing store (.find .auditLogs
        (givenCriteria (auditLogCriteria params ++ [cursorCriterion cursor])) newestEntryFirst 0
        (limit + 1))).bind fun logs =>
          (executeListing store (.count .auditLogs (givenCriteria (auditLogCriteria params)))).bind
            fun total => .ok { paginateCursor .auditLogs logs limit with total } :=
    listed_findAndCount store _ _ _
  rw [hAsk, givenCriteria_append]
  cases hFind : executeListing store (.find .auditLogs (givenCriteria (auditLogCriteria params) ++
      givenCriteria [cursorCriterion cursor]) newestEntryFirst 0 (limit + 1)) with
  | error error => rfl
  | ok logs =>
      obtain ⟨total, hTotal⟩ := executeListing_count_ok hFind
      rw [hTotal]
      rfl

end AuditLogs

section Exactness

variable (store : ListingStore)

theorem telemetryListing_exact_iff {shipmentId : Option String} {start stop : Option Date}
    {limit : Nat} (hLimit : 0 < limit) :
    ListsExactly .telemetry store (telemetryBelongs shipmentId start stop) newestTelemetryFirst
        (askTelemetry shipmentId start stop limit store) (fun page => page.nextCursor)
        (fun page => page.data) ↔
      castable shipmentId = true ∧
        EndsById .telemetry (telemetryListing shipmentId start stop store) limit := by
  refine Iff.trans (listsExactly_of_find (fun cursor => ?_) telemetryCriteria_accepts hLimit
    (sortsByKey_orders _ _ store)) (and_congr_left' telemetryCriteria_answerable)
  rw [askTelemetry_find]
  exact congrFun Except.map_id _

/-- The listings by event time are exact where the ids agree with the order at the ends of
the pages. -/
theorem eventListings_exact_iff {limit : Nat} (hLimit : 0 < limit) :
    (∀ shipmentId start stop,
      ListsExactly .telemetry store (telemetryBelongs shipmentId start stop)
          newestTelemetryFirst
          (askTelemetry shipmentId start stop limit store) (fun page => page.nextCursor)
          (fun page => page.data) ↔
        castable shipmentId = true ∧
          EndsById .telemetry (telemetryListing shipmentId start stop store) limit) ∧
      (∀ params : AnomaliesParams,
        ListsExactly .anomalies store (anomalyBelongs params)
            newestAnomalyFirst
            (askAnomalies params limit store) (fun page => page.nextCursor)
            (fun page => page.data) ↔
          castable params.shipmentId = true ∧
            EndsById .anomalies (anomalyListing params store) limit) ∧
        ∀ params : GetAuditLogsParams,
          ListsExactly .auditLogs store (auditLogBelongs params) newestEntryFirst
              (askAuditLogs params limit store) (fun page => page.nextCursor)
              (fun page => page.data) ↔
            castable params.userId = true ∧
              EndsById .auditLogs (auditLogListing params store) limit := by
  refine ⟨fun _ _ _ => telemetryListing_exact_iff store hLimit, fun params => ?_,
    fun params => ?_⟩
  · refine Iff.trans (listsExactly_of_find (fun cursor => ?_) anomalyCriteria_accepts hLimit
      (sortsByKey_orders _ _ store)) (and_congr_left' anomalyCriteria_answerable)
    rw [askAnomalies_find]
    exact congrFun Except.map_id _
  · exact Iff.trans (listsExactly_of_find askAuditLogs_find auditLogCriteria_accepts hLimit
      (sortsByKey_orders _ _ store)) (and_congr_left' auditLogCriteria_answerable)

/-- A reading that arrived after a later one. -/
def delayedReadings : ListingStore where
  telemetry :=
    { docs :=
        [{ id := .repeated 1, shipmentId := .repeated 9, latitude := .finite .zero
           longitude := .finite .zero, timestamp := ⟨1000⟩, dataHash := "", stellarTxHash := none, anchored := false
           deletedAt := none },
         { id := .repeated 2, shipmentId := .repeated 9, latitude := .finite .zero
           longitude := .finite .zero, timestamp := ⟨0⟩, dataHash := "", stellarTxHash := none, anchored := false
           deletedAt := none }]
      unique := by decide +kernel }

theorem delayedReadings_listing : telemetryListing none none none delayedReadings =
    delayedReadings.telemetry.docs := by
  decide +kernel

/-- On one page the delayed reading is listed. -/
theorem eventListings_exact_iff_delayed : 0 < 2 ∧
    ListsExactly .telemetry delayedReadings (telemetryBelongs none none none) newestTelemetryFirst
      (askTelemetry none none none 2 delayedReadings) (fun page => page.nextCursor)
      (fun page => page.data) := by
  refine ⟨by decide, ((eventListings_exact_iff delayedReadings (by decide)).1 none none none).mpr
    ⟨rfl, ?_⟩⟩
  rw [delayedReadings_listing]
  intro before item after hItems hEnd hAfter
  have hLength := congrArg List.length hItems
  have hSome := List.length_pos_iff.mpr hAfter
  simp only [delayedReadings, List.length_append, List.length_cons, List.length_nil] at hLength
  omega

/-- With one reading on a page it is lost: the cursor asks for ids below that of the later
reading. -/
theorem telemetryListing_not_exact :
    ¬ ListsExactly .telemetry delayedReadings (telemetryBelongs none none none)
      newestTelemetryFirst (askTelemetry none none none 1 delayedReadings)
      (fun page => page.nextCursor) (fun page => page.data) := by
  rw [telemetryListing_exact_iff delayedReadings (by decide), delayedReadings_listing]
  rintro ⟨-, hEnds⟩
  have hAfter := (hEnds [] _ _ rfl (by decide) (by decide)).2 _ List.mem_cons_self
  revert hAfter
  decide +kernel

end Exactness

section Activity

variable (params : GetActivityParams) (limit : Nat) (store : ListingStore)

def activityListing : List AuditLog :=
  store.listing .auditLogs params.keeps newestEntryFirst

def askActivity (before : Option String) : Except ThrownError GetActivityResult :=
  listed (getActivityService { params with limit, before }) store

/-- The mark of an entry is its timestamp, and what is left is strictly older. -/
def timestampText (entry : AuditLog) : String :=
  entry.timestamp.toISOString

def olderThan (before : String) (entry : AuditLog) : Bool :=
  (Date.parse before).any fun date => entry.timestamp.ms < date.ms

variable {params limit store}

theorem olderThan_timestampText (entry other : AuditLog) :
    olderThan (timestampText entry) other = true ↔ other.timestamp.ms < entry.timestamp.ms := by
  simp [olderThan, timestampText, Date.parse_toISOString]

theorem olderThan_trans (before : String) (item other : AuditLog)
    (hItem : olderThan before item = true)
    (hOther : olderThan (timestampText item) other = true) : olderThan before other = true := by
  rw [olderThan_timestampText] at hOther
  rw [olderThan, Option.any_eq_true] at hItem ⊢
  obtain ⟨date, hDate, hItem⟩ := hItem
  rw [decide_eq_true_eq] at hItem
  exact ⟨date, hDate, decide_eq_true (lt_trans hOther hItem)⟩

/-- The criterion that `before` adds. -/
theorem olderCriterion_accepts {items : List AuditLog} {before : Option String}
    (hBefore : CursorPages.IsMark timestampText items before) :
    Answerable (givenCriteria [olderCriterion before]) ∧
      (items.filter fun entry => (givenCriteria [olderCriterion before]).all fun criterion =>
        criterion.accepts entry) = CursorPages.remaining olderThan items before := by
  cases before with
  | none => exact ⟨nofun, List.filter_true items⟩
  | some key =>
      obtain ⟨item, -, rfl⟩ := hBefore key rfl
      have hTruthy : truthy (some (timestampText item)) = some (timestampText item) := by
        simp [truthy, timestampText, Date.toISOString_ne_empty]
      rw [olderCriterion, hTruthy]
      refine ⟨?_, List.filter_congr fun entry _ => ?_⟩
      · simp [Answerable, givenCriteria, Criterion.refused?, timestampText, Date.parse_toISOString]
      · simp [givenCriteria, Criterion.accepts, olderThan]

theorem activity_serves (hUser : castable params.userId = true) :
    CursorPages.Serves timestampText olderThan (activityListing params store) limit
      (askActivity params limit store) (fun result => result.before) fun result => result.data where
  answers before hBefore := by
    have hAsk : askActivity params limit store before =
        (executeListing store (.find .auditLogs
          (givenCriteria (params.query ++ [olderCriterion before])) newestEntryFirst 0
          (limit + 1))).bind fun logs =>
            (executeListing store (.count .auditLogs (givenCriteria params.query))).bind
              fun total =>
                let data := if limit < (logs : List AuditLog).length then logs.take limit else logs
                .ok {
                  data, total, hasMore := limit < logs.length
                  before := if limit < logs.length then data.getLast?.map timestampText
                    else none } :=
      listed_findAndCount store _ _ _
    obtain ⟨hOlder, hRest⟩ := olderCriterion_accepts hBefore
    have hQuery := params.query_answerable.mpr hUser
    have hFind : executeListing store (.find .auditLogs
        (givenCriteria (params.query ++ [olderCriterion before])) newestEntryFirst 0 (limit + 1)) =
          .ok ((CursorPages.remaining olderThan (activityListing params store) before).take
            (limit + 1)) := by
      rw [givenCriteria_append]
      exact find_remaining hQuery hOlder (sortsByKey_orders _ _ store) params.query_accepts hRest
    have hCount := @executeListing_count .auditLogs _ _ newestEntryFirst store hQuery
      params.query_accepts
    simp only [hAsk, hFind, hCount, Except.bind, lt_length_overfetched, slice_overfetched]
    exact ⟨_, rfl, rfl, rfl⟩

theorem activity_refused (hUser : castable params.userId ≠ true) :
    ∃ error, askActivity params limit store none = .error error := by
  have hQuery : ¬ Answerable (givenCriteria (params.query ++ [olderCriterion none])) := by
    rw [givenCriteria_append, Answerable, List.forall_mem_append]
    exact fun hAnswerable => hUser (params.query_answerable.mp hAnswerable.1)
  obtain ⟨error, hError⟩ :=
    @executeListing_refused .auditLogs _ newestEntryFirst store 0 (limit + 1) hQuery
  refine ⟨error, (listed_findAndCount store _ _ _).trans ?_⟩
  exact congrArg (fun outcome => Except.bind outcome _) hError

theorem timestamp_le_of_newestFirst {first second : AuditLog}
    (h : newestEntryFirst first second = true) : second.timestamp.ms ≤ first.timestamp.ms := by
  simp only [newestEntryFirst, sortsByKey, Bool.or_eq_true, Bool.and_eq_true,
    decide_eq_true_eq] at h
  rcases h with hLater | ⟨hSame, -⟩
  · exact le_of_lt hLater
  · exact le_of_eq hSame

/-- Newest first, the mark of an entry separates it from the next one, or they share their
timestamp. -/
theorem cleanAt_timestamp_iff {earlier later : List AuditLog} {entry next : AuditLog}
    (hSorted : (earlier ++ entry :: next :: later).Pairwise fun first second =>
      newestEntryFirst first second = true) :
    CursorPages.CleanAt timestampText olderThan earlier entry (next :: later) ↔
      entry.timestamp ≠ next.timestamp := by
  obtain ⟨-, hEntry, hEarlier⟩ := List.pairwise_append.mp hSorted
  obtain ⟨hAfter, hNext⟩ := List.pairwise_cons.mp hEntry
  have hLe := timestamp_le_of_newestFirst (hAfter next List.mem_cons_self)
  constructor
  · rintro ⟨-, hOlder⟩ hSame
    have hLt := (olderThan_timestampText entry next).mp (hOlder next List.mem_cons_self)
    rw [hSame] at hLt
    exact lt_irrefl _ hLt
  · intro hNe
    have hLt : next.timestamp.ms < entry.timestamp.ms :=
      lt_of_le_of_ne hLe fun hMs => hNe (congrArg Date.mk hMs.symm)
    refine ⟨fun other hOther => ?_, fun other hOther => ?_⟩
    · rw [Bool.eq_false_iff, ne_eq, olderThan_timestampText, not_lt]
      rcases List.mem_append.mp hOther with hBefore | hItem
      · exact timestamp_le_of_newestFirst (hEarlier other hBefore entry List.mem_cons_self)
      · rw [List.mem_singleton.mp hItem]
    · rw [olderThan_timestampText]
      rcases List.mem_cons.mp hOther with rfl | hLater
      · exact hLt
      · exact lt_of_le_of_lt
          (timestamp_le_of_newestFirst ((List.pairwise_cons.mp hNext).1 other hLater)) hLt

theorem activityListing_sorted (params : GetActivityParams) (store : ListingStore) :
    (activityListing params store).Pairwise fun first second =>
      newestEntryFirst first second = true :=
  ((sortsByKey_orders _ _ store).of_subset
    (List.filter_subset_self (store.docs .auditLogs))).pairwise_insertionSort

/-- No page that another follows ends between entries of one timestamp. -/
def EndsBetweenTimes (entries : List AuditLog) (limit : Nat) : Prop :=
  ∀ earlier entry next later, entries = earlier ++ entry :: next :: later →
    limit ∣ earlier.length + 1 → entry.timestamp ≠ next.timestamp

theorem activity_exact_of_castable (hLimit : 0 < limit) (hUser : castable params.userId = true) :
    ListsExactly .auditLogs store params.keeps newestEntryFirst (askActivity params limit store)
        (fun result => result.before) (fun result => result.data) ↔
      EndsBetweenTimes (activityListing params store) limit := by
  have hSorted := activityListing_sorted params store
  refine Iff.trans (@listsExactly_iff .auditLogs limit store params.keeps newestEntryFirst _ _ _ _
    timestampText olderThan (activity_serves hUser) hLimit (sortsByKey_orders _ _ store)
    olderThan_trans) ?_
  constructor
  · intro hClean earlier entry next later hItems hEnd
    rw [hItems] at hSorted
    exact (cleanAt_timestamp_iff hSorted).mp (hClean _ _ _ hItems hEnd (List.cons_ne_nil _ _))
  · intro hTies earlier entry after hItems hEnd hAfter
    obtain ⟨next, later, rfl⟩ := List.exists_cons_of_ne_nil hAfter
    change activityListing params store = _ at hItems
    rw [hItems] at hSorted
    exact (cleanAt_timestamp_iff hSorted).mpr (hTies _ _ _ _ hItems hEnd)

/-- The feed is exact when its user can be cast and its pages end between timestamps. -/
theorem activity_exact_iff (params : GetActivityParams) (store : ListingStore) {limit : Nat}
    (hLimit : 0 < limit) :
    ListsExactly .auditLogs store params.keeps newestEntryFirst (askActivity params limit store)
        (fun result => result.before) (fun result => result.data) ↔
      castable params.userId = true ∧ EndsBetweenTimes (activityListing params store) limit := by
  by_cases hUser : castable params.userId = true
  · exact (activity_exact_of_castable hLimit hUser).trans (and_iff_right hUser).symm
  · obtain ⟨error, hError⟩ := activity_refused hUser
    exact iff_of_false (not_listsExactly_of_error hError) fun h => hUser h.1

def entryAt (id : Fin 16) (ms : Int) : AuditLog where
  id := .repeated id
  userId := .repeated 9
  action := "UPDATE"
  resource := "shipment"
  resourceId := "1"
  timestamp := ⟨ms⟩
  deletedAt := none

/-- Three entries, of which a bulk operation logged two in one millisecond. -/
def bulkEntries : ListingStore where
  auditLogs :=
    { docs := [entryAt 3 1000, entryAt 2 1000, entryAt 1 0]
      unique := by decide +kernel }

theorem bulkEntries_listing (limit : Nat) :
    activityListing { limit } bulkEntries = bulkEntries.auditLogs.docs := by
  change activityListing { limit := 0 } bulkEntries = _
  decide +kernel

/-- Two entries to a page, the page ends between the timestamps. -/
theorem activity_exact_iff_bulk : 0 < 2 ∧
    ListsExactly .auditLogs bulkEntries (GetActivityParams.mk {} none 2).keeps newestEntryFirst
      (askActivity { limit := 2 } 2 bulkEntries) (fun result => result.before)
      (fun result => result.data) := by
  refine ⟨by decide, (activity_exact_iff { limit := 2 } bulkEntries (by decide)).mpr ⟨rfl, ?_⟩⟩
  rw [bulkEntries_listing]
  intro earlier entry next later hItems hEnd
  have hLength := congrArg List.length hItems
  simp only [bulkEntries, List.length_append, List.length_cons, List.length_nil] at hLength
  obtain ⟨first, rfl⟩ := List.length_eq_one_iff.mp (show earlier.length = 1 by omega)
  obtain ⟨-, hRest⟩ := List.cons_eq_cons.mp hItems
  obtain ⟨rfl, hLast⟩ := List.cons_eq_cons.mp hRest
  obtain ⟨rfl, -⟩ := List.cons_eq_cons.mp hLast
  decide

/-- One entry to a page, the second of the bulk operation is not older than the first. -/
theorem activity_not_exact :
    ¬ ListsExactly .auditLogs bulkEntries (GetActivityParams.mk {} none 1).keeps newestEntryFirst
      (askActivity { limit := 1 } 1 bulkEntries) (fun result => result.before)
      (fun result => result.data) := by
  rw [activity_exact_of_castable (by decide) rfl, bulkEntries_listing]
  intro hEnds
  exact hEnds [] _ _ _ rfl (by decide) rfl

end Activity

end Navin
