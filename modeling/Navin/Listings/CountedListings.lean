import Navin.Listings.EventListings

/-! The listings that also count: payments in any of their orders, and ledger blocks,
users and invitations in the order of creation. -/
namespace Navin

open Async

section ObjectIds

variable {kind : ListedCollection} {store : ListingStore} {text : Option String}

theorem listed_newObjectId (id : ObjectId) : listed (newObjectId id.toString) store = .ok id := by
  rw [newObjectId, ObjectId.cast?_toString]
  rfl

theorem listed_newObjectId? (h : castable text = true) :
    listed (newObjectId? text) store = .ok ((truthy text).bind ObjectId.cast?) := by
  rw [castable] at h
  rw [newObjectId?]
  cases hText : truthy text with
  | none => rfl
  | some text =>
      rw [hText] at h
      obtain ⟨id, hId⟩ := Option.isSome_iff_exists.mp h
      simp only [listed_map, newObjectId, hId, Option.bind_some]
      rfl

theorem listed_newObjectId?_error (h : castable text ≠ true) :
    ∃ error, listed (newObjectId? text) store = .error error := by
  rw [castable] at h
  rw [newObjectId?]
  cases hText : truthy text with
  | none =>
      rw [hText] at h
      exact absurd rfl h
  | some text =>
      rw [hText] at h
      cases hCast : ObjectId.cast? text with
      | some id => simp [hCast] at h
      | none =>
          refine ⟨.castError text, ?_⟩
          simp only [listed_map, newObjectId, hCast]
          rfl

theorem keepsId_of_castable (h : castable text = true) (id : ObjectId) :
    (((truthy text).bind ObjectId.cast?).all fun other => id = other) = keepsId text id := by
  rw [castable] at h
  rw [keepsId]
  cases hText : truthy text with
  | none => rfl
  | some text =>
      rw [hText] at h
      obtain ⟨other, hOther⟩ := Option.isSome_iff_exists.mp h
      simp only [Option.bind_some, hOther, Option.all_some, Option.some.injEq, eq_comm]

/-- A mark is the text of an id. -/
theorem castable_of_isMark {items : List kind.Document} {cursor : Option String}
    (hCursor : CursorPages.IsMark (idText kind) items cursor) : castable cursor = true := by
  cases cursor with
  | none => rfl
  | some key =>
      obtain ⟨item, -, rfl⟩ := hCursor key rfl
      rw [castable, truthy_idText]
      simp [idText]

/-- The criterion that a cursor adds once it has been made an id. -/
theorem belowCriterion_accepts {items : List kind.Document} {cursor : Option String}
    (hCursor : CursorPages.IsMark (idText kind) items cursor) :
    Answerable (givenCriteria
        [((truthy cursor).bind ObjectId.cast?).map (belowCriterion kind)]) ∧
      (items.filter fun doc => (givenCriteria
        [((truthy cursor).bind ObjectId.cast?).map (belowCriterion kind)]).all fun criterion =>
          criterion.accepts doc) = CursorPages.remaining (belowId kind) items cursor := by
  cases cursor with
  | none => exact ⟨nofun, List.filter_true items⟩
  | some key =>
      obtain ⟨item, -, rfl⟩ := hCursor key rfl
      have hId : (truthy (some (idText kind item))).bind ObjectId.cast? = some (kind.id item) := by
        rw [truthy_idText]
        exact ObjectId.cast?_toString _
      rw [hId]
      refine ⟨?_, List.filter_congr fun doc _ => ?_⟩
      · simp [Answerable, givenCriteria, belowCriterion, Criterion.refused?]
      · simp [givenCriteria, belowCriterion, Criterion.accepts, belowId, idText]

end ObjectIds

section Payments

variable (organization : ObjectId) (filters : PaymentsFilters) (limit : Nat)
  (store : ListingStore)

def paymentBelongs (payment : ListedPayment) : Bool :=
  payment.deletedAt.isNone && payment.organizationId = organization &&
    filters.status.all (fun status => payment.status = status) &&
      keepsId filters.shipmentId payment.shipmentId

/-- The order that was asked for. -/
def PaymentsFilters.order : ListedPayment → ListedPayment → Bool :=
  sortsPayments (filters.sortBy.getD .createdAt)
    (if filters.sortOrder = some .ascending then .ascending else .descending)

def paymentListing : List ListedPayment :=
  store.listing .payments (paymentBelongs organization filters) filters.order

def askPayments (cursor : Option String) : Except ThrownError (CountedPage ListedPayment) :=
  listed (getPaymentsByOrganization organization.toString
    { filters with limit := some limit, cursor, page := none }) store

/-- The criteria without the cursor. -/
def paymentCriteria : List (Option (Criterion .payments)) :=
  [equalsCriterion (fun payment => payment.organizationId) (some organization),
   equalsCriterion (fun payment => payment.status) filters.status,
   equalsCriterion (fun payment => payment.shipmentId)
     ((truthy filters.shipmentId).bind ObjectId.cast?)]

variable {organization filters limit store}

theorem paymentsOrder_orders (store : ListingStore) :
    Paging.OrdersKeys (fun payment => payment) filters.order store.payments.docs := by
  rw [PaymentsFilters.order]
  cases filters.sortBy.getD .createdAt with
  | amount => exact @sortsByKey_orders .payments _ _ (fun payment => payment.amount.value) _ store
  | status => exact @sortsByKey_orders .payments _ _ (fun payment => payment.status.name) _ store
  | createdAt =>
      exact @sortsByKey_orders .payments _ _ (fun payment => payment.createdAt.ms) _ store

theorem paymentCriteria_answerable :
    Answerable (givenCriteria (paymentCriteria organization filters)) := by
  simp only [answerable_given_iff, paymentCriteria, List.all_cons, List.all_nil,
    equalsCriterion_answerable, Bool.and_true]

theorem paymentCriteria_accepts (hShipment : castable filters.shipmentId = true)
    (payment : ListedPayment) : (payment.deletedAt.isNone &&
      (givenCriteria (paymentCriteria organization filters)).all fun criterion =>
        criterion.accepts payment) = paymentBelongs organization filters payment := by
  simp only [givenCriteria_all, paymentCriteria, List.all_cons, List.all_nil,
    equalsCriterion_accepts, keepsId_of_castable hShipment, Bool.and_true, Option.all_some,
    paymentBelongs, Bool.and_assoc]

theorem askPayments_refused (hShipment : castable filters.shipmentId ≠ true) :
    ∃ error, askPayments organization filters limit store none = .error error := by
  obtain ⟨error, hError⟩ := @listed_newObjectId?_error store _ hShipment
  refine ⟨error, ?_⟩
  rw [askPayments, getPaymentsByOrganization]
  refine (listed_bind_ok store (listed_newObjectId organization)).trans ?_
  exact listed_bind_error store hError

theorem askPayments_eq {cursor : Option String} (hShipment : castable filters.shipmentId = true)
    (hCursor : CursorPages.IsMark (idText .payments) (paymentListing organization filters store)
      cursor) :
    askPayments organization filters limit store cursor = .ok
      { pageBelow .payments (paymentListing organization filters store) limit cursor with
        total := (paymentListing organization filters store).length } := by
  obtain ⟨hBelow, hRest⟩ := belowCriterion_accepts hCursor
  have hCount := @executeListing_count .payments _ _ filters.order store
    (@paymentCriteria_answerable organization filters) (paymentCriteria_accepts hShipment)
  have hFind := @find_remaining .payments _ _ _ _ store limit _ _ _
    (@paymentCriteria_answerable organization filters) hBelow
    (paymentsOrder_orders store) (paymentCriteria_accepts hShipment) hRest
  rw [← givenCriteria_append] at hFind
  rw [askPayments, getPaymentsByOrganization]
  refine (listed_bind_ok store (listed_newObjectId organization)).trans ?_
  refine (listed_bind_ok store (listed_newObjectId? hShipment)).trans ?_
  refine (listed_bind_ok store ((listed_list store _).trans hCount)).trans ?_
  refine (listed_bind_ok store (listed_newObjectId? (castable_of_isMark hCursor))).trans ?_
  refine (listed_bind_ok store ((listed_list store _).trans hFind)).trans ?_
  exact congrArg Except.ok (poppedPage_overfetched _ _ _)

theorem payments_iff_endsById (hLimit : 0 < limit) :
    ListsExactly .payments store (paymentBelongs organization filters) filters.order
        (askPayments organization filters limit store) (fun page => page.nextCursor)
        (fun page => page.data) ↔
      castable filters.shipmentId = true ∧
        EndsById .payments (paymentListing organization filters store) limit :=
  listsExactly_iff_endsById askPayments_refused
    (fun hShipment _ hCursor => ⟨_, askPayments_eq hShipment hCursor, rfl⟩) hLimit
    (paymentsOrder_orders store)

/-- In each order the listing is exact where the ids fall at the ends of the pages. -/
theorem payments_exact_iff (organization : ObjectId) (filters : PaymentsFilters)
    (store : ListingStore) {limit : Nat} (hLimit : 0 < limit) :
    ListsExactly .payments store (paymentBelongs organization filters) filters.order
        (askPayments organization filters limit store) (fun page => page.nextCursor)
        (fun page => page.data) ↔
      castable filters.shipmentId = true ∧
        EndsById .payments (paymentListing organization filters store) limit :=
  payments_iff_endsById hLimit

def paymentAt (id : Fin 16) (ms : Int) : ListedPayment :=
  { samplePayment with id := .repeated id, createdAt := ⟨ms⟩ }

/-- Two payments, with ids in the order of their creation. -/
def twoPayments : ListingStore where
  payments := ⟨[paymentAt 1 0, paymentAt 2 1000], by decide +kernel⟩

/-- Newest first the older payment is on the second page. -/
theorem payments_exact_iff_two : 0 < 1 ∧
    ListsExactly .payments twoPayments (paymentBelongs samplePayment.organizationId {})
      (PaymentsFilters.order {}) (askPayments samplePayment.organizationId {} 1 twoPayments)
      (fun page => page.nextCursor) (fun page => page.data) := by
  have hListing : paymentListing samplePayment.organizationId {} twoPayments =
      [paymentAt 2 1000, paymentAt 1 0] := by
    decide +kernel
  refine ⟨by decide, (payments_exact_iff samplePayment.organizationId {} twoPayments
    (by decide)).mpr ⟨rfl, ?_⟩⟩
  rw [hListing]
  intro before item after hItems hEnd hAfter
  have hLength := congrArg List.length hItems
  have hSome := List.length_pos_iff.mpr hAfter
  simp only [List.length_append, List.length_cons, List.length_nil] at hLength
  obtain rfl : before = [] := List.length_eq_zero_iff.mp (by omega)
  obtain ⟨rfl, rfl⟩ := List.cons_eq_cons.mp hItems
  refine ⟨?_, ?_⟩ <;> decide +kernel

/-- Oldest first the newer one is lost. -/
theorem payments_not_exact :
    ¬ ListsExactly .payments twoPayments
      (paymentBelongs samplePayment.organizationId { sortOrder := some .ascending })
      (PaymentsFilters.order { sortOrder := some .ascending })
      (askPayments samplePayment.organizationId { sortOrder := some .ascending } 1 twoPayments)
      (fun page => page.nextCursor) (fun page => page.data) := by
  have hListing : paymentListing samplePayment.organizationId { sortOrder := some .ascending }
      twoPayments = [paymentAt 1 0, paymentAt 2 1000] := by
    decide +kernel
  rw [payments_iff_endsById (by decide), hListing]
  rintro ⟨-, hEnds⟩
  have hAfter := (hEnds [] _ _ rfl (by decide) (by decide)).2 _ List.mem_cons_self
  revert hAfter
  decide +kernel

end Payments

section NewestFirst

variable {kind : ListedCollection} {store : ListingStore} {belongs : kind.Document → Bool}
  {createdAt : kind.Document → Date} {limit : Nat}
  {ask : Option String → Except ThrownError (CountedPage kind.Document)}

/-- A listing is read to its end. Each page tells whether documents follow and how many
match. -/
def ListsCounted (kind : ListedCollection) (store : ListingStore)
    (belongs : kind.Document → Bool) (sort : kind.Document → kind.Document → Bool)
    (ask : Option String → Except ThrownError (CountedPage kind.Document)) : Prop :=
  ∃ pages, CursorPages.Reads ask (fun page => page.nextCursor) none pages ∧
    (pages.flatMap fun page => page.data).Nodup ∧
    (∀ doc, doc ∈ (pages.flatMap fun page => page.data) ↔
      doc ∈ store.docs kind ∧ belongs doc = true) ∧
    ((pages.flatMap fun page => page.data).Pairwise fun first second =>
      sort first second = true) ∧
    ∀ earlier page later, pages = earlier ++ page :: later →
      (page.hasMore = true ↔ (later.flatMap fun page => page.data) ≠ []) ∧
        (page.nextCursor = none ↔ later = []) ∧
          page.total = ((store.docs kind).filter belongs).length

/-- Later documents have larger ids. -/
def CreatedInIdOrder (kind : ListedCollection) (createdAt : kind.Document → Date)
    (docs : List kind.Document) : Prop :=
  ∀ first ∈ docs, ∀ second ∈ docs, (createdAt first).ms < (createdAt second).ms →
    (kind.id first).toString < (kind.id second).toString

def newestFirst (kind : ListedCollection) (createdAt : kind.Document → Date) :
    kind.Document → kind.Document → Bool :=
  sortsByKey kind (fun doc => (createdAt doc).ms) .descending

theorem id_lt_of_newestFirst (hIds : CreatedInIdOrder kind createdAt (store.docs kind))
    {first second : kind.Document} (hFirst : first ∈ store.docs kind)
    (hSecond : second ∈ store.docs kind) (hNe : first ≠ second)
    (h : newestFirst kind createdAt first second = true) :
    (kind.id second).toString < (kind.id first).toString := by
  simp only [newestFirst, sortsByKey, Bool.or_eq_true, Bool.and_eq_true, decide_eq_true_eq] at h
  rcases h with hLater | ⟨-, hLe⟩
  · exact hIds second hSecond first hFirst hLater
  · refine lt_of_le_of_ne hLe fun hSame => hNe ?_
    exact List.inj_on_of_nodup_map (store.ids_nodup kind) hFirst hSecond
      (ObjectId.toString_injective hSame.symm)

/-- Then the ids separate what comes before from what comes after, wherever a page ends. -/
theorem endsById_of_createdInIdOrder (hIds : CreatedInIdOrder kind createdAt (store.docs kind)) :
    EndsById kind (store.listing kind belongs (newestFirst kind createdAt)) limit := by
  intro before item after hItems _ _
  have hOrder := sortsByKey_orders (fun doc : kind.Document => (createdAt doc).ms) .descending store
  have hSorted : (store.listing kind belongs (newestFirst kind createdAt)).Pairwise
      fun first second => newestFirst kind createdAt first second = true :=
    (hOrder.of_subset (List.filter_subset_self (store.docs kind))).pairwise_insertionSort
  have hNodup := @ListingStore.listing_nodup kind belongs (newestFirst kind createdAt) store
  have hDocs : ∀ doc ∈ before ++ item :: after, doc ∈ store.docs kind := by
    rw [← hItems]
    exact fun doc hDoc => (ListingStore.mem_listing_iff.mp hDoc).1
  rw [hItems] at hSorted hNodup
  have hLater : (before ++ item :: after).Pairwise fun first second =>
      (kind.id second).toString < (kind.id first).toString := by
    refine (hSorted.and hNodup).imp_of_mem fun hFirst hSecond h => ?_
    exact id_lt_of_newestFirst hIds (hDocs _ hFirst) (hDocs _ hSecond) h.2 h.1
  obtain ⟨-, hItem, hBefore⟩ := List.pairwise_append.mp hLater
  refine ⟨fun other hOther => ?_, fun other hOther => ?_⟩
  · rw [belowId, decide_eq_false_iff_not, not_lt]
    rcases List.mem_append.mp hOther with hEarlier | hSame
    · exact le_of_lt (hBefore other hEarlier item List.mem_cons_self)
    · rw [List.mem_singleton.mp hSame, idText]
  · exact decide_eq_true ((List.pairwise_cons.mp hItem).1 other hOther)

section Counted

variable {items : List kind.Document} {total : Option String → Nat}
  (hAsk : ∀ cursor, CursorPages.IsMark (idText kind) items cursor →
    ask cursor = .ok { pageBelow kind items limit cursor with total := total cursor })
include hAsk

theorem serves_counted :
    CursorPages.Serves (idText kind) (belowId kind) items limit ask (fun page => page.nextCursor)
      fun page => page.data :=
  @serves_pageBelow kind limit _ items ask (fun page => page.toCursorPage) fun cursor hCursor =>
    ⟨_, hAsk cursor hCursor, rfl⟩

/-- What the pages that are read say about the ones that follow. -/
theorem hasMore_iff_of_reads {pages : List (CountedPage kind.Document)} (hLimit : 0 < limit)
    (hReads : CursorPages.Reads ask (fun page => page.nextCursor) none pages) :
    ∀ page ∈ pages, (page.hasMore = true ↔ page.nextCursor ≠ none) ∧
      (page.hasMore = true → items ≠ []) := by
  intro page hPage
  obtain ⟨cursor, hCursor, hAnswer⟩ :=
    hReads.answered (serves_counted hAsk) hLimit CursorPages.isMark_none page hPage
  rw [hAsk cursor hCursor] at hAnswer
  obtain rfl := Except.ok.inj hAnswer
  simp only [pageBelow, decide_eq_true_eq]
  refine ⟨?_, ?_⟩
  swap
  · rintro hMore rfl
    cases cursor <;> simp [CursorPages.remaining] at hMore
  by_cases hMore : limit < (CursorPages.remaining (belowId kind) items cursor).length
  · have hPage : (CursorPages.remaining (belowId kind) items cursor).take limit ≠ [] := by
      rw [← List.length_pos_iff, List.length_take]
      omega
    simp [hMore, List.getLast?_eq_none_iff, hPage]
  · simp [hMore]

/-- If every page that is read counts the matching documents, the listing is exact. -/
theorem listsCounted_of_total (hLimit : 0 < limit)
    (hItems : items = store.listing kind belongs (newestFirst kind createdAt))
    (hIds : CreatedInIdOrder kind createdAt (store.docs kind))
    (hTotal : ∀ pages, CursorPages.Reads ask (fun page => page.nextCursor) none pages →
      ∀ page ∈ pages, page.total = items.length) :
    ListsCounted kind store belongs (newestFirst kind createdAt) ask := by
  subst hItems
  have hOrder := sortsByKey_orders (fun doc : kind.Document => (createdAt doc).ms) .descending store
  have hSorted : (store.listing kind belongs (newestFirst kind createdAt)).Pairwise
      fun first second => newestFirst kind createdAt first second = true :=
    (hOrder.of_subset (List.filter_subset_self (store.docs kind))).pairwise_insertionSort
  obtain ⟨pages, hReads, hData, hFull⟩ := (serves_counted hAsk).reads_rest hLimit
    (endsById_of_createdInIdOrder hIds) (List.nil_append _).symm (Nat.dvd_zero limit)
    CursorPages.isMark_none rfl
  refine ⟨pages, hReads, ?_, ?_, ?_, ?_⟩
  · rw [hData]
    exact ListingStore.listing_nodup
  · rw [hData]
    exact fun doc => ListingStore.mem_listing_iff
  · rw [hData]
    exact hSorted
  · intro earlier page later hPages
    have hPage : page ∈ pages := by
      simp [hPages]
    have hNext := hReads.next_none_iff hPages
    refine ⟨?_, hNext, ?_⟩
    · obtain ⟨hMore, hSome⟩ := hasMore_iff_of_reads hAsk hLimit hReads page hPage
      constructor
      · intro hFlag
        obtain ⟨next, rest, rfl⟩ := List.exists_cons_of_ne_nil (mt hNext.mpr (hMore.mp hFlag))
        rw [List.flatMap_cons]
        exact List.append_ne_nil_of_left_ne_nil (hFull (hSome hFlag) next (by simp [hPages])) _
      · rintro hLater
        rw [hMore, ne_eq, hNext]
        rintro rfl
        exact hLater rfl
    · rw [hTotal pages hReads page hPage, ListingStore.listing, List.length_insertionSort]

end Counted

theorem listsCounted_of_constant {items : List kind.Document}
    (hAsk : ∀ cursor, CursorPages.IsMark (idText kind) items cursor →
      ask cursor = .ok { pageBelow kind items limit cursor with total := items.length })
    (hLimit : 0 < limit)
    (hItems : items = store.listing kind belongs (newestFirst kind createdAt))
    (hIds : CreatedInIdOrder kind createdAt (store.docs kind)) :
    ListsCounted kind store belongs (newestFirst kind createdAt) ask := by
  refine listsCounted_of_total hAsk hLimit hItems hIds fun pages hReads page hPage => ?_
  obtain ⟨cursor, hCursor, hAnswer⟩ :=
    hReads.answered (serves_counted hAsk) hLimit CursorPages.isMark_none page hPage
  rw [hAsk cursor hCursor] at hAnswer
  rw [← Except.ok.inj hAnswer]

/-- If the cursor narrows the count too, only a listing of one page is exact. -/
theorem listsCounted_iff_of_remaining {items : List kind.Document}
    (hAsk : ∀ cursor, CursorPages.IsMark (idText kind) items cursor → ask cursor = .ok
      { pageBelow kind items limit cursor with
        total := (CursorPages.remaining (belowId kind) items cursor).length })
    (hLimit : 0 < limit)
    (hItems : items = store.listing kind belongs (newestFirst kind createdAt))
    (hIds : CreatedInIdOrder kind createdAt (store.docs kind)) :
    ListsCounted kind store belongs (newestFirst kind createdAt) ask ↔ items.length ≤ limit := by
  have hServes := serves_counted hAsk
  have hFirst := hAsk none CursorPages.isMark_none
  constructor
  · rintro ⟨pages, hReads, -, -, -, hPages⟩
    by_contra hMore
    have hCount : items.length = ((store.docs kind).filter belongs).length := by
      rw [hItems, ListingStore.listing, List.length_insertionSort]
    cases hReads with
    | last answered ends =>
        exact hMore ((hServes.next_none_iff hLimit CursorPages.isMark_none answered).mp ends)
    | more answered goesOn later =>
        rcases hServes.page_cases hLimit CursorPages.isMark_none answered with
          ⟨hEnd, -⟩ | ⟨init, last, after, hSplit, hInit, hAfter, -, hKey⟩
        · cases hEnd.symm.trans goesOn
        · obtain rfl := Option.some.inj (hKey.symm.trans goesOn)
          change items = init ++ last :: after at hSplit
          have hEnds := @endsById_of_createdInIdOrder kind store belongs createdAt limit hIds
          rw [← hItems] at hEnds
          have hLeaves := (hEnds init last after hSplit (hInit ▸ Nat.dvd_refl _)
            hAfter).remaining_eq
          rw [← hSplit] at hLeaves
          have hLast : last ∈ items := by
            simp [hSplit]
          have hSecond := hAsk _ (CursorPages.isMark_mark hLast)
          obtain ⟨second, rest, rfl, hAnswer⟩ := later.exists_first
          rw [hSecond] at hAnswer
          obtain rfl := Except.ok.inj hAnswer
          have hTotal :
              (CursorPages.remaining (belowId kind) items (some (idText kind last))).length =
                ((store.docs kind).filter belongs).length := (hPages [_] _ rest rfl).2.2
          rw [hLeaves, ← hCount, hSplit, List.length_append, List.length_cons] at hTotal
          omega
  · intro hShort
    refine listsCounted_of_total hAsk hLimit hItems hIds fun pages hReads page hPage => ?_
    cases hReads with
    | last answered ends =>
        rw [List.mem_singleton.mp hPage]
        rw [hFirst] at answered
        rw [← Except.ok.inj answered]
        rfl
    | more answered goesOn later =>
        have hEnd := (hServes.next_none_iff hLimit CursorPages.isMark_none answered).mpr hShort
        cases hEnd.symm.trans goesOn

section Ledger

variable (filters : LedgerFilters) (limit : Nat) (store : ListingStore)

def ledgerBelongs (block : LedgerBlock) : Bool :=
  block.deletedAt.isNone && keepsId filters.shipmentId block.shipmentId &&
    filters.milestoneEvent.all fun event => block.milestoneEvent = event

def ledgerListing : List LedgerBlock :=
  store.listing .ledgerBlocks (ledgerBelongs filters)
    (newestFirst .ledgerBlocks fun block => block.createdAt)

def askLedgerBlocks (cursor : Option String) : Except ThrownError (CountedPage LedgerBlock) :=
  listed (getLedgerBlocks { filters with limit := some limit, cursor }) store

def ledgerCriteria : List (Option (Criterion .ledgerBlocks)) :=
  [equalsCriterion (fun block => block.shipmentId)
     ((truthy filters.shipmentId).bind ObjectId.cast?),
   equalsCriterion (fun block => block.milestoneEvent) filters.milestoneEvent]

variable {filters limit store}

theorem ledgerCriteria_answerable : Answerable (givenCriteria (ledgerCriteria filters)) := by
  simp only [answerable_given_iff, ledgerCriteria, List.all_cons, List.all_nil,
    equalsCriterion_answerable, Bool.and_true]

theorem ledgerCriteria_accepts (hShipment : castable filters.shipmentId = true)
    (block : LedgerBlock) : (block.deletedAt.isNone &&
      (givenCriteria (ledgerCriteria filters)).all fun criterion => criterion.accepts block) =
        ledgerBelongs filters block := by
  simp only [givenCriteria_all, ledgerCriteria, List.all_cons, List.all_nil,
    equalsCriterion_accepts, keepsId_of_castable hShipment, Bool.and_true, ledgerBelongs,
    Bool.and_assoc]

theorem askLedgerBlocks_eq (hShipment : castable filters.shipmentId = true)
    (cursor : Option String)
    (hCursor : CursorPages.IsMark (idText .ledgerBlocks) (ledgerListing filters store) cursor) :
    askLedgerBlocks filters limit store cursor = .ok
      { pageBelow .ledgerBlocks (ledgerListing filters store) limit cursor with
        total := (ledgerListing filters store).length } := by
  obtain ⟨hBelow, hRest⟩ := belowCriterion_accepts hCursor
  have hFind := @find_remaining .ledgerBlocks _ _ _ _ store limit _ _ _
    ledgerCriteria_answerable hBelow (sortsByKey_orders _ _ store)
    (ledgerCriteria_accepts hShipment) hRest
  rw [← givenCriteria_append] at hFind
  have hCount := @executeListing_count .ledgerBlocks _ _
    (newestFirst .ledgerBlocks fun block => block.createdAt) store ledgerCriteria_answerable
    (ledgerCriteria_accepts hShipment)
  rw [askLedgerBlocks, getLedgerBlocks]
  refine (listed_bind_ok store (listed_newObjectId? hShipment)).trans ?_
  refine (listed_bind_ok store (listed_newObjectId? (castable_of_isMark hCursor))).trans ?_
  refine (listed_findAndCount_ok store _ hFind hCount).trans ?_
  exact congrArg Except.ok (countedPage_overfetched _ _ _)

theorem askLedgerBlocks_refused (hShipment : castable filters.shipmentId ≠ true) :
    ∃ error, askLedgerBlocks filters limit store none = .error error := by
  obtain ⟨error, hError⟩ := @listed_newObjectId?_error store _ hShipment
  rw [askLedgerBlocks, getLedgerBlocks]
  exact ⟨error, listed_bind_error store hError⟩

end Ledger

section Users

variable [RegExps] (organization : ObjectId) (filters : UsersFilters) (limit : Nat)
  (store : ListingStore)

/-- The search is a valid regular expression. -/
def searchable (search : Option String) : Bool :=
  (truthy search).all fun search => (RegExps.compile search).isOk

/-- The name or the email matches. -/
def searchKeeps (search : Option String) (user : ListedUser) : Bool :=
  (truthy search).all fun search => match RegExps.compile search with
    | .ok found => found user.name || found user.email
    | .error _ => false

def userBelongs (user : ListedUser) : Bool :=
  user.deletedAt.isNone && user.organizationId = some organization &&
    searchKeeps filters.search user && keepsText filters.role user.role.name

def userListing : List ListedUser :=
  store.listing .users (userBelongs organization filters)
    (newestFirst .users fun user => user.createdAt)

/-- The listing without a page number, which answers with cursors. -/
def askUsers (cursor : Option String) : Except ThrownError (CountedPage ListedUser) :=
  (listed (findUsersByOrganizationId organization.toString
    { filters with limit := some limit, cursor, page := none }) store).map fun answer =>
      match answer with
      | .inl page => page
      | .inr (data, total) => { data, total, nextCursor := none, hasMore := false }

variable {organization filters limit store}

theorem compileSearch_ok {search : Option String} (h : searchable search = true) : ∃ found,
    listed (compileSearch search) store = .ok found ∧
      ∀ user : ListedUser, ((searchCriterion found).all fun criterion =>
        criterion.accepts user) = searchKeeps search user := by
  rw [searchable] at h
  rw [compileSearch]
  cases hSearch : truthy search with
  | none => exact ⟨none, rfl, fun user => by simp [searchCriterion, searchKeeps, hSearch]⟩
  | some text =>
      rw [hSearch] at h
      cases hFound : RegExps.compile text with
      | error error => simp [hFound, Except.isOk, Except.toBool] at h
      | ok found =>
          refine ⟨some found, ?_, fun user => ?_⟩
          · simp only [listed_map, listed_settle, hFound]
            rfl
          · simp [searchCriterion, searchKeeps, hSearch, hFound, Criterion.accepts]

theorem compileSearch_error {search : Option String} (h : searchable search ≠ true) :
    ∃ error, listed (compileSearch search) store = .error error := by
  rw [searchable] at h
  rw [compileSearch]
  cases hSearch : truthy search with
  | none =>
      rw [hSearch] at h
      exact absurd rfl h
  | some text =>
      rw [hSearch] at h
      cases hFound : RegExps.compile text with
      | ok found => simp [hFound, Except.isOk, Except.toBool] at h
      | error error =>
          refine ⟨error, ?_⟩
          simp only [listed_map, listed_settle, hFound]
          rfl

def userCriteria (organization : ObjectId) (found : Option (String → Bool))
    (role : Option String) : List (Option (Criterion .users)) :=
  [equalsCriterion (fun user => user.organizationId) (some (some organization)),
   searchCriterion found, textCriterion (fun user => user.role.name) role]

omit [RegExps] in
theorem userCriteria_answerable {found : Option (String → Bool)} :
    Answerable (givenCriteria (userCriteria organization found filters.role)) := by
  have hFound : ((searchCriterion found).all fun criterion => criterion.refused?.isNone) =
      true := by
    cases found <;> rfl
  simp only [userCriteria, answerable_given_iff, List.all_cons, List.all_nil,
    equalsCriterion_answerable, textCriterion_answerable, hFound, Bool.and_true]

theorem userCriteria_accepts {found : Option (String → Bool)}
    (hFound : ∀ user : ListedUser, ((searchCriterion found).all fun criterion =>
      criterion.accepts user) = searchKeeps filters.search user) (user : ListedUser) :
    (user.deletedAt.isNone && (givenCriteria (userCriteria organization found filters.role)).all
      fun criterion => criterion.accepts user) = userBelongs organization filters user := by
  simp only [userCriteria, givenCriteria_all, List.all_cons, List.all_nil, equalsCriterion_accepts,
    textCriterion_accepts, hFound, Bool.and_true, Option.all_some, userBelongs, Bool.and_assoc]

theorem askUsers_refused (hSearch : searchable filters.search ≠ true) :
    ∃ error, askUsers organization filters limit store none = .error error := by
  obtain ⟨error, hError⟩ := @compileSearch_error _ store _ hSearch
  refine ⟨error, ?_⟩
  rw [askUsers, findUsersByOrganizationId]
  refine (congrArg _ ((listed_bind_ok store (listed_newObjectId organization)).trans
    (listed_bind_error store hError))).trans ?_
  rfl

theorem askUsers_eq (hSearch : searchable filters.search = true) (cursor : Option String)
    (hCursor : CursorPages.IsMark (idText .users) (userListing organization filters store)
      cursor) :
    askUsers organization filters limit store cursor = .ok
      { pageBelow .users (userListing organization filters store) limit cursor with
        total := (userListing organization filters store).length } := by
  obtain ⟨found, hFound, hKeeps⟩ := @compileSearch_ok _ store _ hSearch
  obtain ⟨hBelow, hRest⟩ := belowCriterion_accepts hCursor
  have hFind := @find_remaining .users _ _ _ _ store limit _ _ _ userCriteria_answerable hBelow
    (sortsByKey_orders _ _ store) (userCriteria_accepts hKeeps) hRest
  have hCount := @executeListing_count .users _ (userBelongs organization filters)
    (newestFirst .users fun user => user.createdAt) store
    (@userCriteria_answerable organization filters found) (userCriteria_accepts hKeeps)
  rw [← givenCriteria_append] at hFind
  have hRun : listed (findUsersByOrganizationId organization.toString
      { filters with limit := some limit, cursor, page := none }) store =
        .ok (.inl { pageBelow .users (userListing organization filters store) limit cursor with
          total := (userListing organization filters store).length }) := by
    rw [findUsersByOrganizationId]
    refine (listed_bind_ok store (listed_newObjectId organization)).trans ?_
    refine (listed_bind_ok store hFound).trans ?_
    refine (listed_bind_ok store (listed_newObjectId? (castable_of_isMark hCursor))).trans ?_
    refine (listed_findAndCount_ok store _ hFind hCount).trans ?_
    exact congrArg (fun page => Except.ok (Sum.inl page)) (countedPage_overfetched _ _ _)
  rw [askUsers, hRun]
  rfl

end Users

section Invitations

variable (organization : ObjectId) (status : Option InvitationStatus) (limit : Nat)
  (store : ListingStore)

def invitationBelongs (invitation : ListedInvitation) : Bool :=
  invitation.deletedAt.isNone && invitation.organizationId = organization &&
    status.all fun status => invitation.status = status

def invitationListing : List ListedInvitation :=
  store.listing .invitations (invitationBelongs organization status)
    (newestFirst .invitations fun invitation => invitation.createdAt)

def askInvitations (cursor : Option String) :
    Except ThrownError (CountedPage ListedInvitation) :=
  listed (listOrganizationInvitations
    { organizationId := organization.toString, limit := some limit, cursor, status }) store

def invitationCriteria : List (Option (Criterion .invitations)) :=
  [some (.idIs (fun invitation => invitation.organizationId) organization.toString),
   equalsCriterion (fun invitation => invitation.status) status]

variable {organization status limit store}

theorem invitationCriteria_answerable :
    Answerable (givenCriteria (invitationCriteria organization status)) := by
  have hOrganization : (Criterion.idIs (fun (invitation : ListedInvitation) =>
      invitation.organizationId) organization.toString : Criterion .invitations).refused? =
        none := by
    simp [Criterion.refused?]
  simp only [invitationCriteria, answerable_given_iff, List.all_cons, List.all_nil,
    equalsCriterion_answerable, Option.all_some, hOrganization, Option.isNone_none, Bool.and_true]

theorem invitationCriteria_accepts (invitation : ListedInvitation) :
    (invitation.deletedAt.isNone &&
      (givenCriteria (invitationCriteria organization status)).all fun criterion =>
        criterion.accepts invitation) = invitationBelongs organization status invitation := by
  have hOrganization : (Criterion.idIs (fun (invitation : ListedInvitation) =>
      invitation.organizationId) organization.toString : Criterion .invitations).accepts
        invitation = decide (invitation.organizationId = organization) := by
    simp [Criterion.accepts, eq_comm]
  simp only [invitationCriteria, givenCriteria_all, List.all_cons, List.all_nil,
    equalsCriterion_accepts, Option.all_some, hOrganization, Bool.and_true, invitationBelongs,
    Bool.and_assoc]

/-- The condition on the cursor stands between the others. -/
theorem invitationQuery_all (cursor : Option String) (p : Criterion .invitations → Bool) :
    ((givenCriteria [some (.idIs (fun invitation => invitation.organizationId)
        organization.toString), cursorCriterion cursor,
      equalsCriterion (fun invitation => invitation.status) status] :
        List (Criterion .invitations)).all p) =
      (givenCriteria (invitationCriteria organization status) ++
        givenCriteria [cursorCriterion cursor]).all p := by
  rw [← givenCriteria_append]
  simp only [givenCriteria_all, invitationCriteria, List.cons_append, List.nil_append,
    List.all_cons, List.all_nil, Bool.and_true]
  rw [Bool.and_comm ((cursorCriterion cursor).all p)]

/-- The count is that of the documents the cursor leaves. -/
theorem askInvitations_eq (cursor : Option String)
    (hCursor : CursorPages.IsMark (idText .invitations)
      (invitationListing organization status store) cursor) :
    askInvitations organization status limit store cursor = .ok
      { pageBelow .invitations (invitationListing organization status store) limit cursor with
        total := (CursorPages.remaining (belowId .invitations)
          (invitationListing organization status store) cursor).length } := by
  obtain ⟨hBelow, hRest⟩ := cursorCriterion_accepts hCursor
  have hQuery := List.forall_mem_append.mpr
    ⟨@invitationCriteria_answerable organization status, hBelow⟩
  have hFind := @find_remaining .invitations _ _ _ _ store limit _ _ _
    invitationCriteria_answerable hBelow (sortsByKey_orders _ _ store)
    invitationCriteria_accepts hRest
  have hCount := @executeListing_count_more .invitations _ _ _
    (newestFirst .invitations fun invitation => invitation.createdAt) store hQuery
    invitationCriteria_accepts
  have hAnswerable : Answerable (givenCriteria [some (.idIs (fun invitation =>
      invitation.organizationId) organization.toString), cursorCriterion cursor,
        equalsCriterion (fun invitation => invitation.status) status] :
          List (Criterion .invitations)) := by
    simp only [Answerable, ← Option.isNone_iff_eq_none, ← List.all_eq_true] at hQuery ⊢
    rw [invitationQuery_all]
    exact hQuery
  obtain ⟨hFindSame, hCountSame⟩ := @executeListing_congr .invitations _
    (newestFirst .invitations fun invitation => invitation.createdAt) store 0 (limit + 1) _
    hAnswerable hQuery fun doc => invitationQuery_all cursor _
  refine (listed_findAndCount_ok store _ (hFindSame.trans hFind)
    ((hCountSame.trans hCount).trans (congrArg (fun docs => Except.ok docs.length) hRest))).trans ?_
  exact congrArg Except.ok (poppedPage_overfetched _ _ _)

end Invitations

section Exactness

theorem not_listsCounted_of_error {sort : kind.Document → kind.Document → Bool}
    {error : ThrownError} (h : ask none = .error error) :
    ¬ ListsCounted kind store belongs sort ask := by
  rintro ⟨pages, hReads, -⟩
  obtain ⟨_, _, -, hAnswer⟩ := hReads.exists_first
  cases h.symm.trans hAnswer

theorem ledgerBlocks_counted_iff {filters : LedgerFilters} (hLimit : 0 < limit)
    (hIds : CreatedInIdOrder .ledgerBlocks (fun block => block.createdAt)
      store.ledgerBlocks.docs) :
    ListsCounted .ledgerBlocks store (ledgerBelongs filters)
        (newestFirst .ledgerBlocks fun block => block.createdAt)
        (askLedgerBlocks filters limit store) ↔ castable filters.shipmentId = true := by
  constructor
  · intro hLists
    by_contra hShipment
    obtain ⟨error, hError⟩ := askLedgerBlocks_refused hShipment
    exact not_listsCounted_of_error hError hLists
  · intro hShipment
    exact listsCounted_of_constant (askLedgerBlocks_eq hShipment) hLimit rfl hIds

theorem users_counted_iff [RegExps] {organization : ObjectId} {filters : UsersFilters}
    (hLimit : 0 < limit)
    (hIds : CreatedInIdOrder .users (fun user => user.createdAt) store.users.docs) :
    ListsCounted .users store (userBelongs organization filters)
        (newestFirst .users fun user => user.createdAt)
        (askUsers organization filters limit store) ↔ searchable filters.search = true := by
  constructor
  · intro hLists
    by_contra hSearch
    obtain ⟨error, hError⟩ := askUsers_refused hSearch
    exact not_listsCounted_of_error hError hLists
  · intro hSearch
    exact listsCounted_of_constant (askUsers_eq hSearch) hLimit rfl hIds

theorem invitations_counted_iff {organization : ObjectId} {status : Option InvitationStatus}
    (hLimit : 0 < limit)
    (hIds : CreatedInIdOrder .invitations (fun invitation => invitation.createdAt)
      store.invitations.docs) :
    ListsCounted .invitations store (invitationBelongs organization status)
        (newestFirst .invitations fun invitation => invitation.createdAt)
        (askInvitations organization status limit store) ↔
      (store.invitations.docs.filter (invitationBelongs organization status)).length ≤ limit := by
  have hLength : (invitationListing organization status store).length =
      (store.invitations.docs.filter (invitationBelongs organization status)).length := by
    rw [invitationListing, ListingStore.listing, List.length_insertionSort]
    rfl
  rw [← hLength]
  exact listsCounted_iff_of_remaining askInvitations_eq hLimit rfl hIds

/-- Where later documents have larger ids, ledger blocks and users are listed exactly
whenever the filter is accepted, but invitations only on a single page. -/
theorem creationListings_exact_iff [RegExps] (store : ListingStore) {limit : Nat}
    (hLimit : 0 < limit) :
    (CreatedInIdOrder .ledgerBlocks (fun block => block.createdAt) store.ledgerBlocks.docs →
      ∀ filters, ListsCounted .ledgerBlocks store (ledgerBelongs filters)
          (newestFirst .ledgerBlocks fun block => block.createdAt)
          (askLedgerBlocks filters limit store) ↔ castable filters.shipmentId = true) ∧
      (CreatedInIdOrder .users (fun user => user.createdAt) store.users.docs →
        ∀ organization filters, ListsCounted .users store (userBelongs organization filters)
            (newestFirst .users fun user => user.createdAt)
            (askUsers organization filters limit store) ↔ searchable filters.search = true) ∧
        (CreatedInIdOrder .invitations (fun invitation => invitation.createdAt)
            store.invitations.docs →
          ∀ organization status,
            ListsCounted .invitations store (invitationBelongs organization status)
                (newestFirst .invitations fun invitation => invitation.createdAt)
                (askInvitations organization status limit store) ↔
              (store.invitations.docs.filter
                (invitationBelongs organization status)).length ≤ limit) :=
  ⟨fun hIds _ => ledgerBlocks_counted_iff hLimit hIds,
    fun hIds _ _ => users_counted_iff hLimit hIds,
    fun hIds _ _ => invitations_counted_iff hLimit hIds⟩

def invitationAt (id : Fin 16) (ms : Int) : ListedInvitation where
  id := .repeated id
  email := "new@example.com"
  role := .viewer
  status := .revoked
  tokenHash := ""
  expiresAt := ⟨ms + 172800000⟩
  message := none
  invitedBy := .repeated 7
  organizationId := .repeated 8
  deletedAt := none
  createdAt := ⟨ms⟩

/-- Two invitations, one made after the other. -/
def twoInvitations : ListingStore where
  invitations := ⟨[invitationAt 1 0, invitationAt 2 1000], by decide +kernel⟩

theorem twoInvitations_ids : CreatedInIdOrder .invitations
    (fun invitation => invitation.createdAt) twoInvitations.invitations.docs := by
  intro first hFirst second hSecond
  simp only [twoInvitations, List.mem_cons, List.not_mem_nil, or_false] at hFirst hSecond
  rcases hFirst with rfl | rfl <;> rcases hSecond with rfl | rfl <;> decide +kernel

/-- A pattern that every text matches. -/
@[reducible] def anyText : RegExps :=
  ⟨fun _ => .ok fun _ => true⟩

theorem creationListings_exact_iff_two : 0 < 2 ∧
    ListsCounted .invitations twoInvitations (invitationBelongs (.repeated 8) none)
      (newestFirst .invitations fun invitation => invitation.createdAt)
      (askInvitations (.repeated 8) none 2 twoInvitations) :=
  ⟨by decide, ((@creationListings_exact_iff anyText twoInvitations 2 (by decide)).2.2
    twoInvitations_ids (.repeated 8) none).mpr (by decide)⟩

/-- One to a page, the second page counts one invitation of the two. -/
theorem invitations_not_exact :
    ¬ ListsCounted .invitations twoInvitations (invitationBelongs (.repeated 8) none)
      (newestFirst .invitations fun invitation => invitation.createdAt)
      (askInvitations (.repeated 8) none 1 twoInvitations) := by
  rw [invitations_counted_iff (by decide) twoInvitations_ids]
  decide

end Exactness

end NewestFirst

end Navin
