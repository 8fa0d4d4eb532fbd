import Mathlib.Data.Prod.Lex
import Navin.Listings.Services
import Navin.Semantics.CursorPages
import Navin.Semantics.TwoRuns

/-! How the listings answer while the database is there: a page is the start of what
the cursor leaves of the matching documents in order. -/
namespace Navin

open Async

section Answers

variable {α β : Type} (store : ListingStore)

theorem run_listing (p : ListingM α) :
    p.run listings (fun _ => none) store = (store, listed p store, fun _ => none) := by
  have hRun : ∀ p : ListingM α, (p.run listings (fun _ => none) store).1 = store ∧
      (p.run listings (fun _ => none) store).2.2 = fun _ => none := by
    intro p
    induction p with
    | done result => exact ⟨rfl, rfl⟩
    | fail error => exact ⟨rfl, rfl⟩
    | call request next ih => exact ih _
  exact Prod.ext (hRun p).1 (Prod.ext rfl (hRun p).2)

@[simp] theorem listed_pure (a : α) : listed (pure a) store = .ok a := rfl

@[simp] theorem listed_throw (error : ThrownError) :
    listed (throw error : ListingM α) store = .error error := rfl

theorem listed_list (call : ListingCall) :
    listed (list call) store = executeListing store call := by
  rw [listed, list, Program.run_await]

theorem listed_bind (p : ListingM α) (f : α → ListingM β) :
    listed (p >>= f) store = (listed p store).bind fun a => listed (f a) store := by
  rw [listed, Program.run_bind, run_listing]
  cases listed p store <;> rfl

theorem listed_bind_ok {p : ListingM α} {f : α → ListingM β} {a : α}
    (h : listed p store = .ok a) : listed (p >>= f) store = listed (f a) store := by
  rw [listed_bind, h]
  rfl

theorem listed_bind_error {p : ListingM α} {f : α → ListingM β} {error : ThrownError}
    (h : listed p store = .error error) : listed (p >>= f) store = .error error := by
  rw [listed_bind, h]
  rfl

theorem listed_map (f : α → β) (p : ListingM α) :
    listed (f <$> p) store = (listed p store).map f := by
  rw [listed, Program.run_map]
  rfl

theorem listed_settle (outcome : Except ThrownError α) :
    listed (Program.settle outcome) store = outcome := by
  cases outcome <;> rfl

theorem listed_promiseAll (first : ListingM α) (second : ListingM β) :
    listed (promiseAll first second) store =
      (listed first store).bind fun a => (listed second store).map fun b => (a, b) := by
  have hCaught {γ : Type} (p : ListingM γ) : listed (tryCatch (Except.ok <$> p) fun error =>
      return .error error : ListingM (Except ThrownError γ)) store = .ok (listed p store) := by
    rw [listed, Program.run_tryCatch, Program.run_map, run_listing]
    cases listed p store <;> rfl
  rw [promiseAll, listed_bind, hCaught, Except.bind, listed_bind, hCaught, Except.bind]
  cases listed first store <;> cases listed second store <;> rfl

theorem listed_findAndCount_ok {find count : ListingCall} {docs : find.Answer}
    {total : count.Answer} (k : find.Answer × count.Answer → ListingM α)
    (hFind : executeListing store find = .ok docs)
    (hCount : executeListing store count = .ok total) :
    listed (promiseAll (list find) (list count) >>= k) store = listed (k (docs, total)) store := by
  rw [listed_bind, listed_promiseAll, listed_list, listed_list, hFind, hCount]
  rfl

/-- The documents and their number are asked for together. -/
theorem listed_findAndCount (find count : ListingCall)
    (k : find.Answer × count.Answer → ListingM α) :
    listed (promiseAll (list find) (list count) >>= k) store =
      (executeListing store find).bind fun docs =>
        (executeListing store count).bind fun total => listed (k (docs, total)) store := by
  rw [listed_bind, listed_promiseAll, listed_list, listed_list]
  cases executeListing store find <;> cases executeListing store count <;> rfl

end Answers

section Orders

variable {kind : ListedCollection} {κ : Type} [LinearOrder κ]

theorem sortsByKey_iff (key : kind.Document → κ) (order : SortOrder)
    (first second : kind.Document) : sortsByKey kind key order first second = true ↔
      match order with
      | .ascending => toLex (key first, (kind.id first).toString) ≤
          toLex (key second, (kind.id second).toString)
      | .descending => toLex (key second, (kind.id second).toString) ≤
          toLex (key first, (kind.id first).toString) := by
  cases order <;> simp [sortsByKey, Prod.Lex.toLex_le_toLex]

/-- A sort by a key and the id orders the documents of a collection. -/
theorem sortsByKey_orders (key : kind.Document → κ) (order : SortOrder) (store : ListingStore) :
    Paging.OrdersKeys (fun doc => doc) (sortsByKey kind key order) (store.docs kind) where
  total first _ second _ := by
    rw [sortsByKey_iff, sortsByKey_iff]
    cases order <;> exact le_total _ _
  trans first _ second _ third _ := by
    rw [sortsByKey_iff, sortsByKey_iff, sortsByKey_iff]
    cases order with
    | ascending => exact le_trans
    | descending => exact fun hFirst hSecond => le_trans hSecond hFirst
  key_eq first hFirst second hSecond := by
    rw [sortsByKey_iff, sortsByKey_iff]
    intro hLe hGe
    have hIds : kind.id first = kind.id second := by
      apply ObjectId.toString_injective
      cases order with
      | ascending => exact congrArg (fun pair => (ofLex pair).2) (le_antisymm hLe hGe)
      | descending => exact congrArg (fun pair => (ofLex pair).2) (le_antisymm hGe hLe)
    exact List.inj_on_of_nodup_map (store.ids_nodup kind) hFirst hSecond hIds
  congr first _ second _ hSame := by
    rw [sortsByKey_iff, hSame]
    cases order <;> exact le_rfl

end Orders

section Queries

variable {kind : ListedCollection} {query extra : List (Criterion kind)}
  {belongs : kind.Document → Bool} {sort : kind.Document → kind.Document → Bool}
  {store : ListingStore} {skip limit : Nat}

/-- The documents that belong to a listing, in its order. -/
def ListingStore.listing (store : ListingStore) (kind : ListedCollection)
    (belongs : kind.Document → Bool) (sort : kind.Document → kind.Document → Bool) :
    List kind.Document :=
  ((store.docs kind).filter belongs).insertionSort fun first second => sort first second

theorem ListingStore.mem_listing_iff {doc : kind.Document} :
    doc ∈ store.listing kind belongs sort ↔ doc ∈ store.docs kind ∧ belongs doc = true := by
  rw [ListingStore.listing, List.mem_insertionSort, List.mem_filter]

theorem ListingStore.listing_nodup : (store.listing kind belongs sort).Nodup := by
  have hDocs : (store.docs kind).Nodup := (store.ids_nodup kind).of_map
  exact (List.perm_insertionSort _ _).nodup_iff.mpr (hDocs.filter _)

/-- Every text in the query can be cast. -/
def Answerable (query : List (Criterion kind)) : Prop :=
  ∀ criterion ∈ query, criterion.refused? = none

theorem findSome?_refused_iff :
    query.findSome? (fun criterion => criterion.refused?) = none ↔ Answerable query :=
  List.findSome?_eq_none_iff

theorem executeListing_refused (h : ¬ Answerable query) :
    ∃ error, executeListing store (.find kind query sort skip limit) = .error error := by
  rw [← findSome?_refused_iff] at h
  obtain ⟨text, hText⟩ := Option.ne_none_iff_exists'.mp h
  exact ⟨.castError text, by simp only [executeListing, hText]⟩

theorem executeListing_count (hQuery : Answerable query)
    (hBelongs : ∀ doc, ((kind.deletedAt doc).isNone && query.all fun criterion =>
      criterion.accepts doc) = belongs doc) :
    executeListing store (.count kind query) = .ok (store.listing kind belongs sort).length := by
  simp only [executeListing, findSome?_refused_iff.mpr hQuery, ListingStore.select, hBelongs,
    ListingStore.listing, List.length_insertionSort]

theorem answerable_of_find {docs : List kind.Document}
    (h : executeListing store (.find kind query sort skip limit) = .ok docs) :
    Answerable query := by
  by_contra hRefused
  obtain ⟨error, hError⟩ := @executeListing_refused kind query sort store skip limit hRefused
  cases hError.symm.trans h

/-- Counting with some of the criteria is refused only if finding is. -/
theorem executeListing_count_ok {docs : List kind.Document}
    (h : executeListing store (.find kind (query ++ extra) sort skip limit) = .ok docs) :
    ∃ total, executeListing store (.count kind query) = .ok total := by
  have hQuery : Answerable query := fun criterion hMem =>
    answerable_of_find h criterion (List.mem_append_left extra hMem)
  refine ⟨(store.select kind query).length, ?_⟩
  simp only [executeListing, findSome?_refused_iff.mpr hQuery]

/-- More criteria leave a part of the listing, in the same order. -/
theorem executeListing_find (hQuery : Answerable (query ++ extra))
    (hOrder : Paging.OrdersKeys (fun doc => doc) sort (store.docs kind))
    (hBelongs : ∀ doc, ((kind.deletedAt doc).isNone && query.all fun criterion =>
      criterion.accepts doc) = belongs doc) :
    executeListing store (.find kind (query ++ extra) sort 0 (limit + 1)) =
      .ok (((store.listing kind belongs sort).filter fun doc => extra.all fun criterion =>
        criterion.accepts doc).take (limit + 1)) := by
  have hSelect : store.select kind (query ++ extra) = ((store.docs kind).filter belongs).filter
      fun doc => extra.all fun criterion => criterion.accepts doc := by
    rw [ListingStore.select, List.filter_filter]
    refine List.filter_congr fun doc _ => ?_
    rw [List.all_append, ← Bool.and_assoc, hBelongs, Bool.and_comm]
  have hSome := hOrder.of_subset (List.filter_subset_self (store.docs kind) (p := belongs))
  simp only [executeListing, findSome?_refused_iff.mpr hQuery, hSelect, window,
    CursorPages.insertionSort_filter hSome, Nat.add_one_ne_zero, if_false, List.drop_zero]
  rfl

/-- Criteria in another order answer the same. -/
theorem executeListing_congr {other : List (Criterion kind)} (hQuery : Answerable query)
    (hOther : Answerable other) (hSame : ∀ doc, (query.all fun criterion => criterion.accepts doc) =
      other.all fun criterion => criterion.accepts doc) :
    executeListing store (.find kind query sort skip limit) =
        executeListing store (.find kind other sort skip limit) ∧
      executeListing store (.count kind query) = executeListing store (.count kind other) := by
  simp only [executeListing, findSome?_refused_iff.mpr hQuery, findSome?_refused_iff.mpr hOther,
    ListingStore.select, hSame, and_self]

theorem executeListing_count_more (hQuery : Answerable (query ++ extra))
    (hBelongs : ∀ doc, ((kind.deletedAt doc).isNone && query.all fun criterion =>
      criterion.accepts doc) = belongs doc) :
    executeListing store (.count kind (query ++ extra)) =
      .ok ((store.listing kind belongs sort).filter fun doc => extra.all fun criterion =>
        criterion.accepts doc).length := by
  have hCount := @executeListing_count kind _ (fun doc => belongs doc && extra.all fun criterion =>
    criterion.accepts doc) sort store hQuery fun doc => by
      rw [List.all_append, ← Bool.and_assoc, hBelongs]
  have hSplit := (List.perm_insertionSort (fun first second => sort first second)
    ((store.docs kind).filter belongs)).filter fun doc => extra.all fun criterion =>
      criterion.accepts doc
  rw [hCount, ListingStore.listing, ListingStore.listing, List.length_insertionSort,
    hSplit.length_eq, List.filter_filter]
  simp only [Bool.and_comm]

/-- Where these criteria are the cursor's, it is what the cursor leaves. -/
theorem find_remaining {K : Type} {past : K → kind.Document → Bool} {cursor : Option K}
    (hQuery : Answerable query) (hExtra : Answerable extra)
    (hOrder : Paging.OrdersKeys (fun doc => doc) sort (store.docs kind))
    (hBelongs : ∀ doc, ((kind.deletedAt doc).isNone && query.all fun criterion =>
      criterion.accepts doc) = belongs doc)
    (hRest : ((store.listing kind belongs sort).filter fun doc => extra.all fun criterion =>
      criterion.accepts doc) =
        CursorPages.remaining past (store.listing kind belongs sort) cursor) :
    executeListing store (.find kind (query ++ extra) sort 0 (limit + 1)) =
      .ok ((CursorPages.remaining past (store.listing kind belongs sort) cursor).take
        (limit + 1)) := by
  rw [executeListing_find (List.forall_mem_append.mpr ⟨hQuery, hExtra⟩) hOrder hBelongs, hRest]

end Queries

section Pages

variable {α : Type} {kind : ListedCollection} {limit : Nat}

theorem lt_length_overfetched (rest : List α) :
    limit < (rest.take (limit + 1)).length ↔ limit < rest.length := by
  rw [List.length_take]
  omega

/-- What is over the limit is cut off, by a slice or from the end. -/
theorem slice_overfetched (rest : List α) :
    (if limit < rest.length then (rest.take (limit + 1)).take limit
      else rest.take (limit + 1)) = rest.take limit := by
  split
  · rw [List.take_take, Nat.min_eq_left (Nat.le_succ limit)]
  · rw [List.take_of_length_le (by omega), List.take_of_length_le (by omega)]

theorem pop_overfetched (rest : List α) :
    (if limit < rest.length then (rest.take (limit + 1)).dropLast
      else rest.take (limit + 1)) = rest.take limit := by
  by_cases hMore : limit < rest.length
  · rw [if_pos hMore, List.dropLast_eq_take, List.length_take, List.take_take]
    congr 1
    omega
  · rw [if_neg hMore, List.take_of_length_le (by omega), List.take_of_length_le (by omega)]

/-- The mark of a document is its id as text. -/
def idText (kind : ListedCollection) (doc : kind.Document) : String :=
  (kind.id doc).toString

/-- The documents that a cursor leaves have smaller ids, whatever the order. -/
def belowId (kind : ListedCollection) (cursor : String) (doc : kind.Document) : Bool :=
  (kind.id doc).toString < cursor

theorem belowId_trans (cursor : String) (item other : kind.Document)
    (hItem : belowId kind cursor item = true)
    (hOther : belowId kind (idText kind item) other = true) :
    belowId kind cursor other = true := by
  rw [belowId, decide_eq_true_eq] at *
  exact lt_trans hOther hItem

/-- The page that a cursor leads to in a listing that continues below ids. -/
def pageBelow (kind : ListedCollection) (items : List kind.Document) (limit : Nat)
    (cursor : Option String) : CursorPage kind.Document where
  data := (CursorPages.remaining (belowId kind) items cursor).take limit
  nextCursor := if limit < (CursorPages.remaining (belowId kind) items cursor).length then
      ((CursorPages.remaining (belowId kind) items cursor).take limit).getLast?.map (idText kind)
    else none
  hasMore := limit < (CursorPages.remaining (belowId kind) items cursor).length

theorem paginateCursor_overfetched (items : List kind.Document) (cursor : Option String) :
    paginateCursor kind ((CursorPages.remaining (belowId kind) items cursor).take (limit + 1))
      limit = pageBelow kind items limit cursor := by
  simp only [paginateCursor, pageBelow, lt_length_overfetched, slice_overfetched]
  rfl

theorem countedPage_overfetched (items : List kind.Document) (cursor : Option String)
    (total : Nat) :
    ({ paginateCursor kind ((CursorPages.remaining (belowId kind) items cursor).take (limit + 1))
        limit with total } : CountedPage kind.Document) =
      { pageBelow kind items limit cursor with total } := by
  rw [paginateCursor_overfetched]

/-- The page of a listing that pops the document over the limit. -/
def poppedPage (kind : ListedCollection) (docs : List kind.Document) (limit total : Nat) :
    CountedPage kind.Document :=
  let data := if limit < docs.length then docs.dropLast else docs
  { data, total, hasMore := limit < docs.length
    nextCursor := if limit < docs.length then data.getLast?.map (idText kind) else none }

theorem poppedPage_overfetched (items : List kind.Document) (cursor : Option String)
    (total : Nat) :
    poppedPage kind ((CursorPages.remaining (belowId kind) items cursor).take (limit + 1)) limit
      total = { pageBelow kind items limit cursor with total } := by
  simp only [poppedPage, pageBelow, lt_length_overfetched, pop_overfetched]

theorem serves_pageBelow {P : Type} {items : List kind.Document}
    {ask : Option String → Except ThrownError P} {page : P → CursorPage kind.Document}
    (h : ∀ cursor, CursorPages.IsMark (idText kind) items cursor →
      ∃ answer, ask cursor = .ok answer ∧ page answer = pageBelow kind items limit cursor) :
    CursorPages.Serves (idText kind) (belowId kind) items limit ask
      (fun answer => (page answer).nextCursor) fun answer => (page answer).data where
  answers cursor hCursor := by
    obtain ⟨answer, hAnswer, hPage⟩ := h cursor hCursor
    refine ⟨answer, hAnswer, ?_, ?_⟩ <;> rw [hPage] <;> rfl

theorem truthy_idText (doc : kind.Document) :
    truthy (some (idText kind doc)) = some (idText kind doc) := by
  simp [truthy, idText, ObjectId.toString_ne_empty]

/-- The criterion that a cursor of the listing adds. -/
theorem cursorCriterion_accepts {items : List kind.Document} {cursor : Option String}
    (hCursor : CursorPages.IsMark (idText kind) items cursor) :
    Answerable (givenCriteria [cursorCriterion cursor] : List (Criterion kind)) ∧
      (items.filter fun doc => (givenCriteria [cursorCriterion cursor] : List (Criterion kind)).all
        fun criterion => criterion.accepts doc) =
          CursorPages.remaining (belowId kind) items cursor := by
  cases cursor with
  | none => exact ⟨nofun, List.filter_true items⟩
  | some key =>
      obtain ⟨item, -, rfl⟩ := hCursor key rfl
      have hGiven : (givenCriteria [cursorCriterion (some (idText kind item))] :
          List (Criterion kind)) = [.idBelow (idText kind item)] := by
        rw [cursorCriterion, truthy_idText]
        rfl
      rw [hGiven]
      refine ⟨?_, ?_⟩
      · simp [Answerable, Criterion.refused?, idText]
      · refine List.filter_congr fun doc _ => ?_
        simp [Criterion.accepts, belowId, idText]

theorem find_belowCursor {query : List (Criterion kind)} {belongs : kind.Document → Bool}
    {sort : kind.Document → kind.Document → Bool} {store : ListingStore}
    {cursor : Option String} (hQuery : Answerable query)
    (hOrder : Paging.OrdersKeys (fun doc => doc) sort (store.docs kind))
    (hBelongs : ∀ doc, ((kind.deletedAt doc).isNone && query.all fun criterion =>
      criterion.accepts doc) = belongs doc)
    (hCursor : CursorPages.IsMark (idText kind) (store.listing kind belongs sort) cursor) :
    executeListing store
        (.find kind (query ++ givenCriteria [cursorCriterion cursor]) sort 0 (limit + 1)) =
      .ok ((CursorPages.remaining (belowId kind) (store.listing kind belongs sort) cursor).take
        (limit + 1)) := by
  obtain ⟨hAnswerable, hRest⟩ := cursorCriterion_accepts hCursor
  exact find_remaining hQuery hAnswerable hOrder hBelongs hRest

/-- What the listings that continue below ids have to meet: the pages end where the ids
before are larger and those after are smaller. -/
def EndsById (kind : ListedCollection) (items : List kind.Document) (limit : Nat) : Prop :=
  CursorPages.CleanEnds (idText kind) (belowId kind) items limit

/-- The listing is read to its end, each document that belongs to it once, in order. -/
def ListsExactly {P : Type} (kind : ListedCollection) (store : ListingStore)
    (belongs : kind.Document → Bool) (sort : kind.Document → kind.Document → Bool)
    (ask : Option String → Except ThrownError P) (next : P → Option String)
    (data : P → List kind.Document) : Prop :=
  CursorPages.ReadsExactly ask next data
    (fun doc => doc ∈ store.docs kind ∧ belongs doc = true) sort

variable {store : ListingStore} {belongs : kind.Document → Bool}
  {sort : kind.Document → kind.Document → Bool} {P : Type}
  {ask : Option String → Except ThrownError P} {next : P → Option String}
  {data : P → List kind.Document}

/-- A listing that refuses its first page is not read. -/
theorem not_listsExactly_of_error {error : ThrownError} (h : ask none = .error error) :
    ¬ ListsExactly kind store belongs sort ask next data := by
  rintro ⟨pages, hReads, -⟩
  cases hReads with
  | last answered => cases h.symm.trans answered
  | more answered => cases h.symm.trans answered

theorem listsExactly_iff {mark : kind.Document → String} {past : String → kind.Document → Bool}
    (hServes : CursorPages.Serves mark past (store.listing kind belongs sort) limit ask next data)
    (hLimit : 0 < limit) (hOrder : Paging.OrdersKeys (fun doc => doc) sort (store.docs kind))
    (hTrans : ∀ key item other, past key item = true → past (mark item) other = true →
      past key other = true) :
    ListsExactly kind store belongs sort ask next data ↔
      CursorPages.CleanEnds mark past (store.listing kind belongs sort) limit := by
  have hSome := hOrder.of_subset (List.filter_subset_self (store.docs kind) (p := belongs))
  exact hServes.readsExactly_iff hLimit
    (hOrder.of_subset fun doc hDoc => (ListingStore.mem_listing_iff.mp hDoc).1)
    hSome.pairwise_insertionSort ListingStore.listing_nodup
    (fun doc => ListingStore.mem_listing_iff) hTrans

/-- Where the filters are refused nothing is listed. Where they are not, the cursors are
followed, and the ends of the pages decide. -/
theorem listsExactly_iff_endsById {answerable : Prop} {page : P → CursorPage kind.Document}
    (hRefused : ¬ answerable → ∃ error, ask none = .error error)
    (hAsk : answerable → ∀ cursor,
      CursorPages.IsMark (idText kind) (store.listing kind belongs sort) cursor →
        ∃ answer, ask cursor = .ok answer ∧
          page answer = pageBelow kind (store.listing kind belongs sort) limit cursor)
    (hLimit : 0 < limit) (hOrder : Paging.OrdersKeys (fun doc => doc) sort (store.docs kind)) :
    ListsExactly kind store belongs sort ask (fun answer => (page answer).nextCursor)
        (fun answer => (page answer).data) ↔
      answerable ∧ EndsById kind (store.listing kind belongs sort) limit := by
  by_cases hAnswerable : answerable
  · rw [and_iff_right hAnswerable]
    exact listsExactly_iff (serves_pageBelow (hAsk hAnswerable)) hLimit hOrder belowId_trans
  · obtain ⟨error, hError⟩ := hRefused hAnswerable
    exact iff_of_false (not_listsExactly_of_error hError) fun h => hAnswerable h.1

end Pages

end Navin
