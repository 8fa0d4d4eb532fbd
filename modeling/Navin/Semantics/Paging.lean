import Mathlib.Data.List.Sort

/-! Following the cursors of a server that hands out a list in pages. A cursor is the key
of the last item of a page; the server goes on after the first item with that key. -/
namespace Paging

variable {α K : Type} [DecidableEq K] (key : α → K) (items : List α)

/-- Where the page after a cursor starts: at the beginning if no item has that key. -/
def startIndex : Option K → Nat
  | none => 0
  | some cursor =>
      match items.findIdx? (key · = cursor) with
      | none => 0
      | some index => index + 1

/-- The pages from a cursor on, until one is the last. The fuel bounds their number; the
flag tells whether the last one was seen. -/
def follow (limit : Nat) : (fuel : Nat) → Option K → List α × Bool
  | 0, _ => ([], false)
  | fuel + 1, cursor =>
      let page := (items.drop (startIndex key items cursor)).take (limit + 1)
      if limit < page.length then
        let (rest, ended) := follow limit fuel ((page.take limit).getLast?.map key)
        (page.take limit ++ rest, ended)
      else (page, true)

/-- No page that another one follows ends on an item whose key an earlier item has. -/
def FreshEnds (limit : Nat) : Prop :=
  ∀ before item after, items = before ++ item :: after → limit ∣ before.length + 1 →
    after ≠ [] → key item ∉ before.map key

variable {key items} {before after done rest : List α} {item : α} {cursor : Option K}

theorem startIndex_le (h : items = before ++ item :: after) :
    startIndex key items (some (key item)) ≤ before.length + 1 := by
  simp only [startIndex]
  cases hIndex : items.findIdx? fun other => key other = key item with
  | none => exact Nat.zero_le _
  | some index =>
      rw [List.findIdx?_eq_some_iff_getElem] at hIndex
      obtain ⟨hLength, -, hFirst⟩ := hIndex
      refine Nat.succ_le_succ (Nat.le_of_not_lt fun hLater => hFirst before.length hLater ?_)
      simp [h]

theorem startIndex_eq_iff (h : items = before ++ item :: after) :
    startIndex key items (some (key item)) = before.length + 1 ↔ key item ∉ before.map key := by
  subst h
  simp only [startIndex, List.findIdx?_append, List.findIdx?_cons, decide_true, if_true]
  cases hIndex : before.findIdx? fun other => key other = key item with
  | none =>
      simp only [List.findIdx?_eq_none_iff, decide_eq_false_iff_not] at hIndex
      simpa [eq_comm] using hIndex
  | some index =>
      rw [List.findIdx?_eq_some_iff_getElem] at hIndex
      obtain ⟨hLength, hKey, -⟩ := hIndex
      have hMem : key item ∈ before.map key :=
        List.mem_map.mpr ⟨_, List.getElem_mem hLength, of_decide_eq_true hKey⟩
      simp only [Option.some_or, Nat.add_right_cancel_iff, hMem, not_true, iff_false]
      omega

theorem startIndex_resume (h : items = before ++ item :: after)
    (hFresh : key item ∉ before.map key) :
    startIndex key items (some (key item)) = (before ++ [item]).length := by
  rw [List.length_append]
  exact (startIndex_eq_iff h).mpr hFresh

variable {limit fuel : Nat}

/-- A page that another one follows. -/
theorem exists_page (hLimit : 0 < limit) (hMore : limit < rest.length) :
    ∃ init last after, rest = init ++ last :: after ∧ init.length + 1 = limit ∧ after ≠ [] := by
  refine ⟨rest.take (limit - 1), rest[limit - 1], rest.drop limit, ?_, ?_, ?_⟩
  · have hSplit := List.take_append_drop (limit - 1) rest
    rw [List.drop_eq_getElem_cons (by omega), Nat.sub_add_cancel hLimit] at hSplit
    exact hSplit.symm
  · rw [List.length_take]
    omega
  · intro hNil
    have hLength := congrArg List.length hNil
    rw [List.length_drop, List.length_nil] at hLength
    omega

theorem follow_last (hItems : items = done ++ rest)
    (hCursor : startIndex key items cursor = done.length) (hLast : rest.length ≤ limit) :
    follow key items limit (fuel + 1) cursor = (rest, true) := by
  subst hItems
  simp only [follow, hCursor, List.drop_left, List.length_take]
  rw [if_neg (by omega), List.take_of_length_le (by omega)]

theorem follow_more {init : List α} (hItems : items = done ++ (init ++ item :: after))
    (hCursor : startIndex key items cursor = done.length) (hLimit : init.length + 1 = limit)
    (hMore : after ≠ []) :
    follow key items limit (fuel + 1) cursor =
      (init ++ item :: (follow key items limit fuel (some (key item))).1,
        (follow key items limit fuel (some (key item))).2) := by
  have hAfter := List.length_pos_iff.mpr hMore
  have hPage : ((init ++ item :: after).take (limit + 1)).take limit = init ++ [item] := by
    rw [List.take_take, Nat.min_eq_left (Nat.le_succ limit), ← hLimit, List.take_append,
      List.take_of_length_le (Nat.le_succ _), Nat.add_sub_cancel_left]
    rfl
  have hDrop : items.drop done.length = init ++ item :: after := by
    rw [hItems, List.drop_left]
  have hLong : limit < ((init ++ item :: after).take (limit + 1)).length := by
    simp only [List.length_take, List.length_append, List.length_cons]
    omega
  simp only [follow, hCursor, hDrop, if_pos hLong, hPage, List.getLast?_concat, Option.map_some,
    List.append_assoc, List.singleton_append]

/-- Where the pages end on fresh keys, the rest of the list is read to its end. -/
theorem follow_eq (hLimit : 0 < limit) (hFresh : FreshEnds key items limit)
    (hItems : items = done ++ rest) (hDone : limit ∣ done.length)
    (hCursor : startIndex key items cursor = done.length) (hFuel : rest.length < fuel) :
    follow key items limit fuel cursor = (rest, true) := by
  induction fuel generalizing done rest cursor with
  | zero => omega
  | succ fuel ih =>
      by_cases hMore : limit < rest.length
      · obtain ⟨init, last, after, rfl, hInit, hAfter⟩ := exists_page hLimit hMore
        have hSplit : items = (done ++ init) ++ last :: after := by
          rw [hItems, List.append_assoc]
        have hEnd : limit ∣ (done ++ init).length + 1 := by
          rw [List.length_append, Nat.add_assoc, hInit]
          exact Nat.dvd_add hDone (Nat.dvd_refl limit)
        have hNext := startIndex_resume hSplit (hFresh _ _ _ hSplit hEnd hAfter)
        rw [List.length_append, List.length_cons] at hFuel
        rw [← List.length_singleton, ← List.length_append] at hEnd
        rw [follow_more hItems hCursor hInit hAfter, ih (by simpa using hSplit) hEnd hNext
          (by omega)]
      · exact follow_last hItems hCursor (Nat.le_of_not_lt hMore)

/-- Nothing is left out, and if nothing is repeated then the pages end on fresh keys. -/
theorem follow_length (hLimit : 0 < limit) {data : List α}
    (hStart : startIndex key items cursor ≤ items.length)
    (h : follow key items limit fuel cursor = (data, true)) :
    items.length ≤ startIndex key items cursor + data.length ∧
      (startIndex key items cursor + data.length = items.length →
        limit ∣ startIndex key items cursor →
          ∀ before item after, items = before ++ item :: after → limit ∣ before.length + 1 →
            after ≠ [] → startIndex key items cursor ≤ before.length →
              key item ∉ before.map key) := by
  induction fuel generalizing cursor data with
  | zero => cases h
  | succ fuel ih =>
      have hItems := (List.take_append_drop (startIndex key items cursor) items).symm
      have hCursor : startIndex key items cursor =
          (items.take (startIndex key items cursor)).length := by
        rw [List.length_take, Nat.min_eq_left hStart]
      have hRest := List.length_drop (i := startIndex key items cursor) (l := items)
      by_cases hMore : limit < (items.drop (startIndex key items cursor)).length
      · obtain ⟨init, last, later, hPage, hInit, hLater⟩ := exists_page hLimit hMore
        rw [hPage] at hItems hRest
        have hSplit := hItems.trans (List.append_assoc _ _ _).symm
        have hNext : startIndex key items (some (key last)) ≤ _ := startIndex_le hSplit
        rw [List.length_append, List.length_cons] at hRest
        rw [List.length_append, ← hCursor] at hNext
        rw [follow_more hItems hCursor hInit hLater, Prod.mk.injEq] at h
        obtain ⟨rfl, hEnded⟩ := h
        have hRun : follow key items limit fuel (some (key last)) =
            ((follow key items limit fuel (some (key last))).1, true) := by
          rw [← hEnded]
        obtain ⟨hLow, hTight⟩ := ih (by omega) hRun
        simp only [List.length_append, List.length_cons]
        refine ⟨by omega, fun hExact hDivides before item after hSame hEnd hAfter hLate => ?_⟩
        have hTo : startIndex key items (some (key last)) =
            startIndex key items cursor + limit := by
          omega
        by_cases hHere : before.length + 1 = startIndex key items cursor + limit
        · have hFresh := (startIndex_eq_iff hSplit).mp (by
            rw [hTo, List.length_append, ← hCursor]
            omega)
          obtain ⟨rfl, hRest⟩ := List.append_inj (hSame.symm.trans hSplit) (by
            rw [List.length_append, ← hCursor]
            omega)
          rw [List.head_eq_of_cons_eq hRest]
          exact hFresh
        · have hLater : startIndex key items cursor + limit ≤ before.length := by
            have hPage := Nat.le_of_dvd (by omega) (Nat.dvd_sub hEnd hDivides)
            omega
          exact hTight (by omega) (hTo ▸ Nat.dvd_add hDivides (Nat.dvd_refl limit)) before item after
            hSame hEnd hAfter (hTo ▸ hLater)
      · rw [follow_last hItems hCursor (Nat.le_of_not_lt hMore), Prod.mk.injEq] at h
        obtain ⟨rfl, -⟩ := h
        refine ⟨by omega, fun _ hDivides before item after hSame hEnd hAfter hLate => ?_⟩
        exfalso
        have hLength := congrArg List.length hSame
        have hPositive := List.length_pos_iff.mpr hAfter
        rw [List.length_append, List.length_cons] at hLength
        have hPage := Nat.le_of_dvd (by omega) (Nat.dvd_sub hEnd hDivides)
        omega

theorem follow_exact (hLimit : 0 < limit) (hFresh : FreshEnds key items limit) :
    follow key items limit (items.length + 1) none = (items, true) :=
  follow_eq hLimit hFresh (List.nil_append items).symm (Nat.dvd_zero limit) rfl
    (Nat.lt_succ_self _)

/-- The pages end and are as long as the list exactly when they end on fresh keys. -/
theorem freshEnds_of_follow (hLimit : 0 < limit) {data : List α}
    (h : follow key items limit fuel none = (data, true)) (hLength : data.length = items.length) :
    FreshEnds key items limit := by
  have hTight := (follow_length hLimit (Nat.zero_le _) h).2 (by simpa [startIndex] using hLength)
    (Nat.dvd_zero limit)
  exact fun before item after hItems hEnd hAfter =>
    hTight before item after hItems hEnd hAfter (Nat.zero_le _)

section Sorted

variable (key) (le : α → α → Bool)

/-- The items before an item, and those with its key. -/
def rank (items : List α) (item : α) : Nat :=
  items.countP fun other => le other item && key other ≠ key item

def copies (items : List α) (item : α) : Nat :=
  items.countP fun other => key other = key item

/-- On these items the relation orders the keys. -/
structure OrdersKeys (items : List α) : Prop where
  total : ∀ first ∈ items, ∀ second ∈ items, le first second = true ∨ le second first = true
  trans : ∀ first ∈ items, ∀ second ∈ items, ∀ third ∈ items, le first second = true →
    le second third = true → le first third = true
  key_eq : ∀ first ∈ items, ∀ second ∈ items, le first second = true → le second first = true →
    key first = key second
  congr : ∀ first ∈ items, ∀ second ∈ items, key first = key second → le first second = true

variable {key le}

omit [DecidableEq K] in
theorem OrdersKeys.of_subset {others : List α} (h : OrdersKeys key le items)
    (hSubset : others ⊆ items) : OrdersKeys key le others where
  total first hFirst second hSecond := h.total first (hSubset hFirst) second (hSubset hSecond)
  trans first hFirst second hSecond third hThird :=
    h.trans first (hSubset hFirst) second (hSubset hSecond) third (hSubset hThird)
  key_eq first hFirst second hSecond := h.key_eq first (hSubset hFirst) second (hSubset hSecond)
  congr first hFirst second hSecond := h.congr first (hSubset hFirst) second (hSubset hSecond)

omit [DecidableEq K] in
/-- Sorting by the relation sorts, though it orders these items only. -/
theorem OrdersKeys.pairwise_insertionSort (h : OrdersKeys key le items) :
    (items.insertionSort fun first second => le first second).Pairwise fun first second =>
      le first second = true := by
  let inner : { item // item ∈ items } → { item // item ∈ items } → Prop :=
    fun first second => le first second = true
  have hTotal : Std.Total inner :=
    ⟨fun first second => h.total first first.2 second second.2⟩
  have hTrans : IsTrans _ inner :=
    ⟨fun first second third => h.trans first first.2 second second.2 third third.2⟩
  have hMap := List.map_insertionSort inner (fun first second => le first second = true)
    Subtype.val items.attach fun _ _ _ _ => Iff.rfl
  rw [List.attach_map_subtype_val] at hMap
  rw [← hMap, List.pairwise_map]
  exact List.pairwise_insertionSort inner items.attach

omit [DecidableEq K] in
/-- Sorted by a descending key, items in the order of distinct keys are reversed. -/
theorem insertionSort_eq_reverse (key : α → Int) {items : List α}
    (h : items.reverse.Pairwise fun first second => key second < key first) :
    items.insertionSort (fun first second => key second ≤ key first) = items.reverse := by
  let inner : α → α → Prop := fun first second => key second ≤ key first
  have : Std.Total inner := ⟨fun first second => le_total (key second) (key first)⟩
  have : IsTrans α inner := ⟨fun _ _ _ hFirst hSecond => hSecond.trans hFirst⟩
  have hPerm := (List.perm_insertionSort inner items).trans items.reverse_perm.symm
  have hDistinct : (items.reverse.map key).Nodup :=
    List.pairwise_map.mpr (h.imp fun hLater => (ne_of_lt hLater).symm)
  refine hPerm.eq_of_pairwise ?_ (List.pairwise_insertionSort inner items)
    (h.imp fun hLater => hLater.le)
  intro first second hFirst hSecond hLe hGe
  have hSame : key first = key second := le_antisymm hGe hLe
  exact List.inj_on_of_nodup_map hDistinct (hPerm.subset hFirst) hSecond hSame

omit [DecidableEq K] in
theorem countP_append_of_none {p : α → Bool} (h : ∀ item ∈ after, p item = false) :
    (before ++ after).countP p = before.countP p := by
  have hNone : after.countP p = 0 := List.countP_eq_zero.mpr (by simpa using h)
  rw [List.countP_append, hNone, Nat.add_zero]

variable (hOrder : OrdersKeys key le items)
  (hSorted : items.Pairwise fun first second => le first second = true)
include hOrder hSorted

/-- In a sorted list, the items before an item are those of a smaller key and copies. -/
theorem rank_split (h : items = before ++ item :: after) :
    rank key le items item = before.countP fun other => key other ≠ key item := by
  subst h
  rw [List.pairwise_append, List.pairwise_cons] at hSorted
  obtain ⟨-, ⟨hAfter, -⟩, hBefore⟩ := hSorted
  have hItem : item ∈ before ++ item :: after :=
    List.mem_append_right before List.mem_cons_self
  rw [rank, countP_append_of_none]
  · refine List.countP_congr fun other hOther => ?_
    rw [hBefore other hOther item List.mem_cons_self, Bool.true_and]
  · intro other hOther
    rw [Bool.and_eq_false_imp, decide_eq_false_iff_not, not_not]
    intro hSmaller
    rcases List.mem_cons.mp hOther with rfl | hLater
    · rfl
    · exact hOrder.key_eq other (List.mem_append_right before hOther) item hItem hSmaller
        (hAfter other hLater)

theorem length_eq_rank_add (h : items = before ++ item :: after) :
    before.length = rank key le items item + before.countP fun other => key other = key item := by
  rw [rank_split hOrder hSorted h, Nat.add_comm,
    List.length_eq_countP_add_countP fun other => decide (key other = key item)]
  simp only [decide_not, Bool.decide_coe, ne_eq]

theorem key_fresh_iff (h : items = before ++ item :: after) :
    key item ∉ before.map key ↔ before.length = rank key le items item := by
  rw [length_eq_rank_add hOrder hSorted h, Nat.add_eq_left, List.countP_eq_zero]
  simp

theorem length_lt_rank_add_copies (h : items = before ++ item :: after) :
    before.length < rank key le items item + copies key items item := by
  have hCopies : copies key items item = (before.countP fun other => key other = key item) +
      ((item :: after).countP fun other => key other = key item) := by
    rw [copies, h, List.countP_append]
  have hOwn : 0 < (item :: after).countP fun other => key other = key item :=
    List.countP_pos_iff.mpr ⟨item, List.mem_cons_self, by simp⟩
  have hLength := length_eq_rank_add hOrder hSorted h
  omega

omit hSorted in
theorem rank_eq_of_key {first second : α} (hFirst : first ∈ items) (hSecond : second ∈ items)
    (hKey : key first = key second) : rank key le items first = rank key le items second := by
  refine List.countP_congr fun other hOther => ?_
  have hLe : le other first = true ↔ le other second = true :=
    ⟨fun hLe => hOrder.trans other hOther first hFirst second hSecond hLe
        (hOrder.congr first hFirst second hSecond hKey),
      fun hLe => hOrder.trans other hOther second hSecond first hFirst hLe
        (hOrder.congr second hSecond first hFirst hKey.symm)⟩
  rw [Bool.and_eq_true, Bool.and_eq_true, hLe, hKey]

/-- Up to an item of a smaller key, all keys are smaller. -/
theorem length_lt_rank {other : α} (h : items = before ++ item :: after) (hOther : other ∈ items)
    (hLe : le item other = true) (hKey : key item ≠ key other) :
    before.length < rank key le items other := by
  have hItem : item ∈ items := h ▸ List.mem_append_right before List.mem_cons_self
  have hBefore := (List.pairwise_append.mp (h ▸ hSorted)).2.2
  have hSmaller : ∀ third ∈ before ++ [item], (le third other && key third ≠ key other) = true := by
    intro third hThird
    rw [Bool.and_eq_true, decide_eq_true_eq]
    rcases List.mem_append.mp hThird with hBelow | hSame
    · have hThird : third ∈ items := h ▸ List.mem_append_left _ hBelow
      have hBelowItem := hBefore third hBelow item List.mem_cons_self
      refine ⟨hOrder.trans third hThird item hItem other hOther hBelowItem hLe, ?_⟩
      intro hSame
      have hBack := hOrder.trans other hOther third hThird item hItem
        (hOrder.congr other hOther third hThird hSame.symm) hBelowItem
      exact hKey (hOrder.key_eq item hItem other hOther hLe hBack)
    · obtain rfl := List.mem_singleton.mp hSame
      exact ⟨hLe, hKey⟩
  calc before.length
      < (before ++ [item]).length := by simp
    _ = (before ++ [item]).countP fun third => le third other && key third ≠ key other :=
        (List.countP_eq_length.mpr hSmaller).symm
    _ ≤ items.countP fun third => le third other && key third ≠ key other := by
        have hItems : items = before ++ [item] ++ after := by
          rw [h, List.append_assoc, List.singleton_append]
        exact (hItems ▸ List.sublist_append_left (before ++ [item]) after).countP_le

/-- From an item of a greater key on, all keys are greater. -/
theorem rank_add_copies_le {other : α} (h : items = before ++ item :: after)
    (hOther : other ∈ items) (hGe : le other item = true) (hKey : key item ≠ key other) :
    rank key le items other + copies key items other ≤ before.length := by
  have hItem : item ∈ items := h ▸ List.mem_append_right before List.mem_cons_self
  have hAfter := (List.pairwise_cons.mp (List.pairwise_append.mp (h ▸ hSorted)).2.1).1
  have hGreater : ∀ third ∈ item :: after, le third other = false := by
    intro third hThird
    rw [← Bool.not_eq_true]
    intro hSmall
    have hItemThird : le item third = true := by
      rcases List.mem_cons.mp hThird with rfl | hLater
      · exact hOrder.congr third hItem third hItem rfl
      · exact hAfter third hLater
    have hBack := hOrder.trans item hItem third (h ▸ List.mem_append_right _ hThird) other hOther
      hItemThird hSmall
    exact hKey (hOrder.key_eq item hItem other hOther hBack hGe)
  have hRank : rank key le items other ≤ before.countP fun third => key third ≠ key other := by
    rw [rank, h, countP_append_of_none fun third hThird => by rw [hGreater third hThird]; rfl]
    refine List.countP_mono_left fun third _ hSmall => ?_
    exact ((Bool.and_eq_true _ _).mp hSmall).2
  have hCopies : copies key items other = before.countP fun third => key third = key other := by
    rw [copies, h, countP_append_of_none fun third hThird => ?_]
    rw [decide_eq_false_iff_not]
    intro hSame
    have hLe := hOrder.congr third (h ▸ List.mem_append_right _ hThird) other hOther hSame
    rw [hGreater third hThird] at hLe
    cases hLe
  have hLength : before.length = _ :=
    List.length_eq_countP_add_countP fun third => decide (key third = key other)
  simp only [decide_not, Bool.decide_coe, ne_eq] at hLength hRank
  omega

/-- The copies of an item stand together, after the items of a smaller key. -/
theorem key_eq_of_between {other : α} (h : items = before ++ item :: after) (hOther : other ∈ items)
    (hLow : rank key le items other ≤ before.length)
    (hHigh : before.length < rank key le items other + copies key items other) :
    key item = key other := by
  have hItem : item ∈ items := h ▸ List.mem_append_right before List.mem_cons_self
  by_contra hKey
  rcases hOrder.total item hItem other hOther with hLe | hGe
  · have hLess := length_lt_rank hOrder hSorted h hOther hLe hKey
    omega
  · have hMore := rank_add_copies_le hOrder hSorted h hOther hGe hKey
    omega

/-- Of a sorted list, the pages end on fresh keys exactly when no page that another one
follows ends amid the copies of an item. -/
theorem freshEnds_iff : FreshEnds key items limit ↔ ∀ item ∈ items, ∀ pages,
    pages * limit < items.length → pages * limit ≤ rank key le items item + copies key items item →
      pages * limit ≤ rank key le items item + 1 := by
  constructor
  · intro hFresh item hItem pages hMore hHigh
    by_contra hLow
    have hPlace : pages * limit - 1 < items.length := by omega
    have hSplit : items = items.take (pages * limit - 1) ++ items[pages * limit - 1] ::
        items.drop (pages * limit) := by
      have hDrop := List.drop_eq_getElem_cons hPlace
      rw [Nat.sub_add_cancel (by omega)] at hDrop
      rw [← hDrop, List.take_append_drop]
    have hLength : (items.take (pages * limit - 1)).length = pages * limit - 1 := by
      rw [List.length_take, Nat.min_eq_left hPlace.le]
    have hKey := key_eq_of_between hOrder hSorted hSplit hItem (by omega) (by omega)
    have hNext : items.drop (pages * limit) ≠ [] := by
      rw [Ne, List.drop_eq_nil_iff]
      omega
    have hFirst := (key_fresh_iff hOrder hSorted hSplit).mp (hFresh _ _ _ hSplit
      ⟨pages, by rw [hLength, Nat.sub_add_cancel (by omega), Nat.mul_comm]⟩ hNext)
    rw [rank_eq_of_key hOrder (List.getElem_mem hPlace) hItem hKey] at hFirst
    omega
  · intro hEnds before item after hSplit hDivides hAfter hOld
    obtain ⟨pages, hPages⟩ := hDivides
    have hItem : item ∈ items := hSplit ▸ List.mem_append_right before List.mem_cons_self
    have hLength := congrArg List.length hSplit
    have hPositive := List.length_pos_iff.mpr hAfter
    rw [List.length_append, List.length_cons] at hLength
    rw [Nat.mul_comm] at hPages
    have hHigh := length_lt_rank_add_copies hOrder hSorted hSplit
    have hLow := hEnds item hItem pages (by omega) (by omega)
    have hRank := length_eq_rank_add hOrder hSorted hSplit
    exact absurd hOld ((key_fresh_iff hOrder hSorted hSplit).mpr (by omega))

omit hOrder hSorted in
theorem rank_perm {others : List α} (h : items.Perm others) :
    rank key le items item = rank key le others item :=
  h.countP_eq _

omit hOrder hSorted in
theorem copies_perm {others : List α} (h : items.Perm others) :
    copies key items item = copies key others item :=
  h.countP_eq _

end Sorted

end Paging
