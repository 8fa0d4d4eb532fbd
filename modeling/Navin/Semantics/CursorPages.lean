import Mathlib.Data.List.Nodup
import Navin.Semantics.Paging

/-! A listing that is read page after page. The server keeps nothing between two
requests: a cursor is the mark of the last item of a page, and the next page has the
items past that mark. Whether the pages make up the listing depends on how the marks
relate to the order of the items. -/
namespace CursorPages

variable {α K E P : Type}

/-- Asking for page after page, from a cursor on, ends, and these are the pages. -/
inductive Reads (ask : Option K → Except E P) (next : P → Option K) :
    Option K → List P → Prop where
  | last {cursor : Option K} {page : P} (answered : ask cursor = .ok page)
      (ends : next page = none) : Reads ask next cursor [page]
  | more {cursor : Option K} {page : P} {key : K} {rest : List P}
      (answered : ask cursor = .ok page) (goesOn : next page = some key)
      (later : Reads ask next (some key) rest) : Reads ask next cursor (page :: rest)

/-- Reading ends, and gives what belongs to the listing, each item once and in order. -/
def ReadsExactly (ask : Option K → Except E P) (next : P → Option K) (data : P → List α)
    (belongs : α → Prop) (le : α → α → Bool) : Prop :=
  ∃ pages, Reads ask next none pages ∧ (pages.flatMap data).Nodup ∧
    (∀ item, item ∈ pages.flatMap data ↔ belongs item) ∧
      (pages.flatMap data).Pairwise fun first second => le first second = true

/-- What a cursor leaves of the items. -/
def remaining (past : K → α → Bool) (items : List α) : Option K → List α
  | none => items
  | some key => items.filter (past key)

/-- The cursor is the mark of an item, if there is one. -/
def IsMark (mark : α → K) (items : List α) (cursor : Option K) : Prop :=
  ∀ key ∈ cursor, ∃ item ∈ items, mark item = key

/-- A page has the first of the remaining items. It names the mark of its last item
when there are more. -/
structure Serves (mark : α → K) (past : K → α → Bool) (items : List α) (limit : Nat)
    (ask : Option K → Except E P) (next : P → Option K) (data : P → List α) : Prop where
  answers : ∀ cursor, IsMark mark items cursor → ∃ page,
    ask cursor = .ok page ∧ data page = (remaining past items cursor).take limit ∧
      next page = if limit < (remaining past items cursor).length then
        (data page).getLast?.map mark else none

/-- The mark of an item tells what comes after it from what does not. -/
def CleanAt (mark : α → K) (past : K → α → Bool) (before : List α) (item : α)
    (after : List α) : Prop :=
  (∀ other ∈ before ++ [item], past (mark item) other = false) ∧
    ∀ other ∈ after, past (mark item) other = true

/-- So does the mark of every item that a page ends on, unless it is the last page. -/
def CleanEnds (mark : α → K) (past : K → α → Bool) (items : List α) (limit : Nat) : Prop :=
  ∀ before item after, items = before ++ item :: after → limit ∣ before.length + 1 →
    after ≠ [] → CleanAt mark past before item after

variable {mark : α → K} {past : K → α → Bool} {items before after done rest : List α}
  {item : α} {limit : Nat} {ask : Option K → Except E P} {next : P → Option K} {data : P → List α}
  {cursor : Option K} {pages : List P}

theorem CleanAt.remaining_eq (h : CleanAt mark past before item after) :
    remaining past (before ++ item :: after) (some (mark item)) = after := by
  have hBefore : (before ++ [item]).filter (past (mark item)) = [] :=
    List.filter_eq_nil_iff.mpr fun other hOther => by simp [h.1 other hOther]
  rw [remaining, List.append_cons, List.filter_append, hBefore, List.nil_append]
  exact List.filter_eq_self.mpr h.2

/-- Only the last page names no next one. -/
theorem Reads.next_none_iff (h : Reads ask next cursor pages) {before after : List P} {page : P}
    (hPages : pages = before ++ page :: after) : next page = none ↔ after = [] := by
  induction h generalizing before with
  | @last cursor only answered ends =>
      obtain ⟨rfl, rfl⟩ : only = page ∧ after = [] := by
        cases before <;> simp_all
      exact iff_of_true ends rfl
  | @more cursor first key rest answered goesOn later ih =>
      cases before with
      | nil =>
          obtain ⟨rfl, rfl⟩ := List.cons_eq_cons.mp hPages
          refine iff_of_false (by simp [goesOn]) ?_
          rintro rfl
          cases later
      | cons other before => exact ih (List.cons_eq_cons.mp hPages).2

theorem Reads.exists_first (h : Reads ask next cursor pages) :
    ∃ page rest, pages = page :: rest ∧ ask cursor = .ok page := by
  cases h with
  | last answered ends => exact ⟨_, _, rfl, answered⟩
  | more answered goesOn later => exact ⟨_, _, rfl, answered⟩

theorem mem_of_mem_remaining {other : α} (h : other ∈ remaining past items cursor) :
    other ∈ items := by
  cases cursor with
  | none => exact h
  | some key => exact List.mem_of_mem_filter h

theorem isMark_none : IsMark mark items none :=
  nofun

theorem isMark_mark (h : item ∈ items) : IsMark mark items (some (mark item)) := by
  intro key hKey
  exact ⟨item, h, Option.mem_some_iff.mp hKey⟩

section Exactness

variable (hServes : Serves mark past items limit ask next data) (hLimit : 0 < limit)
include hServes hLimit

/-- An answered page is the last one, or ends on an item whose mark it names. -/
theorem Serves.page_cases {page : P} (hCursor : IsMark mark items cursor)
    (hAnswer : ask cursor = .ok page) :
    (next page = none ∧ data page = remaining past items cursor ∧
        (remaining past items cursor).length ≤ limit) ∨
      ∃ init last after, remaining past items cursor = init ++ last :: after ∧
        init.length + 1 = limit ∧ after ≠ [] ∧ data page = init ++ [last] ∧
          next page = some (mark last) := by
  obtain ⟨page', hAsked, hData, hNext⟩ := hServes.answers cursor hCursor
  obtain rfl : page = page' := by
    rw [hAsked] at hAnswer
    exact (Except.ok.inj hAnswer).symm
  by_cases hMore : limit < (remaining past items cursor).length
  · obtain ⟨init, last, after, hRest, hInit, hAfter⟩ := Paging.exists_page hLimit hMore
    have hPage : data page = init ++ [last] := by
      rw [hData, hRest, List.append_cons, List.take_left' (by simp [hInit])]
    rw [if_pos hMore, hPage, List.getLast?_concat] at hNext
    exact .inr ⟨init, last, after, hRest, hInit, hAfter, hPage, hNext⟩
  · rw [if_neg hMore] at hNext
    rw [List.take_of_length_le (by omega)] at hData
    exact .inl ⟨hNext, hData, by omega⟩

/-- A page is the last one when all that is left fits on it. -/
theorem Serves.next_none_iff {page : P} (hCursor : IsMark mark items cursor)
    (hAnswer : ask cursor = .ok page) :
    next page = none ↔ (remaining past items cursor).length ≤ limit := by
  rcases hServes.page_cases hLimit hCursor hAnswer with
    ⟨hNone, -, hShort⟩ | ⟨init, last, after, hRest, hInit, hAfter, -, hKey⟩
  · exact iff_of_true hNone hShort
  · refine iff_of_false (by simp [hKey]) ?_
    have hSome := List.length_pos_iff.mpr hAfter
    rw [hRest, List.length_append, List.length_cons]
    omega

/-- Every page that is read answers the mark of an item, or is the first. -/
theorem Reads.answered (hCursor : IsMark mark items cursor) (h : Reads ask next cursor pages) :
    ∀ page ∈ pages, ∃ cursor, IsMark mark items cursor ∧ ask cursor = .ok page := by
  induction h with
  | last answered => exact List.forall_mem_singleton.mpr ⟨_, hCursor, answered⟩
  | @more cursor page key rest answered goesOn later ih =>
      refine List.forall_mem_cons.mpr ⟨⟨cursor, hCursor, answered⟩, ih ?_⟩
      rcases hServes.page_cases hLimit hCursor answered with
        ⟨hNone, -⟩ | ⟨init, last, after, hRest, -, -, -, hKey⟩
      · cases hNone.symm.trans goesOn
      · obtain rfl : mark last = key := Option.some.inj (hKey.symm.trans goesOn)
        have hLast : last ∈ remaining past items cursor := by
          simp [hRest]
        exact isMark_mark (mem_of_mem_remaining hLast)

/-- Whatever is read from a cursor on is past it. -/
theorem Reads.subset_remaining
    (hTrans : ∀ key item other, past key item = true → past (mark item) other = true →
      past key other = true)
    (hCursor : IsMark mark items cursor) (h : Reads ask next cursor pages) :
    ∀ other ∈ pages.flatMap data, other ∈ remaining past items cursor := by
  induction h with
  | last answered ends =>
      rcases hServes.page_cases hLimit hCursor answered with
        ⟨-, hData, -⟩ | ⟨_, _, _, _, _, _, _, hMore⟩
      · rw [List.flatMap_singleton, hData]
        exact fun _ h => h
      · cases ends.symm.trans hMore
  | @more cursor page key rest answered goesOn later ih =>
      rcases hServes.page_cases hLimit hCursor answered with
        ⟨hNone, -⟩ | ⟨init, last, after, hRest, -, -, hData, hKey⟩
      · cases hNone.symm.trans goesOn
      obtain rfl : mark last = key := Option.some.inj (hKey.symm.trans goesOn)
      have hLast : last ∈ remaining past items cursor := by
        simp [hRest]
      intro other hOther
      rw [List.flatMap_cons, List.mem_append, hData] at hOther
      rcases hOther with hHere | hLater
      · rw [hRest, List.append_cons]
        exact List.mem_append_left after hHere
      · have hPast := ih (isMark_mark (mem_of_mem_remaining hLast)) other hLater
        cases cursor with
        | none => exact mem_of_mem_remaining hPast
        | some key =>
            rw [remaining, List.mem_filter] at hLast hPast ⊢
            exact ⟨hPast.1, hTrans _ _ _ hLast.2 hPast.2⟩

/-- Where the ends are clean, the pages from a clean cursor on are what it leaves. -/
theorem Serves.reads_rest (hClean : CleanEnds mark past items limit)
    (hItems : items = done ++ rest) (hDone : limit ∣ done.length)
    (hCursor : IsMark mark items cursor) (hRest : remaining past items cursor = rest) :
    ∃ pages, Reads ask next cursor pages ∧ pages.flatMap data = rest ∧
      (rest ≠ [] → ∀ page ∈ pages, data page ≠ []) := by
  induction hLength : rest.length using Nat.strong_induction_on generalizing done rest cursor with
  | _ length ih =>
  obtain ⟨page, hAnswer, -⟩ := hServes.answers cursor hCursor
  rcases hServes.page_cases hLimit hCursor hAnswer with
    ⟨hNone, hData, -⟩ | ⟨init, last, after, hSplit, hInit, hAfter, hData, hKey⟩
  · refine ⟨[page], .last hAnswer hNone, ?_, ?_⟩
    · rw [List.flatMap_singleton, hData, hRest]
    · intro hSome other hOther
      rw [List.mem_singleton.mp hOther, hData, hRest]
      exact hSome
  · rw [hRest] at hSplit
    have hWhole : items = (done ++ init) ++ last :: after := by
      rw [hItems, hSplit, List.append_assoc]
    have hEnd : limit ∣ (done ++ init).length + 1 := by
      rw [List.length_append, Nat.add_assoc, hInit]
      exact Nat.dvd_add hDone (Nat.dvd_refl limit)
    have hLeaves := (hClean _ _ _ hWhole hEnd hAfter).remaining_eq
    rw [← hWhole] at hLeaves
    have hLater : after.length < length := by
      rw [← hLength, hSplit, List.length_append, List.length_cons]
      omega
    have hNextEnd : limit ∣ (done ++ init ++ [last]).length := by
      rwa [List.length_append, List.length_singleton]
    have hDone' : items = (done ++ init ++ [last]) ++ after := by
      rw [hWhole, List.append_cons]
    obtain ⟨pages, hReads, hPages, hFull⟩ := ih _ hLater hDone' hNextEnd
      (isMark_mark (by simp [hWhole])) hLeaves rfl
    refine ⟨page :: pages, .more hAnswer hKey hReads, ?_, fun _ => ?_⟩
    · rw [List.flatMap_cons, hPages, hData, hSplit, ← List.append_cons]
    · rw [List.forall_mem_cons, hData]
      exact ⟨by simp, hFull hAfter⟩

/-- The first item that a cursor leaves is read. -/
theorem Reads.head_mem {first : α} {tail : List α} (hCursor : IsMark mark items cursor)
    (hReads : Reads ask next cursor pages) (hRest : remaining past items cursor = first :: tail) :
    first ∈ pages.flatMap data := by
  obtain ⟨page, rest, rfl, hAnswer⟩ := hReads.exists_first
  rw [List.flatMap_cons]
  apply List.mem_append_left
  rcases hServes.page_cases hLimit hCursor hAnswer with
    ⟨-, hData, -⟩ | ⟨init, last, after, hSplit, -, -, hData, -⟩
  · simp [hData, hRest]
  · rw [hRest] at hSplit
    rw [hData]
    cases init with
    | nil => simp [List.head_eq_of_cons_eq hSplit]
    | cons head init => simp [List.head_eq_of_cons_eq hSplit]

/-- If the pages from a mark on are the items after it, then the mark tells these from
the others. -/
theorem Serves.cleanAt_of_reads (hNodup : items.Nodup)
    (hTrans : ∀ key item other, past key item = true → past (mark item) other = true →
      past key other = true)
    (hItems : items = before ++ item :: after)
    (hReads : Reads ask next (some (mark item)) pages) (hData : pages.flatMap data = after) :
    CleanAt mark past before item after := by
  have hMark : IsMark mark items (some (mark item)) := isMark_mark (by simp [hItems])
  have hAfter : ∀ other ∈ after, past (mark item) other = true := by
    intro other hOther
    rw [← hData] at hOther
    exact (List.mem_filter.mp (hReads.subset_remaining hServes hLimit hTrans hMark other hOther)).2
  refine ⟨fun other hOther => ?_, hAfter⟩
  by_contra hPast
  -- the first item past the mark would be read, but it is not among those after it
  rw [Bool.not_eq_false] at hPast
  rw [List.append_cons] at hItems
  obtain ⟨first, tail, hFirst⟩ : ∃ first tail,
      (before ++ [item]).filter (past (mark item)) = first :: tail :=
    List.exists_cons_of_ne_nil (List.ne_nil_of_mem (List.mem_filter.mpr ⟨hOther, hPast⟩))
  have hRest : remaining past items (some (mark item)) = first :: (tail ++ after) := by
    rw [remaining, hItems, List.filter_append, hFirst, List.filter_eq_self.mpr hAfter]
    rfl
  have hRead := hReads.head_mem hServes hLimit hMark hRest
  rw [hData] at hRead
  have hBefore : first ∈ before ++ [item] :=
    List.mem_of_mem_filter (hFirst ▸ List.mem_cons_self)
  rw [hItems] at hNodup
  exact List.disjoint_of_nodup_append hNodup hBefore hRead

/-- Pages that make up what a cursor should leave end clean. -/
theorem Serves.clean_of_reads (hNodup : items.Nodup)
    (hTrans : ∀ key item other, past key item = true → past (mark item) other = true →
      past key other = true)
    (hItems : items = done ++ rest) (hDone : limit ∣ done.length)
    (hCursor : IsMark mark items cursor) (hRest : remaining past items cursor = rest)
    (hReads : Reads ask next cursor pages) (hData : pages.flatMap data = rest)
    (hSplit : items = before ++ item :: after) (hEnd : limit ∣ before.length + 1)
    (hAfter : after ≠ []) (hLater : done.length ≤ before.length) :
    CleanAt mark past before item after := by
  induction hReads generalizing done rest with
  | @last cursor page answered ends =>
      rcases hServes.page_cases hLimit hCursor answered with
        ⟨-, -, hShort⟩ | ⟨_, _, _, _, _, _, _, hMore⟩
      · exfalso
        have hLength := congrArg List.length (hItems.symm.trans hSplit)
        rw [List.length_append, List.length_append, List.length_cons] at hLength
        have hPage := Nat.le_of_dvd (by omega) (Nat.dvd_sub hEnd hDone)
        have hSome := List.length_pos_iff.mpr hAfter
        rw [hRest] at hShort
        omega
      · cases ends.symm.trans hMore
  | @more cursor page key later answered goesOn hLaterReads ih =>
      rcases hServes.page_cases hLimit hCursor answered with
        ⟨hNone, -⟩ | ⟨init, last, rest', hInit, hLength', -, hPageData, hKey⟩
      · cases hNone.symm.trans goesOn
      obtain rfl : mark last = key := Option.some.inj (hKey.symm.trans goesOn)
      rw [hRest] at hInit
      subst hInit
      have hHere : items = (done ++ init) ++ last :: rest' := by
        rw [hItems, List.append_assoc]
      have hRead : later.flatMap data = rest' := by
        rw [List.flatMap_cons, hPageData, List.append_cons init last rest'] at hData
        exact List.append_cancel_left hData
      have hClean := hServes.cleanAt_of_reads hLimit hNodup hTrans hHere hLaterReads hRead
      by_cases hSame : before.length = (done ++ init).length
      · obtain ⟨rfl, hTail⟩ := List.append_inj (hSplit.symm.trans hHere) hSame
        obtain ⟨rfl, rfl⟩ := List.cons_eq_cons.mp hTail
        exact hClean
      · have hLeaves := hClean.remaining_eq
        rw [← hHere] at hLeaves
        have hDone' : (done ++ init ++ [last]).length = done.length + limit := by
          simp only [List.length_append, List.length_singleton]
          omega
        have hPage := Nat.le_of_dvd (by omega) (Nat.dvd_sub hEnd hDone)
        rw [List.length_append] at hSame
        have hItems' : items = (done ++ init ++ [last]) ++ rest' := by
          rw [hHere, List.append_cons]
        refine ih hItems' ?_ (isMark_mark (by simp [hHere])) hLeaves hRead (by omega)
        rw [hDone']
        exact Nat.dvd_add hDone (Nat.dvd_refl limit)

/-- The pages from the first one on make up the listing exactly when their ends are
clean. -/
theorem Serves.reads_all_iff (hNodup : items.Nodup)
    (hTrans : ∀ key item other, past key item = true → past (mark item) other = true →
      past key other = true) :
    (∃ pages, Reads ask next none pages ∧ pages.flatMap data = items) ↔
      CleanEnds mark past items limit := by
  constructor
  · rintro ⟨pages, hReads, hData⟩ before item after hSplit hEnd hAfter
    exact hServes.clean_of_reads hLimit hNodup hTrans (List.nil_append items).symm
      (Nat.dvd_zero limit) isMark_none rfl hReads hData hSplit hEnd hAfter (Nat.zero_le _)
  · intro hClean
    obtain ⟨pages, hReads, hData, -⟩ := hServes.reads_rest hLimit hClean
      (List.nil_append items).symm (Nat.dvd_zero limit) isMark_none rfl
    exact ⟨pages, hReads, hData⟩

end Exactness

section Order

variable {belongs : α → Prop} {le : α → α → Bool}

/-- Items that a relation orders can be listed in one way only. -/
theorem eq_of_ordered (hOrder : Paging.OrdersKeys (fun item => item) le items)
    (hSame : rest.Perm items) (hRest : rest.Pairwise fun first second => le first second = true)
    (hSorted : items.Pairwise fun first second => le first second = true) : rest = items := by
  refine hSame.eq_of_pairwise ?_ hRest hSorted
  intro first second hFirst hSecond hLe hGe
  exact hOrder.key_eq first (hSame.subset hFirst) second hSecond hLe hGe

/-- A listing is exact when the pages make up the items in order. -/
theorem readsExactly_iff_eq (hOrder : Paging.OrdersKeys (fun item => item) le items)
    (hSorted : items.Pairwise fun first second => le first second = true) (hNodup : items.Nodup)
    (hBelongs : ∀ item, item ∈ items ↔ belongs item) :
    ReadsExactly ask next data belongs le ↔
      ∃ pages, Reads ask next none pages ∧ pages.flatMap data = items := by
  constructor
  · rintro ⟨pages, hReads, hRestNodup, hMem, hRest⟩
    have hSame : (pages.flatMap data).Perm items :=
      (List.perm_ext_iff_of_nodup hRestNodup hNodup).mpr fun item =>
        (hMem item).trans (hBelongs item).symm
    exact ⟨pages, hReads, eq_of_ordered hOrder hSame hRest hSorted⟩
  · rintro ⟨pages, hReads, rfl⟩
    exact ⟨pages, hReads, hNodup, hBelongs, hSorted⟩

/-- A listing is exact when its pages end clean. -/
theorem Serves.readsExactly_iff (hServes : Serves mark past items limit ask next data)
    (hLimit : 0 < limit) (hOrder : Paging.OrdersKeys (fun item => item) le items)
    (hSorted : items.Pairwise fun first second => le first second = true) (hNodup : items.Nodup)
    (hBelongs : ∀ item, item ∈ items ↔ belongs item)
    (hTrans : ∀ key item other, past key item = true → past (mark item) other = true →
      past key other = true) :
    ReadsExactly ask next data belongs le ↔ CleanEnds mark past items limit :=
  (readsExactly_iff_eq hOrder hSorted hNodup hBelongs).trans
    (hServes.reads_all_iff hLimit hNodup hTrans)

/-- Sorting commutes with leaving items out. -/
theorem insertionSort_filter (hOrder : Paging.OrdersKeys (fun item => item) le items)
    (p : α → Bool) :
    ((items.filter p).insertionSort fun first second => le first second) =
      (items.insertionSort fun first second => le first second).filter p := by
  have hPerm := (List.perm_insertionSort (fun first second => le first second) items).filter p
  have hKept : (items.insertionSort fun first second => le first second).filter p ⊆ items :=
    fun item hItem => (List.mem_insertionSort _).mp (List.mem_of_mem_filter hItem)
  refine eq_of_ordered (hOrder.of_subset hKept) ((List.perm_insertionSort _ _).trans hPerm.symm)
    (hOrder.of_subset (List.filter_subset_self items)).pairwise_insertionSort ?_
  exact hOrder.pairwise_insertionSort.filter p

end Order

end CursorPages
