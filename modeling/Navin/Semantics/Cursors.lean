import Mathlib.Data.List.Nodup

/-! Reading a list of keyed items from a position, which is the key of the last
item read. A reader that fetches page after page until one comes short has read
everything after its position. -/
namespace Cursor

variable {α K : Type} (key : α → K) {start : Option K}
  {items before after done rest : List α} {item : α}

/-- The position of a reader that started at `start` and has read `done`. -/
def resume (start : Option K) (done : List α) : Option K :=
  (done.getLast?.map key).or start

@[simp] theorem resume_nil : resume key start [] = start := rfl

@[simp] theorem resume_concat : resume key start (done ++ [item]) = some (key item) := by
  rw [resume, List.getLast?_concat]
  rfl

theorem resume_append : resume key (resume key start before) after =
    resume key start (before ++ after) := by
  rcases List.eq_nil_or_concat after with rfl | ⟨init, last, rfl⟩
  · rw [resume_nil, List.append_nil]
  · rw [List.concat_eq_append, ← List.append_assoc, resume_concat, resume_concat]

variable [DecidableEq K]

/-- The items strictly after a position, from the beginning without one. -/
def itemsAfter (items : List α) : Option K → List α
  | none => items
  | some cursor => (items.dropWhile fun item => key item ≠ cursor).tail

/-- Keys that occur once tell where a list splits. -/
theorem itemsAfter_split (hKeys : ((before ++ item :: after).map key).Nodup) :
    itemsAfter key (before ++ item :: after) (some (key item)) = after := by
  have hOthers : ∀ earlier ∈ before, decide (key earlier ≠ key item) = true := by
    rw [List.map_append, List.nodup_append] at hKeys
    exact fun earlier hEarlier => decide_eq_true
      (hKeys.2.2 _ (List.mem_map_of_mem hEarlier) _ (List.mem_map_of_mem List.mem_cons_self))
  rw [itemsAfter, List.dropWhile_append_of_pos hOthers, List.dropWhile_cons_of_neg (by simp)]
  rfl

/-- A reader that has read an initial part goes on with the rest. -/
theorem itemsAfter_resume (hKeys : ((done ++ rest).map key).Nodup) :
    itemsAfter key (done ++ rest) (resume key none done) = rest := by
  rcases List.eq_nil_or_concat done with rfl | ⟨done, last, rfl⟩
  · rfl
  · rw [List.concat_eq_append] at hKeys ⊢
    rw [resume_concat]
    rw [List.append_assoc, List.singleton_append] at hKeys ⊢
    exact itemsAfter_split key hKeys

/-- Fetch pages until one is shorter than the limit. The fuel bounds the number of
pages; the flag tells whether a short one was seen. -/
def pages (limit : Nat) (fetch : Option K → List α) : (fuel : Nat) → Option K → List α × Bool
  | 0, _ => ([], false)
  | fuel + 1, position =>
      let page := fetch position
      if page.length < limit then (page, true)
      else
        let (rest, ended) := pages limit fetch fuel (resume key position page)
        (page ++ rest, ended)

/-- A server that has these items, and hands out at most `limit` at a time. -/
def serve (items : List α) (limit : Nat) (position : Option K) : List α :=
  (itemsAfter key items position).take limit

theorem mem_of_mem_serve {limit : Nat} {position : Option K}
    (h : item ∈ serve key items limit position) : item ∈ items := by
  have hAfter := List.mem_of_mem_take h
  cases position with
  | none => exact hAfter
  | some cursor =>
      exact (List.dropWhile_sublist _).mem (List.mem_of_mem_tail hAfter)

theorem length_le_of_not_short {limit fuel : Nat} (hShort : ¬(rest.take limit).length < limit)
    (hFuel : rest.length < (fuel + 1) * limit) : (rest.drop limit).length < fuel * limit := by
  rw [List.length_take] at hShort
  rw [List.length_drop]
  rw [Nat.succ_mul] at hFuel
  omega

/-- The reader ends, and has read exactly the rest, whatever the length of the list
is to the limit. -/
theorem pages_serve (hKeys : (items.map key).Nodup) {limit fuel : Nat}
    (hItems : items = done ++ rest) (hFuel : rest.length < fuel * limit) :
    pages key limit (serve key items limit) fuel (resume key none done) = (rest, true) := by
  induction fuel generalizing done rest with
  | zero => omega
  | succ fuel ih =>
      have hPage : serve key items limit (resume key none done) = rest.take limit := by
        rw [serve, hItems, itemsAfter_resume key (hItems ▸ hKeys)]
      simp only [pages, hPage]
      split
      · rename_i hShort
        rw [List.length_take] at hShort
        rw [List.take_of_length_le (by omega)]
      · rename_i hShort
        have hNext : items = (done ++ rest.take limit) ++ rest.drop limit := by
          rw [List.append_assoc, List.take_append_drop, hItems]
        rw [resume_append, ih hNext (length_le_of_not_short hShort hFuel)]
        simp only [List.take_append_drop]

end Cursor
