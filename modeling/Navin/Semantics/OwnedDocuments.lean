import Navin.Semantics.Collection

/-! Part of a collection, such as the documents of one owner. Writing to the collection and
writing to the part agree, and what is written elsewhere leaves the part alone. -/
namespace Async

namespace Collection

variable {K V : Type} {key : V → K} {s t : Collection key}

theorem eq_of_docs (h : s.docs = t.docs) : s = t := by
  cases s
  cases t
  cases h
  rfl

variable {k : K} {f : V → V} {doc : V} {p q : V → Bool} (docs : Collection key)

/-- Rewrite every document that is selected, keeping its key. -/
def modifyAll (selects : V → Bool) (f : V → V) (hKey : ∀ doc, key (f doc) = key doc) :
    Collection key where
  docs := docs.docs.map fun doc => if selects doc then f doc else doc
  unique := by
    have hKeys : (docs.docs.map fun doc => if selects doc then f doc else doc).map key =
        docs.docs.map key := by
      rw [List.map_map]
      refine List.map_congr_left fun doc _ => ?_
      by_cases h : selects doc <;> simp [h, hKey]
    rw [hKeys]
    exact docs.unique

/-- A rewriting that keeps every document in its part. -/
private theorem filter_map {g : V → V} (hPart : ∀ doc, p (g doc) = p doc) (list : List V) :
    (list.map g).filter p = (list.filter p).map g := by
  simp only [List.filter_map, Function.comp_def, hPart]

/-- A rewriting that changes nothing in the part. -/
private theorem filter_map_unseen {g : V → V} (hPart : ∀ doc, p (g doc) = p doc) {list : List V}
    (hSame : ∀ doc ∈ list, p doc = true → g doc = doc) :
    (list.map g).filter p = list.filter p := by
  rw [filter_map hPart]
  calc (list.filter p).map g
      = (list.filter p).map id := by
        refine List.map_congr_left fun doc hDoc => ?_
        obtain ⟨hMem, hPart⟩ := List.mem_filter.mp hDoc
        exact hSame doc hMem hPart
    _ = list.filter p := List.map_id _

private theorem ite_part {c : V → Prop} [DecidablePred c] (hPart : ∀ doc, p (f doc) = p doc) :
    ∀ doc, p (if c doc then f doc else doc) = p doc := by
  intro doc
  split
  · exact hPart doc
  · rfl

theorem filter_modifyAll (hKey : ∀ doc, key (f doc) = key doc)
    (hPart : ∀ doc, p (f doc) = p doc) :
    (docs.modifyAll q f hKey).filter p = (docs.filter p).modifyAll q f hKey :=
  eq_of_docs (filter_map (ite_part hPart) _)

/-- Nothing that is selected is in the part. -/
theorem filter_modifyAll_unseen (hKey : ∀ doc, key (f doc) = key doc)
    (hPart : ∀ doc, p (f doc) = p doc)
    (hOther : ∀ doc, q doc = true → p doc = false) :
    (docs.modifyAll q f hKey).filter p = docs.filter p := by
  refine eq_of_docs (filter_map_unseen (ite_part hPart) fun doc hDoc hOwn => if_neg fun hq => ?_)
  rw [hOther doc hq] at hOwn
  cases hOwn

/-- What is selected within the part. -/
theorem filter_filter_of_imp (h : ∀ doc, q doc = true → p doc = true) :
    (docs.filter p).docs.filter q = docs.docs.filter q := by
  simp only [filter, List.filter_filter]
  refine List.filter_congr fun doc _ => ?_
  cases hDoc : q doc with
  | false => rfl
  | true => simp [h doc hDoc]

/-- The first document that is selected, where only documents of the part are. -/
theorem find?_filter_of_imp (h : ∀ doc, q doc = true → p doc = true) :
    (docs.filter p).docs.find? q = docs.docs.find? q := by
  rw [filter, List.find?_filter]
  refine congrArg (List.find? · docs.docs) (funext fun doc => ?_)
  cases hDoc : q doc with
  | false => simp
  | true => simp [h doc hDoc]

variable [DecidableEq K]

theorem get?_modifyAll (hKey : ∀ doc, key (f doc) = key doc) (k : K) :
    (docs.modifyAll q f hKey).get? k = (docs.get? k).map fun doc => if q doc then f doc else doc := by
  simp only [modifyAll, get?]
  induction docs.docs with
  | nil => rfl
  | cons doc rest ih =>
      have hSame : key (if q doc then f doc else doc) = key doc := by
        split
        · exact hKey doc
        · rfl
      by_cases h : key doc = k
      · simp [h, hSame]
      · simpa [h, hSame] using ih

theorem filter_modify (hKey : ∀ doc, key (f doc) = key doc)
    (hPart : ∀ doc, p (f doc) = p doc) :
    (docs.modify k f hKey).filter p = (docs.filter p).modify k f hKey :=
  eq_of_docs (filter_map (ite_part hPart) _)

/-- The document with the key is in another part. -/
theorem filter_modify_unseen (hKey : ∀ doc, key (f doc) = key doc)
    (hPart : ∀ doc, p (f doc) = p doc)
    (hOther : ∀ doc, docs.get? k = some doc → p doc = false) :
    (docs.modify k f hKey).filter p = docs.filter p := by
  refine eq_of_docs (filter_map_unseen (ite_part hPart) fun doc hDoc hOwn => if_neg fun hk => ?_)
  have hNone := hOther doc (hk ▸ docs.get?_of_mem hDoc)
  rw [hOwn] at hNone
  cases hNone

theorem filter_insert (h : docs.get? (key doc) = none)
    (hPart : (docs.filter p).get? (key doc) = none) (hDoc : p doc = true) :
    (docs.insert doc h).filter p = (docs.filter p).insert doc hPart :=
  eq_of_docs (by simp [insert, filter, List.filter_append, hDoc])

/-- The new document is in another part. -/
theorem filter_insert_unseen (h : docs.get? (key doc) = none) (hDoc : p doc = false) :
    (docs.insert doc h).filter p = docs.filter p :=
  eq_of_docs (by simp [insert, filter, List.filter_append, hDoc])

/-- A key that is free is free in every part. -/
theorem get?_filter_eq_none (h : docs.get? k = none) (p : V → Bool) :
    (docs.filter p).get? k = none := by
  rw [get?_filter, h, Option.filter_none]

theorem get?_filter_filter (h : ∀ doc, q doc = true → p doc = true) (k : K) :
    ((docs.filter p).get? k).filter q = (docs.get? k).filter q := by
  rw [← get?_filter, ← get?_filter]
  exact congrArg (get? · k) (eq_of_docs (docs.filter_filter_of_imp h))

end Collection

end Async
