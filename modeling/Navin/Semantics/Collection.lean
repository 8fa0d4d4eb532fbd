import Mathlib.Data.List.Nodup
import Mathlib.Tactic.Tauto

/-! Collections of documents stored under a key the document itself carries. No
two documents of a collection share a key, in whatever way it was built. -/
namespace Async

/-- Documents in insertion order, with distinct keys. -/
structure Collection {K V : Type} (key : V → K) where
  docs : List V
  unique : (docs.map key).Nodup

namespace Collection

variable {K V : Type} {key : V → K}

def empty : Collection key :=
  ⟨[], .nil⟩

theorem nodup_single (key : V → K) (doc : V) : ([doc].map key).Nodup :=
  List.nodup_singleton (key doc)

variable [DecidableEq K] {k other : K} {f : V → V} {doc : V} (docs : Collection key)

def get? (k : K) : Option V :=
  docs.docs.find? fun doc => key doc = k

theorem get?_eq_some_iff : docs.get? k = some doc ↔ doc ∈ docs.docs ∧ key doc = k := by
  constructor
  · intro h
    exact ⟨List.mem_of_find?_eq_some h, by simpa using List.find?_some h⟩
  · rintro ⟨hMem, rfl⟩
    obtain ⟨found, hFound⟩ : ∃ found, docs.get? (key doc) = some found := by
      rw [← Option.isSome_iff_exists, get?, List.find?_isSome]
      exact ⟨doc, hMem, by simp⟩
    have hKey : key found = key doc := by simpa using List.find?_some hFound
    rw [hFound, List.inj_on_of_nodup_map docs.unique (List.mem_of_find?_eq_some hFound) hMem hKey]

theorem get?_eq_none_iff : docs.get? k = none ↔ ∀ doc ∈ docs.docs, key doc ≠ k := by
  simp [get?]

theorem key_of_get? (h : docs.get? k = some doc) : key doc = k :=
  (docs.get?_eq_some_iff.mp h).2

theorem get?_of_mem (h : doc ∈ docs.docs) : docs.get? (key doc) = some doc :=
  docs.get?_eq_some_iff.mpr ⟨h, rfl⟩

/-- Rewrite the document with key `k`, keeping its key. -/
def modify (k : K) (f : V → V) (hKey : ∀ doc, key (f doc) = key doc) : Collection key where
  docs := docs.docs.map fun doc => if key doc = k then f doc else doc
  unique := by
    have hKeys : (docs.docs.map fun doc => if key doc = k then f doc else doc).map key =
        docs.docs.map key := by
      rw [List.map_map]
      refine List.map_congr_left fun doc _ => ?_
      by_cases h : key doc = k <;> simp [h, hKey]
    rw [hKeys]
    exact docs.unique

/-- A lookup of the modified key sees the modification. -/
theorem get?_modify_self (hKey : ∀ doc, key (f doc) = key doc) :
    (docs.modify k f hKey).get? k = (docs.get? k).map f := by
  simp only [modify, get?]
  induction docs.docs with
  | nil => rfl
  | cons doc rest ih =>
      by_cases h : key doc = k
      · simp [h, hKey]
      · simpa [h] using ih

/-- Every other lookup is untouched. -/
theorem get?_modify_of_ne (hKey : ∀ doc, key (f doc) = key doc) (hOther : other ≠ k) :
    (docs.modify k f hKey).get? other = docs.get? other := by
  simp only [modify, get?]
  induction docs.docs with
  | nil => rfl
  | cons doc rest ih =>
      by_cases h : key doc = k
      · have hFirst : key doc ≠ other := fun hEq => hOther (hEq.symm.trans h)
        have hSecond : key (f doc) ≠ other := by rwa [hKey]
        simpa [h, hFirst, hSecond, hOther.symm] using ih
      · by_cases hSame : key doc = other
        · simp [hSame, hOther]
        · simpa [h, hSame] using ih

/-- Both cases at once, for one field of the documents. -/
theorem get?_modify_map (hKey : ∀ doc, key (f doc) = key doc) {β : Type} (field : V → β) :
    ((docs.modify k f hKey).get? other).map field =
      if other = k then (docs.get? k).map fun doc => field (f doc)
      else (docs.get? other).map field := by
  by_cases h : other = k
  · subst h
    simp [get?_modify_self, Function.comp_def]
  · simp [get?_modify_of_ne docs hKey h, h]

/-- A field the modification keeps is kept in every lookup. -/
theorem get?_modify_map_of_eq (hKey : ∀ doc, key (f doc) = key doc) {β : Type} {field : V → β}
    (hField : ∀ doc, field (f doc) = field doc) :
    ((docs.modify k f hKey).get? other).map field = (docs.get? other).map field := by
  rw [get?_modify_map]
  split
  · rename_i h
    simp only [hField, h]
  · rfl

theorem get?_modify_isSome (hKey : ∀ doc, key (f doc) = key doc) (h : (docs.get? other).isSome) :
    ((docs.modify k f hKey).get? other).isSome := by
  by_cases hOther : other = k
  · subst hOther
    rwa [get?_modify_self, Option.isSome_map]
  · rwa [get?_modify_of_ne docs hKey hOther]

/-- Every document of the modified collection was there, modified or not. -/
theorem mem_modify (hKey : ∀ doc, key (f doc) = key doc) (h : doc ∈ (docs.modify k f hKey).docs) :
    ∃ old ∈ docs.docs, doc = old ∨ doc = f old := by
  obtain ⟨old, hOld, hDoc⟩ := List.mem_map.mp h
  refine ⟨old, hOld, ?_⟩
  split at hDoc
  · exact .inr hDoc.symm
  · exact .inl hDoc.symm

/-- What was modified had the key. -/
theorem mem_modify_key (hKey : ∀ doc, key (f doc) = key doc)
    (h : doc ∈ (docs.modify k f hKey).docs) :
    doc ∈ docs.docs ∨ ∃ old ∈ docs.docs, key old = k ∧ doc = f old := by
  obtain ⟨old, hOld, hDoc⟩ := List.mem_map.mp h
  split at hDoc
  · rename_i hSame
    exact .inr ⟨old, hOld, hSame, hDoc.symm⟩
  · exact .inl (hDoc ▸ hOld)

/-- Add a document with a key not yet taken. -/
def insert (doc : V) (h : docs.get? (key doc) = none) : Collection key where
  docs := docs.docs ++ [doc]
  unique := by
    rw [List.map_append, List.map_singleton]
    refine docs.unique.append (List.nodup_singleton _) fun taken hTaken hNew => ?_
    obtain ⟨old, hOld, rfl⟩ := List.mem_map.mp hTaken
    exact docs.get?_eq_none_iff.mp h old hOld (List.mem_singleton.mp hNew)

theorem get?_insert {h : docs.get? (key doc) = none} :
    (docs.insert doc h).get? other = if other = key doc then some doc else docs.get? other := by
  simp only [insert, get?, List.find?_append]
  by_cases hOther : other = key doc
  · subst hOther
    simp only [get?] at h
    simp [h]
  · simp [hOther, Ne.symm hOther]

theorem mem_insert {h : docs.get? (key doc) = none} {other : V} :
    other ∈ (docs.insert doc h).docs ↔ other ∈ docs.docs ∨ other = doc := by
  simp [insert]

/-- The documents that satisfy `p`. -/
def filter (p : V → Bool) : Collection key where
  docs := docs.docs.filter p
  unique := docs.unique.sublist (List.filter_sublist.map key)

theorem get?_filter (p : V → Bool) : (docs.filter p).get? k = (docs.get? k).filter p := by
  ext doc
  simp only [get?_eq_some_iff, Option.filter_eq_some_iff, filter, List.mem_filter]
  tauto

end Collection

end Async
