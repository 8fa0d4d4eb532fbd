import Mathlib.Data.List.Nodup
import Mathlib.Logic.Function.Basic

/-! A map from keys to sets, both in the order of insertion, of which no set is meant to
be left empty. -/

/-- The entries of a `Map` whose values are `Set`s. -/
abbrev SetMap (κ α : Type) : Type :=
  List (κ × List α)

namespace SetMap

variable {κ α : Type}

/-- Keys and values occur once, and no set is empty. -/
structure WellFormed (entries : SetMap κ α) : Prop where
  keys : (entries.map Prod.fst).Nodup
  filled : ∀ entry ∈ entries, entry.2 ≠ []
  values : ∀ entry ∈ entries, entry.2.Nodup

theorem wellFormed_nil : WellFormed ([] : SetMap κ α) :=
  ⟨List.nodup_nil, nofun, nofun⟩

variable [DecidableEq κ] {entries : SetMap κ α} {key other : κ} {value : α} {values : List α}

def members (entries : SetMap κ α) (key : κ) : List α :=
  (entries.lookup key).getD []

/-- Replace the set of a key, if there is one. -/
def update (entries : SetMap κ α) (key : κ) (f : List α → List α) : SetMap κ α :=
  entries.map fun entry => if entry.1 = key then (key, f entry.2) else entry

def delete (entries : SetMap κ α) (key : κ) : SetMap κ α :=
  entries.filter fun entry => entry.1 ≠ key

theorem lookup_update (f : List α → List α) : (entries.update key f).lookup other =
    if other = key then (entries.lookup other).map f else entries.lookup other := by
  induction entries with
  | nil => simp [update]
  | cons entry rest ih =>
      obtain ⟨first, values⟩ := entry
      rw [update] at ih
      by_cases hSame : other = first
      · subst hSame
        by_cases hKey : other = key <;> simp [update, hKey]
      · have hSkip : (other == first) = false := by simpa using hSame
        by_cases hKey : first = key
        · subst hKey
          simpa [update, hSame, List.lookup_cons, hSkip] using ih
        · simpa [update, hKey, List.lookup_cons, hSkip] using ih

theorem lookup_delete : (entries.delete key).lookup other =
    if other = key then none else entries.lookup other := by
  induction entries with
  | nil => simp [delete]
  | cons entry rest ih =>
      obtain ⟨first, values⟩ := entry
      rw [delete] at ih
      by_cases hSame : other = first
      · subst hSame
        by_cases hKey : other = key
        · simpa [delete, hKey] using ih
        · simp [delete, hKey]
      · have hSkip : (other == first) = false := by simpa using hSame
        by_cases hKey : first = key
        · subst hKey
          simpa [delete, hSame, List.lookup_cons, hSkip] using ih
        · simpa [delete, hKey, List.lookup_cons, hSkip] using ih

theorem mem_of_lookup (h : entries.lookup key = some values) : (key, values) ∈ entries := by
  obtain ⟨before, after, rfl, -⟩ := List.lookup_eq_some_iff.mp h
  simp

theorem fst_ne_of_lookup_none (h : entries.lookup key = none) :
    ∀ entry ∈ entries, entry.1 ≠ key := by
  intro entry hEntry hKey
  have hNone := List.lookup_eq_none_iff.mp h entry hEntry
  simp [hKey] at hNone

namespace WellFormed

variable (h : entries.WellFormed)
include h

/-- The entries are what is looked up. -/
theorem members_of_mem (hEntry : (key, values) ∈ entries) : entries.members key = values := by
  cases hLookup : entries.lookup key with
  | none => exact absurd rfl (fst_ne_of_lookup_none hLookup _ hEntry)
  | some found =>
      have hSame : (key, found) = (key, values) :=
        List.inj_on_of_nodup_map h.keys (mem_of_lookup hLookup) hEntry rfl
      rw [members, hLookup, (Prod.mk.inj hSame).2]
      rfl

theorem members_nodup (key : κ) : (entries.members key).Nodup := by
  cases hLookup : entries.lookup key with
  | none => simp [members, hLookup]
  | some found =>
      rw [members, hLookup]
      exact h.values _ (mem_of_lookup hLookup)

theorem delete (key : κ) : (entries.delete key).WellFormed where
  keys := h.keys.sublist (List.filter_sublist.map _)
  filled entry hEntry := h.filled entry (List.mem_of_mem_filter hEntry)
  values entry hEntry := h.values entry (List.mem_of_mem_filter hEntry)

/-- An update is judged by what it makes of the set that is there. -/
theorem update {f : List α → List α}
    (hf : ∀ values, entries.lookup key = some values → values.Nodup →
      f values ≠ [] ∧ (f values).Nodup) :
    (entries.update key f).WellFormed := by
  have hEntry : ∀ entry ∈ entries.update key f, entry.2 ≠ [] ∧ entry.2.Nodup := by
    intro entry hMem
    obtain ⟨⟨first, values⟩, hBefore, rfl⟩ := List.mem_map.mp hMem
    by_cases hKey : first = key
    · subst hKey
      rw [if_pos rfl]
      have hFound := h.members_of_mem hBefore
      cases hLookup : entries.lookup first with
      | none => exact absurd rfl (fst_ne_of_lookup_none hLookup _ hBefore)
      | some found =>
          rw [members, hLookup, Option.getD_some] at hFound
          exact hf values (hFound ▸ hLookup) (h.values _ hBefore)
    · rw [if_neg hKey]
      exact ⟨h.filled _ hBefore, h.values _ hBefore⟩
  refine ⟨?_, fun entry hMem => (hEntry entry hMem).1, fun entry hMem => (hEntry entry hMem).2⟩
  have hKeys : (entries.update key f).map Prod.fst = entries.map Prod.fst := by
    rw [SetMap.update, List.map_map]
    refine List.map_congr_left fun entry _ => ?_
    by_cases hKey : entry.1 = key <;> simp [hKey]
  exact hKeys ▸ h.keys

end WellFormed

variable [DecidableEq α]

/-- Add to the set of a key, or begin one. -/
def add (entries : SetMap κ α) (key : κ) (value : α) : SetMap κ α :=
  match entries.lookup key with
  | some _ => entries.update key fun values => if value ∈ values then values else values ++ [value]
  | none => entries ++ [(key, [value])]

/-- Delete from the set of a key, and the key with its last value. -/
def discard (entries : SetMap κ α) (key : κ) (value : α) : SetMap κ α :=
  match entries.lookup key with
  | some values =>
      if values.erase value = [] then entries.delete key
      else entries.update key fun values => values.erase value
  | none => entries

theorem members_add : (entries.add key value).members =
    Function.update entries.members key
      (if value ∈ entries.members key then entries.members key
      else entries.members key ++ [value]) := by
  funext other
  cases hLookup : entries.lookup key with
  | none =>
      simp only [add, hLookup, members, List.lookup_append, Option.getD_none]
      by_cases hKey : other = key
      · subst hKey
        simp [hLookup]
      · have hSkip : (other == key) = false := by simpa using hKey
        simp [members, hKey, List.lookup_cons, hSkip]
  | some found =>
      simp only [add, hLookup, members, lookup_update, Option.getD_some]
      by_cases hKey : other = key
      · subst hKey
        simp [hLookup]
      · simp [members, hKey]

/-- Deleting an emptied set is not seen from the members. -/
theorem members_discard : (entries.discard key value).members =
    Function.update entries.members key ((entries.members key).erase value) := by
  funext other
  cases hLookup : entries.lookup key with
  | none =>
      simp only [discard, hLookup, members, Option.getD_none, List.erase_nil]
      by_cases hKey : other = key
      · subst hKey
        simp [hLookup]
      · simp [members, hKey]
  | some found =>
      simp only [discard, hLookup, members, Option.getD_some]
      by_cases hKey : other = key
      · subst hKey
        split <;> simp [lookup_delete, lookup_update, *]
      · split <;> simp [members, lookup_delete, lookup_update, hKey]

theorem mem_members_add (added : α) : value ∈ (entries.add key added).members other ↔
    value ∈ entries.members other ∨ (other = key ∧ value = added) := by
  rw [members_add]
  by_cases hKey : other = key
  · subst hKey
    by_cases hAdded : added ∈ entries.members other
    · simp only [Function.update_self, if_pos hAdded, true_and]
      exact ⟨.inl, fun h => h.elim id (· ▸ hAdded)⟩
    · simp [hAdded]
  · simp [hKey]

/-- A value that is discarded is gone, and it alone. -/
theorem WellFormed.mem_members_discard (h : entries.WellFormed) (gone : α) :
    value ∈ (entries.discard key gone).members other ↔
      value ∈ entries.members other ∧ ¬(other = key ∧ value = gone) := by
  rw [members_discard]
  by_cases hKey : other = key
  · subst hKey
    rw [Function.update_self, (h.members_nodup other).mem_erase_iff, and_comm]
    simp
  · simp [hKey]

theorem WellFormed.add (h : entries.WellFormed) (key : κ) (value : α) :
    (entries.add key value).WellFormed := by
  cases hLookup : entries.lookup key with
  | none =>
      simp only [SetMap.add, hLookup]
      have hFresh : key ∉ entries.map Prod.fst := by
        rintro hKey
        obtain ⟨entry, hEntry, hSame⟩ := List.mem_map.mp hKey
        exact fst_ne_of_lookup_none hLookup entry hEntry hSame
      refine ⟨?_, fun entry hEntry => ?_, fun entry hEntry => ?_⟩
      · rw [List.map_append, List.nodup_append]
        refine ⟨h.keys, List.nodup_singleton key, ?_⟩
        rintro first hFirst second hSecond rfl
        obtain rfl : first = key := List.mem_singleton.mp hSecond
        exact hFresh hFirst
      · rcases List.mem_append.mp hEntry with hOld | hNew
        · exact h.filled _ hOld
        · rw [List.mem_singleton.mp hNew]
          exact List.cons_ne_nil _ _
      · rcases List.mem_append.mp hEntry with hOld | hNew
        · exact h.values _ hOld
        · rw [List.mem_singleton.mp hNew]
          exact List.nodup_singleton _
  | some found =>
      simp only [SetMap.add, hLookup]
      refine h.update fun values hValues hNodup => ?_
      split
      · exact ⟨h.filled _ (mem_of_lookup hValues), hNodup⟩
      · rename_i hNew
        exact ⟨by simp, List.concat_eq_append ▸ hNodup.concat hNew⟩

theorem WellFormed.discard (h : entries.WellFormed) (key : κ) (value : α) :
    (entries.discard key value).WellFormed := by
  cases hLookup : entries.lookup key with
  | none => simpa only [SetMap.discard, hLookup] using h
  | some found =>
      simp only [SetMap.discard, hLookup]
      split
      · exact h.delete key
      · rename_i hLeft
        refine h.update fun values hValues hNodup => ⟨?_, hNodup.erase value⟩
        rwa [Option.some.inj (hValues.symm.trans hLookup)]

end SetMap
