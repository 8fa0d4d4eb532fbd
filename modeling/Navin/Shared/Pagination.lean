import Mathlib.Data.List.Basic
import Mathlib.Tactic.Ring

/-! Offset pages of a list, as `skip` and `limit` cut them. -/
namespace Navin

/-- Pages count from one; page zero is the first page again. -/
def offsetSkip (page limit : Nat) : Nat :=
  (page - 1) * limit

/-- A limit of zero is no limit. -/
def window {α : Type} (skip limit : Nat) (entries : List α) : List α :=
  if limit = 0 then entries.drop skip else (entries.drop skip).take limit

variable {α : Type} {entries : List α} {entry : α} {limit : Nat}

theorem mem_of_mem_window {skip : Nat} (h : entry ∈ window skip limit entries) :
    entry ∈ entries := by
  unfold window at h
  split at h
  · exact List.mem_of_mem_drop h
  · exact List.mem_of_mem_drop (List.mem_of_mem_take h)

/-- Every entry is on some page. -/
theorem exists_mem_window (h : entry ∈ entries) (hLimit : 0 < limit) :
    ∃ page, entry ∈ window (offsetSkip page limit) limit entries := by
  obtain ⟨index, hIndex, rfl⟩ := List.getElem_of_mem h
  refine ⟨index / limit + 1, ?_⟩
  have hStart : offsetSkip (index / limit + 1) limit + index % limit = index := by
    rw [offsetSkip, Nat.add_sub_cancel, mul_comm]
    exact Nat.div_add_mod index limit
  have hOffset : index % limit < limit := Nat.mod_lt index hLimit
  rw [window, if_neg hLimit.ne', List.mem_take_iff_getElem]
  refine ⟨index % limit, ?_, ?_⟩
  · rw [List.length_drop]
    omega
  · simp only [List.getElem_drop, hStart]

/-- The pages together hold exactly the entries. -/
theorem mem_pages_iff (hLimit : 0 < limit) :
    (∃ page, entry ∈ window (offsetSkip page limit) limit entries) ↔ entry ∈ entries :=
  ⟨fun ⟨_, h⟩ => mem_of_mem_window h, fun h => exists_mem_window h hLimit⟩

end Navin
