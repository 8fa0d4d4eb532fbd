import Navin.Semantics.Aggregation
import Navin.Shared.UtcCalendar

/-! What the aggregation pipelines of the models and the code that reads their results
share. -/
namespace Navin

open Aggregation (Document Expr Accumulator matching run)

/-- A date field as it is stored. -/
def storedDate : Option Date → Aggregation.Value
  | none => .null
  | some date => .date date.ms

/-- What the models put before every pipeline. -/
def softDeleteStage : Aggregation.Stage :=
  matching [⟨"deletedAt", .eq, .null⟩]

theorem allHold_deletedAt {document : Document} {deletedAt : Option Date}
    (h : document "deletedAt" = some (storedDate deletedAt)) :
    Aggregation.allHold [⟨"deletedAt", .eq, .null⟩] document =
      some (decide (deletedAt = none)) := by
  cases deletedAt with
  | none => exact Aggregation.allHold_cons (Aggregation.holds_eq h _) Aggregation.allHold_nil
  | some date => exact Aggregation.allHold_cons (Aggregation.holds_eq h _) Aggregation.allHold_nil

section Matching

variable {α : Type} {items : List α} {document : α → Document} {deletedAt : α → Option Date}

/-- The stages that a pipeline of a model starts with. -/
theorem run_softDelete_matching {conditions : List Aggregation.Condition} {kept : α → Bool}
    (hDeleted : ∀ item, document item "deletedAt" = some (storedDate (deletedAt item)))
    (hKept : ∀ item ∈ items, Aggregation.allHold conditions (document item) =
      some (kept item)) :
    run [softDeleteStage, matching conditions] (items.map document) =
      some ((items.filter fun item => deletedAt item = none && kept item).map document) := by
  rw [run, softDeleteStage,
    Aggregation.matching_map fun item _ => allHold_deletedAt (hDeleted item), Option.bind_some,
    run, Aggregation.matching_map fun item hItem => hKept item (List.mem_of_mem_filter hItem),
    Option.bind_some, run, List.filter_filter]
  simp only [Bool.and_comm]

end Matching

/-- A number that an aggregation always writes. -/
def numberField (row : Document) (name : String) : ℚ :=
  ((row name).bind Aggregation.Value.number?).getD 0

/-- `{ $sum: { $cond: [condition, 1, 0] } }`. -/
def countIf (condition : Expr) : Accumulator :=
  .sum (.cond condition (.const (.number 1)) (.const (.number 0)))

section Counts

variable {α : Type} {items : List α} {document : α → Document}

theorem sum_map_ite_one (items : List α) (counted : α → Bool) :
    (items.map fun item => if counted item then (1 : ℚ) else 0).sum =
      (items.filter counted).length := by
  induction items with
  | nil => simp
  | cons item rest ih =>
      cases hCounted : counted item with
      | true =>
          rw [List.map_cons, List.sum_cons, ih, List.filter_cons_of_pos hCounted]
          simp [hCounted, add_comm]
      | false =>
          rw [List.map_cons, List.sum_cons, ih, List.filter_cons_of_neg (by simp [hCounted])]
          simp [hCounted]

theorem countIf_over {condition : Expr} {counted : α → Bool}
    (h : ∀ item ∈ items, condition.of (document item) = some (some (.bool (counted item)))) :
    (countIf condition).over (items.map document) =
      some (.number (items.filter counted).length) := by
  have hValue : ∀ item ∈ items, Expr.of (.cond condition (.const (.number 1))
      (.const (.number 0))) (document item) =
        some (some (.number (if counted item then 1 else 0))) := by
    intro item hItem
    have hCondition : condition.eval (document item) (fun _ => none) = _ := h item hItem
    rw [Expr.of, Expr.eval, hCondition, Option.bind_some, Aggregation.Value.truthy]
    cases counted item <;> rfl
  rw [countIf, Aggregation.sum_over_map hValue, sum_map_ite_one]

theorem count_over : (Accumulator.sum (.const (.number 1))).over (items.map document) =
    some (.number items.length) := by
  rw [@Aggregation.sum_over_map _ _ _ _ (fun _ => 1) fun item _ => rfl]
  simp

end Counts

/-- The documents that one pipeline of a `$facet` leaves. -/
def facetRows (result : Document) (name : String) : List Document :=
  match result name with
  | some (.array rows) => rows.filterMap Aggregation.Value.document?
  | _ => []

theorem facetRows_of_array {result : Document} {name : String} {rows : List Document}
    (h : result name = some (.array (rows.map .document))) : facetRows result name = rows := by
  rw [facetRows, h]
  simp only [List.filterMap_map]
  exact List.filterMap_some

/-- A `Map` of the entries: the last one under a key counts. -/
def mapOfEntries {κ β : Type} [DecidableEq κ] (entries : List (κ × β)) (key : κ) : Option β :=
  entries.reverse.lookup key

section Maps

variable {κ β γ : Type} [DecidableEq κ]

theorem lookup_map_getD {key : κ} {read : β → γ} {absent value : γ} {entries : List (κ × β)}
    (hSome : ∀ entry ∈ entries, entry.1 = key → read entry.2 = value)
    (hNone : (∀ entry ∈ entries, entry.1 ≠ key) → value = absent) :
    ((entries.lookup key).map read).getD absent = value := by
  induction entries with
  | nil => exact (hNone (by simp)).symm
  | cons entry rest ih =>
      by_cases hKey : key = entry.1
      · rw [List.lookup_cons, beq_iff_eq.mpr hKey]
        exact hSome entry List.mem_cons_self hKey.symm
      · rw [List.lookup_cons, beq_eq_false_iff_ne.mpr hKey]
        refine ih (fun other hOther => hSome other (List.mem_cons_of_mem entry hOther))
          fun hRest => hNone fun other hOther => ?_
        rcases List.mem_cons.mp hOther with rfl | hOther
        · exact Ne.symm hKey
        · exact hRest other hOther

/-- What is read under a key of a `Map`, where all its entries under that key agree. -/
theorem mapOfEntries_map_getD {key : κ} {read : β → γ} {absent value : γ}
    {entries : List (κ × β)}
    (hSome : ∀ entry ∈ entries, entry.1 = key → read entry.2 = value)
    (hNone : (∀ entry ∈ entries, entry.1 ≠ key) → value = absent) :
    ((mapOfEntries entries key).map read).getD absent = value :=
  lookup_map_getD (fun entry hEntry => hSome entry (List.mem_reverse.mp hEntry))
    fun hAll => hNone fun entry hEntry => hAll entry (List.mem_reverse.mpr hEntry)

theorem mapOfEntries_getD {key : κ} {absent value : β} {entries : List (κ × β)}
    (hSome : ∀ entry ∈ entries, entry.1 = key → entry.2 = value)
    (hNone : (∀ entry ∈ entries, entry.1 ≠ key) → value = absent) :
    (mapOfEntries entries key).getD absent = value := by
  have hRead := @mapOfEntries_map_getD _ _ _ _ key id absent value entries hSome hNone
  rwa [Option.map_id] at hRead

end Maps

end Navin
