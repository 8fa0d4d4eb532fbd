import Mathlib.Data.List.Basic

/-! Update documents of a document database, and `updateOne` with `upsert`: the
first selected document gets the fields of `$set`; if there is none, a document
with the fields of both operators is inserted. -/
namespace Database

abbrev Document (Value : Type) : Type := String → Option Value

structure UpdateDocument (Value : Type) where
  setOnInsert : List (String × Value)
  set : List (String × Value)

variable {Value : Type}

/-- Write fields over those of a document. -/
def Document.write (document : Document Value) (fields : List (String × Value)) :
    Document Value :=
  fun field => (fields.lookup field).or (document field)

namespace UpdateDocument

variable (update : UpdateDocument Value)

/-- Both operators name a field, which the database rejects. -/
def conflicts : Bool :=
  update.setOnInsert.any fun field => (update.set.lookup field.1).isSome

def inserted : Document Value :=
  Document.write (fun _ => none) (update.set ++ update.setOnInsert)

end UpdateDocument

/-- The documents after `updateOne`, and whether one was inserted. -/
def updateOne (selects : Document Value → Bool) (update : UpdateDocument Value) :
    List (Document Value) → List (Document Value) × Bool
  | [] => ([update.inserted], true)
  | document :: rest =>
      if selects document then (document.write update.set :: rest, false)
      else
        let (rest, upserted) := updateOne selects update rest
        (document :: rest, upserted)

section Lemmas

variable {selects : Document Value → Bool} {update : UpdateDocument Value}
  {before after documents : List (Document Value)} {document : Document Value}

theorem updateOne_of_none (h : ∀ document ∈ documents, selects document = false) :
    updateOne selects update documents = (documents ++ [update.inserted], true) := by
  induction documents with
  | nil => rfl
  | cons document rest ih =>
      rw [List.forall_mem_cons] at h
      rw [updateOne, if_neg (by simp [h.1]), ih h.2]
      rfl

theorem updateOne_of_selected (hBefore : ∀ document ∈ before, selects document = false)
    (hSelected : selects document) :
    updateOne selects update (before ++ document :: after) =
      (before ++ document.write update.set :: after, false) := by
  induction before with
  | nil => exact if_pos hSelected
  | cons first rest ih =>
      rw [List.forall_mem_cons] at hBefore
      rw [List.cons_append, updateOne, if_neg (by simp [hBefore.1]), ih hBefore.2]
      rfl

end Lemmas

end Database
