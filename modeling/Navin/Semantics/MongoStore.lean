import Navin.Semantics.Program

/-! A document store as MongoDB documents it: filters on fields, updates by filter, indexes
by name, and the errors of a command on what is not there. -/
namespace Mongo

/-- A stored value. What a scalar is does not matter here. -/
inductive Bson (S : Type) where
  | null
  | scalar (value : S)
  | array (items : List (Bson S))
  | document (fields : List (String × Bson S))

/-- A document by its fields, of which any may be missing. -/
abbrev Document (S : Type) : Type :=
  String → Option (Bson S)

inductive Filter where
  /-- `{ field: { $exists: true } }`. -/
  | present (field : String)
  /-- `{ field: { $exists: false } }`. -/
  | absent (field : String)
  /-- `{ field: null }`. -/
  | null (field : String)
  /-- `{ field: { $ne: null } }`. -/
  | notNull (field : String)
  | and (first second : Filter)
  | or (first second : Filter)

variable {S : Type}

namespace Bson

def isNull : Bson S → Bool
  | .null => true
  | _ => false

/-- A test for null finds null, and an array that has it for an item. -/
def readsNull : Bson S → Bool
  | .null => true
  | .array items => items.any isNull
  | _ => false

theorem isNull_iff {value : Bson S} : value.isNull = true ↔ value = .null := by
  cases value <;> simp [isNull]

theorem readsNull_array {items : List (Bson S)} :
    (array items).readsNull = true ↔ .null ∈ items := by
  rw [readsNull, List.any_eq_true]
  simp only [isNull_iff, exists_eq_right]

end Bson

/-- A missing field passes a test for null. -/
def Filter.accepts : Filter → Document S → Bool
  | .present field, document => (document field).isSome
  | .absent field, document => (document field).isNone
  | .null field, document => (document field).all Bson.readsNull
  | .notNull field, document => !(document field).all Bson.readsNull
  | .and first second, document => first.accepts document && second.accepts document
  | .or first second, document => first.accepts document || second.accepts document

/-- `[{ $set: { field: '$source' } }]`. -/
def setFrom (field source : String) (document : Document S) : Document S :=
  Function.update document field (document source)

structure Collection (S : Type) where
  documents : List (Document S)
  indexes : List String

abbrev Database (S : Type) : Type :=
  String → Option (Collection S)

structure ServerError where
  code : Nat
  codeName : String
deriving DecidableEq

def namespaceNotFound : ServerError := ⟨26, "NamespaceNotFound"⟩

def indexNotFound : ServerError := ⟨27, "IndexNotFound"⟩

inductive Call (S : Type) where
  | updateMany (name : String) (filter : Filter) (change : Document S → Document S)
  | dropIndex (name index : String)

def Collection.updateMany (filter : Filter) (change : Document S → Document S)
    (collection : Collection S) : Collection S :=
  { collection with documents := collection.documents.map fun document =>
      if filter.accepts document then change document else document }

def Collection.dropIndex (index : String) (collection : Collection S) : Collection S :=
  { collection with indexes := collection.indexes.filter (· ≠ index) }

/-- A filter selects nothing in a collection that is not there, and there is no index to be
dropped in it. -/
def perform (database : Database S) : Call S → Database S × Except ServerError Unit
  | .updateMany name filter change =>
      (Function.update database name ((database name).map (·.updateMany filter change)), .ok ())
  | .dropIndex name index =>
      match database name with
      | none => (database, .error namespaceNotFound)
      | some collection =>
          if index ∈ collection.indexes then
            (Function.update database name (some (collection.dropIndex index)), .ok ())
          else (database, .error indexNotFound)

/-- A server that answers every command. -/
def server (S : Type) : Async.World (Call S) (fun _ => Unit) ServerError where
  Store := Database S
  Env := Unit
  perform _ := perform

section Updates

variable {filter : Filter} {change : Document S → Document S} {collection : Collection S}

/-- What is changed so that the filter lets go of it is changed once. -/
theorem Collection.updateMany_updateMany
    (h : ∀ document ∈ collection.documents, filter.accepts document = true →
      filter.accepts (change document) = false) :
    (collection.updateMany filter change).updateMany filter change =
      collection.updateMany filter change := by
  simp only [updateMany, List.map_map]
  refine congrArg (Collection.mk · _) (List.map_congr_left fun document hDocument => ?_)
  by_cases hAccepts : filter.accepts document = true
  · simp [hAccepts, h document hDocument hAccepts]
  · simp [hAccepts]

theorem Collection.dropIndex_of_not_mem {index : String} (h : index ∉ collection.indexes) :
    collection.dropIndex index = collection := by
  refine congrArg (Collection.mk _) (List.filter_eq_self.mpr fun other hOther => ?_)
  exact decide_eq_true fun hSame => h (hSame ▸ hOther)

theorem Collection.not_mem_dropIndex (index : String) :
    index ∉ (collection.dropIndex index).indexes := by
  simp [dropIndex]

end Updates

end Mongo

namespace Async.Program

variable {Call : Type} {Answer : Call → Type} {Error α : Type} {W : World Call Answer Error}

/-- The store of a run that is cut off after so many calls. -/
def interrupted : Program Call Answer Error α → Nat → (Nat → W.Env) → W.Store → W.Store
  | .call request next, calls + 1, env, store =>
      (next (W.perform (env 0) store request).2).interrupted calls (fun n => env (n + 1))
        (W.perform (env 0) store request).1
  | _, _, _, store => store

variable {p : Program Call Answer Error α} {env : Nat → W.Env} {store : W.Store}

theorem interrupted_zero : p.interrupted 0 env store = store := by
  cases p <;> rfl

/-- A program that has settled is not cut off. -/
theorem interrupted_settle (calls : Nat) (outcome : Except Error α) :
    (settle outcome : Program Call Answer Error α).interrupted calls env store = store := by
  cases calls <;> cases outcome <;> rfl

end Async.Program
