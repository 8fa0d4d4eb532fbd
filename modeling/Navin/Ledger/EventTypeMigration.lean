import Mathlib.Data.List.Forall2
import Mathlib.Tactic.Tauto
import Navin.Semantics.MongoStore

/-! The migration that fills in `milestoneEvent` from the older `eventType` and drops the
index of the latter. It may be cut off, and run again. -/
namespace Navin

section Migration

variable (S : Type)

def ledgerBlocksName : String := "ledgerblocks"

def eventTypeIndex : String := "eventType_1_createdAt_-1"

/-- The blocks that have the older field only. -/
def backfillFilter : Mongo.Filter :=
  .and (.and (.present "eventType") (.notNull "eventType"))
    (.or (.absent "milestoneEvent") (.null "milestoneEvent"))

abbrev MigrationM : Type → Type :=
  Async.Program (Mongo.Call S) (fun _ => Unit) Mongo.ServerError

variable {S}

/-- A missing index is skipped. -/
def skipMissingIndex (err : Mongo.ServerError) : MigrationM S Unit :=
  if err.codeName = "IndexNotFound" ∨ err.code = 27 then pure () else throw err

/-- `up(db)`, without what it logs. -/
def up : MigrationM S Unit := do
  Async.Program.await (.updateMany ledgerBlocksName backfillFilter
    (Mongo.setFrom "milestoneEvent" "eventType"))
  tryCatch (Async.Program.await (.dropIndex ledgerBlocksName eventTypeIndex)) skipMissingIndex

end Migration

section Runs

variable {S : Type}

/-- A database after the migration, and whether it was rejected. -/
def runUp (db : Mongo.Database S) : Mongo.Database S × Except Mongo.ServerError Unit :=
  let run := up.run (Mongo.server S) (fun _ => ()) db
  (run.1, run.2.1)

/-- A database when the migration is cut off after so many commands. -/
def cutUp (commands : Nat) (db : Mongo.Database S) : Mongo.Database S :=
  @Async.Program.interrupted _ _ _ _ (Mongo.server S) up commands (fun _ => ()) db

def backfilled (collection : Mongo.Collection S) : Mongo.Collection S :=
  collection.updateMany backfillFilter (Mongo.setFrom "milestoneEvent" "eventType")

def migrated (collection : Mongo.Collection S) : Mongo.Collection S :=
  (backfilled collection).dropIndex eventTypeIndex

/-- The database between the two commands. -/
def betweenSteps (db : Mongo.Database S) : Mongo.Database S :=
  Function.update db ledgerBlocksName ((db ledgerBlocksName).map backfilled)

variable {db : Mongo.Database S} {collection : Mongo.Collection S}

/-- What the second command is answered, and the database it leaves. -/
def dropAnswer (db : Mongo.Database S) : Mongo.Database S × Except Mongo.ServerError Unit :=
  Mongo.perform (betweenSteps db) (.dropIndex ledgerBlocksName eventTypeIndex)

/-- The second command decides, but a missing index is no error. -/
theorem runUp_eq (db : Mongo.Database S) : runUp db = match dropAnswer db with
    | (dropped, .ok ()) => (dropped, .ok ())
    | (dropped, .error err) =>
        (dropped, if err.codeName = "IndexNotFound" ∨ err.code = 27 then .ok () else .error err) := by
  have hRun : up.run (Mongo.server S) (fun _ => ()) db =
      ((Async.Program.settle (dropAnswer db).2).tryCatch skipMissingIndex).run (Mongo.server S)
        (fun _ => ()) (dropAnswer db).1 := rfl
  rw [runUp, hRun]
  rcases dropAnswer db with ⟨dropped, err | ⟨⟩⟩
  · simp only [Async.Program.settle, Async.Program.tryCatch, skipMissingIndex]
    split <;> rfl
  · rfl

/-- Without the collection the drop of the index fails with an error that is passed on. -/
theorem runUp_absent (h : db ledgerBlocksName = none) :
    runUp db = (db, .error Mongo.namespaceNotFound) := by
  have hSame : Function.update db ledgerBlocksName none = db := by
    rw [← h, Function.update_eq_self]
  rw [runUp_eq, dropAnswer, betweenSteps, h, Option.map_none, hSame]
  simp only [Mongo.perform, h]
  rfl

theorem runUp_present (h : db ledgerBlocksName = some collection) :
    runUp db = (Function.update db ledgerBlocksName (some (migrated collection)), .ok ()) := by
  rw [runUp_eq, dropAnswer, betweenSteps, h, Option.map_some]
  simp only [Mongo.perform, Function.update_self, Function.update_idem]
  by_cases hIndex : eventTypeIndex ∈ (backfilled collection).indexes
  · rw [if_pos hIndex]
    rfl
  · rw [if_neg hIndex, migrated, Mongo.Collection.dropIndex_of_not_mem hIndex]
    rfl

theorem runUp_ledgerBlocks (h : db ledgerBlocksName = some collection) :
    (runUp db).1 ledgerBlocksName = some (migrated collection) := by
  simp only [runUp_present h, Function.update_self]

/-- Where a run can be cut off. -/
theorem cutUp_cases (commands : Nat) (db : Mongo.Database S) :
    cutUp commands db = db ∨ cutUp commands db = betweenSteps db ∨
      cutUp commands db = (runUp db).1 := by
  match commands with
  | 0 => exact .inl rfl
  | 1 =>
      right; left
      exact Async.Program.interrupted_zero
  | commands + 2 =>
      right; right
      have hCut : cutUp (commands + 2) db = @Async.Program.interrupted _ _ _ _ (Mongo.server S)
          ((Async.Program.settle (dropAnswer db).2).tryCatch skipMissingIndex) commands
            (fun _ => ()) (dropAnswer db).1 := rfl
      rw [hCut, runUp_eq]
      rcases dropAnswer db with ⟨dropped, err | ⟨⟩⟩
      · simp only [Async.Program.settle, Async.Program.tryCatch, skipMissingIndex]
        split
        · exact Async.Program.interrupted_settle commands (.ok ())
        · exact Async.Program.interrupted_settle commands (.error err)
      · exact Async.Program.interrupted_settle commands (.ok ())

end Runs

section Blocks

variable {S : Type}

/-- The field holds something other than null. -/
def IsSet (block : Mongo.Document S) (field : String) : Prop :=
  ∃ value, block field = some value ∧ value.isNull = false

/-- An array that a test for null finds a null in. -/
def HoldsNull (block : Mongo.Document S) (field : String) : Prop :=
  ∃ items, block field = some (.array items) ∧ .null ∈ items

/-- What the migration is to make of a block. -/
structure Backfilled (before after : Mongo.Document S) : Prop where
  kept : IsSet before "milestoneEvent" ∨ ¬IsSet before "eventType" → after = before
  filled : ¬IsSet before "milestoneEvent" → IsSet before "eventType" →
    after = Function.update before "milestoneEvent" (before "eventType")

/-- The filter takes a field of the block for null that is an array. -/
def Misread (block : Mongo.Document S) : Prop :=
  HoldsNull block "eventType" ∧ ¬IsSet block "milestoneEvent" ∨
    HoldsNull block "milestoneEvent" ∧ IsSet block "eventType" ∧ ¬HoldsNull block "eventType"

variable {block : Mongo.Document S} {field : String}

theorem readsNull_iff :
    (block field).all Mongo.Bson.readsNull = true ↔ ¬IsSet block field ∨ HoldsNull block field := by
  cases hField : block field with
  | none => simp [IsSet, hField]
  | some value =>
      cases value with
      | array items =>
          rw [Option.all_some, Mongo.Bson.readsNull_array]
          simp [IsSet, HoldsNull, hField, Mongo.Bson.isNull]
      | _ => simp [IsSet, HoldsNull, hField, Mongo.Bson.readsNull, Mongo.Bson.isNull]

theorem isSet_of_holdsNull (h : HoldsNull block field) : IsSet block field := by
  obtain ⟨items, hItems, -⟩ := h
  exact ⟨_, hItems, rfl⟩

theorem backfillFilter_accepts : backfillFilter.accepts block = true ↔
    (IsSet block "eventType" ∧ ¬HoldsNull block "eventType") ∧
      (¬IsSet block "milestoneEvent" ∨ HoldsNull block "milestoneEvent") := by
  have hPresent : IsSet block "eventType" → (block "eventType").isSome = true := by
    rintro ⟨value, hValue, -⟩
    rw [hValue]
    rfl
  have hAbsent : (block "milestoneEvent").isNone = true → ¬IsSet block "milestoneEvent" := by
    rintro hNone ⟨value, hValue, -⟩
    rw [hValue] at hNone
    cases hNone
  simp only [backfillFilter, Mongo.Filter.accepts, Bool.and_eq_true, Bool.or_eq_true,
    Bool.not_eq_true', ← Bool.not_eq_true, readsNull_iff]
  tauto

/-- What is filled in is let go of by the filter. -/
theorem backfillFilter_setFrom (h : backfillFilter.accepts block = true) :
    backfillFilter.accepts (Mongo.setFrom "milestoneEvent" "eventType" block) = false := by
  obtain ⟨⟨hSet, hArray⟩, -⟩ := backfillFilter_accepts.mp h
  have hEvent : Mongo.setFrom "milestoneEvent" "eventType" block "milestoneEvent" =
      block "eventType" := Function.update_self _ _ _
  rw [← Bool.not_eq_true, backfillFilter_accepts]
  rintro ⟨-, hUnset | hHolds⟩
  · exact hUnset (by rwa [IsSet, hEvent])
  · exact hArray (by rwa [HoldsNull, hEvent] at hHolds)

/-- The update makes of a block what it is to be, unless it takes an array for null. -/
theorem backfilled_iff : Backfilled block (if backfillFilter.accepts block then
    Mongo.setFrom "milestoneEvent" "eventType" block else block) ↔ ¬Misread block := by
  by_cases hAccepts : backfillFilter.accepts block = true
  · rw [if_pos hAccepts]
    obtain ⟨⟨hType, hTypeArray⟩, hEvent⟩ := backfillFilter_accepts.mp hAccepts
    constructor
    · rintro hBackfilled (⟨hArray, -⟩ | ⟨hArray, -⟩)
      · exact hTypeArray hArray
      · have hKept := congrFun (hBackfilled.kept (.inl (isSet_of_holdsNull hArray)))
          "milestoneEvent"
        rw [Mongo.setFrom, Function.update_self] at hKept
        exact hTypeArray (by rwa [HoldsNull, hKept])
    · intro hRead
      have hUnset : ¬IsSet block "milestoneEvent" :=
        hEvent.resolve_right fun hArray => hRead (.inr ⟨hArray, hType, hTypeArray⟩)
      exact ⟨fun h => (h.elim hUnset fun hNone => hNone hType).elim, fun _ _ => rfl⟩
  · rw [if_neg hAccepts]
    rw [backfillFilter_accepts] at hAccepts
    constructor
    · rintro hBackfilled (⟨hArray, hUnset⟩ | ⟨hArray, hType, hTypeArray⟩)
      · have hType := isSet_of_holdsNull hArray
        have hFilled := congrFun (hBackfilled.filled hUnset hType) "milestoneEvent"
        rw [Function.update_self] at hFilled
        exact hUnset (by rwa [IsSet, hFilled])
      · exact hAccepts ⟨⟨hType, hTypeArray⟩, .inr hArray⟩
    · refine fun hRead => ⟨fun _ => rfl, fun hUnset hType => ?_⟩
      refine (hAccepts ⟨⟨hType, fun hArray => hRead ?_⟩, .inl hUnset⟩).elim
      exact .inl ⟨hArray, hUnset⟩

end Blocks

section Databases

variable {S : Type} {db : Mongo.Database S} {collection : Mongo.Collection S}

def ledgerBlocks (db : Mongo.Database S) : List (Mongo.Document S) :=
  (db ledgerBlocksName).elim [] (·.documents)

/-- The migration as it is meant to be, on one database. -/
structure UpMeets (db : Mongo.Database S) : Prop where
  succeeds : (runUp db).2 = .ok ()
  noneLeft : ∀ block ∈ ledgerBlocks (runUp db).1,
    IsSet block "eventType" → IsSet block "milestoneEvent"
  each : List.Forall₂ Backfilled (ledgerBlocks db) (ledgerBlocks (runUp db).1)
  again : runUp (runUp db).1 = ((runUp db).1, .ok ())
  resumed : ∀ commands, runUp (cutUp commands db) = runUp db

theorem backfilled_backfilled (collection : Mongo.Collection S) :
    backfilled (backfilled collection) = backfilled collection :=
  Mongo.Collection.updateMany_updateMany fun _ _ => backfillFilter_setFrom

theorem migrated_backfilled (collection : Mongo.Collection S) :
    migrated (backfilled collection) = migrated collection := by
  rw [migrated, backfilled_backfilled, migrated]

theorem migrated_migrated (collection : Mongo.Collection S) :
    migrated (migrated collection) = migrated collection := by
  have hCommutes : backfilled (migrated collection) =
      (backfilled (backfilled collection)).dropIndex eventTypeIndex := rfl
  rw [migrated, hCommutes, backfilled_backfilled,
    Mongo.Collection.dropIndex_of_not_mem (Mongo.Collection.not_mem_dropIndex _), migrated]

/-- Wherever a run of the migration was cut off, the next one ends in the same state. -/
theorem runUp_cutUp (h : db ledgerBlocksName = some collection) (commands : Nat) :
    runUp (cutUp commands db) = runUp db := by
  have hRun := runUp_present h
  rcases cutUp_cases commands db with hCut | hCut | hCut
  · rw [hCut]
  · have hBetween : betweenSteps db ledgerBlocksName = some (backfilled collection) := by
      rw [betweenSteps, Function.update_self, h, Option.map_some]
    rw [hCut, runUp_present hBetween, hRun, migrated_backfilled, betweenSteps,
      Function.update_idem]
  · rw [hCut, runUp_present (runUp_ledgerBlocks h), hRun, migrated_migrated, Function.update_idem]

theorem runUp_runUp (h : db ledgerBlocksName = some collection) :
    runUp (runUp db).1 = ((runUp db).1, .ok ()) := by
  rw [runUp_present (runUp_ledgerBlocks h), runUp_present h, migrated_migrated,
    Function.update_idem]

theorem ledgerBlocks_runUp (h : db ledgerBlocksName = some collection) :
    ledgerBlocks (runUp db).1 = collection.documents.map fun block =>
      if backfillFilter.accepts block then Mongo.setFrom "milestoneEvent" "eventType" block
      else block := by
  rw [ledgerBlocks, runUp_ledgerBlocks h]
  rfl

theorem Backfilled.isSet {before after : Mongo.Document S} (h : Backfilled before after)
    (hType : IsSet after "eventType") : IsSet after "milestoneEvent" := by
  by_cases hEvent : IsSet before "milestoneEvent"
  · rwa [h.kept (.inl hEvent)]
  by_cases hBefore : IsSet before "eventType"
  · have hFilled := congrFun (h.filled hEvent hBefore) "milestoneEvent"
    rw [Function.update_self] at hFilled
    rwa [IsSet, hFilled]
  · rw [h.kept (.inr hBefore)] at hType
    exact (hBefore hType).elim

/-- The migration does what it is meant to do if and only if the collection is there and
no array is taken for null. -/
theorem up_meets_iff (db : Mongo.Database S) : UpMeets db ↔
    ∃ collection, db ledgerBlocksName = some collection ∧
      ∀ block ∈ collection.documents, ¬Misread block := by
  constructor
  · intro hMeets
    cases h : db ledgerBlocksName with
    | none =>
        have hRejected := hMeets.succeeds
        rw [runUp_absent h] at hRejected
        cases hRejected
    | some collection =>
        have hEach := hMeets.each
        rw [ledgerBlocks_runUp h, ledgerBlocks, h, Option.elim_some,
          List.forall₂_map_right_iff, List.forall₂_same] at hEach
        exact ⟨collection, rfl, fun block hBlock => backfilled_iff.mp (hEach block hBlock)⟩
  · rintro ⟨collection, h, hRead⟩
    have hEach : List.Forall₂ Backfilled (ledgerBlocks db) (ledgerBlocks (runUp db).1) := by
      rw [ledgerBlocks_runUp h, ledgerBlocks, h, Option.elim_some, List.forall₂_map_right_iff,
        List.forall₂_same]
      exact fun block hBlock => backfilled_iff.mpr (hRead block hBlock)
    exact {
      succeeds := congrArg Prod.snd (runUp_present h)
      noneLeft := by
        intro block hBlock hType
        rw [ledgerBlocks_runUp h] at hBlock
        obtain ⟨before, hBefore, rfl⟩ := List.mem_map.mp hBlock
        exact (backfilled_iff.mpr (hRead before hBefore)).isSet hType
      each := hEach
      again := runUp_runUp h
      resumed := runUp_cutUp h }

/-- On a fresh database the migration is rejected. -/
theorem up_rejected_fresh : ¬∀ db : Mongo.Database String, UpMeets db := by
  intro hClaim
  have hRejected := (hClaim fun _ => none).succeeds
  rw [runUp_absent rfl] at hRejected
  cases hRejected

end Databases

end Navin
