import Mathlib.Algebra.BigOperators.Group.List.Basic
import Mathlib.Algebra.Order.Ring.Rat
import Mathlib.Data.List.Dedup
import Mathlib.Data.Rat.Floor

/-! Aggregation pipelines of MongoDB. A field may be missing, which is not the same as
null. Numbers are exact. Comparisons of arrays and documents are not covered: a pipeline
that makes one has no result here, as one that fails. -/
namespace Aggregation

/-- Values that are compared. Dates are in milliseconds. -/
inductive Scalar where
  | null
  | bool (value : Bool)
  | number (value : ℚ)
  | string (text : String)
  | id (text : String)
  | date (ms : Int)
deriving DecidableEq

inductive Value where
  | scalar (value : Scalar)
  | array (items : List Value)
  | document (fields : String → Option Value)

abbrev Document : Type :=
  String → Option Value

namespace Value

@[match_pattern] abbrev null : Value := .scalar .null

@[match_pattern] abbrev bool (value : Bool) : Value := .scalar (.bool value)

@[match_pattern] abbrev number (value : ℚ) : Value := .scalar (.number value)

@[match_pattern] abbrev string (text : String) : Value := .scalar (.string text)

@[match_pattern] abbrev date (ms : Int) : Value := .scalar (.date ms)

/-- What is compared, if it is covered: nothing for a missing field. -/
def comparable : Option Value → Option (Option Scalar)
  | none => some none
  | some (.scalar value) => some (some value)
  | some (.array _) => none
  | some (.document _) => none

def number? : Value → Option ℚ
  | number value => some value
  | _ => none

def string? : Value → Option String
  | string text => some text
  | _ => none

def date? : Value → Option Int
  | date ms => some ms
  | _ => none

def document? : Value → Option Document
  | document fields => some fields
  | _ => none

/-- Conditions hold of anything but false, zero, null and missing fields. -/
def truthy : Option Value → Bool
  | none => false
  | some null => false
  | some (bool value) => value
  | some (number value) => value ≠ 0
  | some _ => true

def isNullish : Option Value → Bool
  | none => true
  | some null => true
  | some _ => false

end Value

section Order

/-- Values of different types compare by type. -/
def Scalar.rank : Scalar → Nat
  | .null => 1
  | .number _ => 2
  | .string _ => 3
  | .id _ => 4
  | .bool _ => 5
  | .date _ => 6

def Scalar.before (first second : Scalar) : Bool :=
  match first, second with
  | .number a, .number b => a < b
  | .string a, .string b => a < b
  | .id a, .id b => a < b
  | .bool a, .bool b => !a && b
  | .date a, .date b => a < b
  | a, b => a.rank < b.rank

/-- A missing field is below every value. -/
def before : Option Scalar → Option Scalar → Bool
  | none, second => second.isSome
  | some _, none => false
  | some first, some second => first.before second

inductive Comparison where
  | eq
  | ne
  | lt
  | lte
  | gt
  | gte
deriving DecidableEq

def Comparison.holds (comparison : Comparison) (first second : Option Scalar) : Bool :=
  match comparison with
  | .eq => first = second
  | .ne => first ≠ second
  | .lt => before first second
  | .lte => before first second || first = second
  | .gt => before second first
  | .gte => before second first || first = second

theorem gte_date (first second : Int) :
    Comparison.gte.holds (some (.date first)) (some (.date second)) =
      decide (second ≤ first) := by
  rw [Bool.eq_iff_iff]
  simp only [Comparison.holds, before, Scalar.before, Bool.or_eq_true, decide_eq_true_eq,
    Option.some.injEq, Scalar.date.injEq]
  omega

theorem lte_date (first second : Int) :
    Comparison.lte.holds (some (.date first)) (some (.date second)) =
      decide (first ≤ second) := by
  rw [Bool.eq_iff_iff]
  simp only [Comparison.holds, before, Scalar.before, Bool.or_eq_true, decide_eq_true_eq,
    Option.some.injEq, Scalar.date.injEq]
  omega

end Order

section Expressions

/-- Expressions. What a date is truncated to or written as is a function of its
milliseconds; writing it may fail. -/
inductive Expr where
  | const (value : Value)
  | field (name : String)
  | variable (name : String)
  | access (document : Expr) (name : String)
  | compare (comparison : Comparison) (first second : Expr)
  | cond (condition then_ else_ : Expr)
  | subtract (first second : Expr)
  | divide (first second : Expr)
  | size (array : Expr)
  | ifNull (first second : Expr)
  | filter (input : Expr) (name : String) (condition : Expr)
  | map (input : Expr) (name : String) (body : Expr)
  | arrayElemAt (array : Expr) (index : Nat)
  | dateTrunc (date : Expr) (trunc : Int → Int)
  | dateToString (date : Expr) (write : Int → Option String)

def subtractValues : Value → Value → Option Value
  | .number a, .number b => some (.number (a - b))
  | .date a, .date b => some (.number ((a - b : Int) : ℚ))
  | .date a, .number b => some (.date (a - ⌊b⌋))
  | _, _ => none

def divideValues : Value → Value → Option Value
  | .number a, .number b => if b = 0 then none else some (.number (a / b))
  | _, _ => none

/-- Null, or nothing, makes the whole null. -/
def orNull (value : Option Value) (f : Value → Option Value) : Option (Option Value) :=
  match value with
  | none => some (some .null)
  | some .null => some (some .null)
  | some value => (f value).map some

/-- One operand that is null or missing makes the whole null. -/
def bothOrNull (first second : Option Value) (f : Value → Value → Option Value) :
    Option (Option Value) :=
  if Value.isNullish first || Value.isNullish second then some (some .null)
  else (first.bind fun first => second.bind (f first)).map some

/-- Null, or nothing, makes the whole null; nothing but an array else will do. -/
def arrayOrNull (value : Option Value) (f : List Value → Option (List Value)) :
    Option (Option Value) :=
  match value with
  | some (.array items) => (f items).map fun items => some (.array items)
  | value => if Value.isNullish value then some (some .null) else none

def bindVariable (scope : Document) (name : String) (item : Value) : Document :=
  fun other => if other = name then some item else scope other

/-- The value of an expression in a document. The outer option is none where the pipeline
fails, the inner one where the value is missing. -/
def Expr.eval (document : Document) : Expr → (scope : Document) → Option (Option Value)
  | .const value, _ => some (some value)
  | .field name, _ => some (document name)
  | .variable name, scope => some (scope name)
  | .access inner name, scope =>
      (inner.eval document scope).map fun value =>
        (value.bind Value.document?).bind fun fields => fields name
  | .compare comparison first second, scope =>
      ((first.eval document scope).bind Value.comparable).bind fun first =>
        ((second.eval document scope).bind Value.comparable).map fun second =>
          some (.bool (comparison.holds first second))
  | .cond condition then_ else_, scope =>
      (condition.eval document scope).bind fun value =>
        if Value.truthy value then then_.eval document scope else else_.eval document scope
  | .subtract first second, scope =>
      (first.eval document scope).bind fun first =>
        (second.eval document scope).bind fun second => bothOrNull first second subtractValues
  | .divide first second, scope =>
      (first.eval document scope).bind fun first =>
        (second.eval document scope).bind fun second => bothOrNull first second divideValues
  | .size array, scope =>
      (array.eval document scope).bind fun
        | some (.array items) => some (some (.number items.length))
        | _ => none
  | .ifNull first second, scope =>
      (first.eval document scope).bind fun value =>
        if Value.isNullish value then second.eval document scope else some value
  | .filter input name condition, scope =>
      (input.eval document scope).bind fun value =>
        arrayOrNull value fun items => items.filterM fun item =>
          (condition.eval document (bindVariable scope name item)).map Value.truthy
  | .map input name body, scope =>
      (input.eval document scope).bind fun value =>
        arrayOrNull value fun items => items.mapM fun item =>
          (body.eval document (bindVariable scope name item)).map (Option.getD · .null)
  | .arrayElemAt array index, scope =>
      (array.eval document scope).bind fun
        | some (.array items) => some items[index]?
        | value => if Value.isNullish value then some (some .null) else none
  | .dateTrunc date trunc, scope =>
      (date.eval document scope).bind fun value =>
        orNull value fun value => value.date?.map fun ms => .date (trunc ms)
  | .dateToString date write, scope =>
      (date.eval document scope).bind fun value =>
        orNull value fun value => (value.date?.bind write).map .string

/-- The value of an expression in a document, where no variables are bound. -/
abbrev Expr.of (expression : Expr) (document : Document) : Option (Option Value) :=
  expression.eval document fun _ => none

end Expressions

section Stages

/-- What a stage makes of the documents before it, if it does not fail. -/
abbrev Stage : Type :=
  List Document → Option (List Document)

/-- One condition of a query. A missing field is as good as null here, and an order holds
only between values of one type. -/
structure Condition where
  field : String
  comparison : Comparison
  value : Scalar

def Condition.holds (condition : Condition) (document : Document) : Option Bool :=
  (Value.comparable (document condition.field)).map fun stored =>
    let stored := stored.getD .null
    let sameType := condition.comparison = .eq ∨ condition.comparison = .ne ∨
      stored.rank = condition.value.rank
    sameType && condition.comparison.holds (some stored) (some condition.value)

def allHold (conditions : List Condition) (document : Document) : Option Bool :=
  (conditions.mapM (Condition.holds · document)).map (List.all · id)

/-- `$match`. -/
def matching (conditions : List Condition) : Stage := fun documents =>
  documents.filterM (allHold conditions)

/-- The computed fields, each on the document as it comes in. -/
def computeFields (fields : List (String × Expr)) (document : Document) :
    Option (List (String × Option Value)) :=
  fields.mapM fun field => (field.2.of document).map fun value => (field.1, value)

def withFields (computed : List (String × Option Value)) (document : Document) : Document :=
  fun name => (computed.lookup name).getD (document name)

/-- `$addFields`. -/
def addFields (fields : List (String × Expr)) : Stage := fun documents =>
  documents.mapM fun document =>
    (computeFields fields document).map fun computed => withFields computed document

def restrictTo (kept : List String) (document : Document) : Document :=
  fun name => if name ∈ kept then document name else none

/-- `$project`: the listed fields, with `_id` among them unless it is excluded, and the
computed ones. -/
def project (kept : List String) (fields : List (String × Expr)) : Stage := fun documents =>
  documents.mapM fun document => (computeFields fields document).map fun computed =>
    withFields computed (restrictTo kept document)

inductive Accumulator where
  | sum (expression : Expr)
  | avg (expression : Expr)

def Accumulator.expression : Accumulator → Expr
  | .sum expression => expression
  | .avg expression => expression

/-- Of the values that are numbers. There is no average of none. -/
def Accumulator.combine (accumulator : Accumulator) (numbers : List ℚ) : Value :=
  match accumulator with
  | .sum _ => .number numbers.sum
  | .avg _ => if numbers = [] then .null else .number (numbers.sum / numbers.length)

def numbersOf (values : List (Option Value)) : List ℚ :=
  values.filterMap (Option.bind · Value.number?)

def Accumulator.over (accumulator : Accumulator) (documents : List Document) : Option Value :=
  (documents.mapM accumulator.expression.of).map fun values =>
    accumulator.combine (numbersOf values)

def groupKey (key : Expr) (document : Document) : Option Scalar :=
  ((key.of document).bind Value.comparable).map (Option.getD · .null)

/-- The document of one group. -/
def groupRow (fields : List (String × Accumulator)) (key : Scalar) (members : List Document) :
    Option Document :=
  (fields.mapM (m := Option) fun field => (field.2.over members).map fun value => (field.1, value)).map
    fun values name => if name = "_id" then some (.scalar key) else values.lookup name

/-- `$group`. In which order the groups come out does not matter to anything here. -/
def group (key : Expr) (fields : List (String × Accumulator)) : Stage := fun documents =>
  (documents.mapM fun document => (groupKey key document).map fun key => (key, document)).bind
    fun keyed => (keyed.map Prod.fst).dedup.mapM fun key =>
      groupRow fields key ((keyed.filter (·.1 = key)).map Prod.snd)

/-- `$sort` by one field, ascending. -/
def sort (name : String) : Stage := fun documents =>
  (documents.mapM fun document =>
    (Value.comparable (document name)).map fun key => (key, document)).map fun keyed =>
      (keyed.mergeSort fun first second => !before second.1 first.1).map Prod.snd

/-- `$count`, which leaves no document where there was none. -/
def count (name : String) : Stage := fun documents =>
  some (if documents.isEmpty then []
    else [fun other => if other = name then some (.number documents.length) else none])

/-- The stages one after the other. -/
def run : List Stage → Stage
  | [], documents => some documents
  | stage :: stages, documents => (stage documents).bind (run stages)

/-- `$facet`: one document, with what each of the pipelines makes of the same documents. -/
def facet (branches : List (String × List Stage)) : Stage := fun documents =>
  (branches.mapM (m := Option) fun branch =>
    (run branch.2 documents).map fun rows => (branch.1, rows)).map fun results =>
      [fun name => (results.lookup name).map fun rows => .array (rows.map .document)]

theorem run_append (first rest : List Stage) (documents : List Document) :
    run (first ++ rest) documents = (run first documents).bind (run rest) := by
  induction first generalizing documents with
  | nil => rfl
  | cons stage stages ih =>
      rw [List.cons_append, run, run, Option.bind_assoc]
      exact congrArg _ (funext ih)

/-- A pipeline goes on with what its first two stages leave. -/
theorem run_cons_cons {first second : Stage} {documents middle : List Document}
    (h : run [first, second] documents = some middle) (rest : List Stage) :
    run (first :: second :: rest) documents = run rest middle := by
  have hAppend := run_append [first, second] rest documents
  rwa [h, Option.bind_some] at hAppend

end Stages

section Conditions

variable {document : Document} {field : String}

@[simp] theorem allHold_nil : allHold [] document = some true :=
  rfl

theorem allHold_cons {condition : Condition} {rest : List Condition} {first others : Bool}
    (hFirst : condition.holds document = some first)
    (hRest : allHold rest document = some others) :
    allHold (condition :: rest) document = some (first && others) := by
  obtain ⟨held, hHeld, hAll⟩ := Option.map_eq_some_iff.mp hRest
  rw [allHold, List.mapM_cons, hFirst, ← hAll]
  simp only [Option.pure_def, Option.bind_eq_bind, Option.bind_some, hHeld, Option.map_some,
    List.all_cons, id_eq]

theorem holds_eq {stored : Scalar} (h : document field = some (.scalar stored))
    (value : Scalar) :
    Condition.holds ⟨field, .eq, value⟩ document = some (decide (stored = value)) := by
  simp [Condition.holds, h, Value.comparable, Comparison.holds]

theorem holds_ne {stored : Scalar} (h : document field = some (.scalar stored))
    (value : Scalar) :
    Condition.holds ⟨field, .ne, value⟩ document = some (decide (stored ≠ value)) := by
  simp [Condition.holds, h, Value.comparable, Comparison.holds]

theorem holds_eq_missing (h : document field = none) (value : Scalar) :
    Condition.holds ⟨field, .eq, value⟩ document = some (decide (.null = value)) := by
  simp [Condition.holds, h, Value.comparable, Comparison.holds]

theorem holds_ne_missing (h : document field = none) (value : Scalar) :
    Condition.holds ⟨field, .ne, value⟩ document = some (decide (.null ≠ value)) := by
  simp [Condition.holds, h, Value.comparable, Comparison.holds]

/-- A missing field is before no date. -/
theorem holds_lt_date_missing (h : document field = none) (bound : Int) :
    Condition.holds ⟨field, .lt, .date bound⟩ document = some false := by
  simp [Condition.holds, h, Value.comparable, Comparison.holds, Scalar.rank]

theorem holds_gte_date {ms : Int} (h : document field = some (.date ms)) (bound : Int) :
    Condition.holds ⟨field, .gte, .date bound⟩ document = some (decide (bound ≤ ms)) := by
  simp [Condition.holds, h, Value.comparable, Scalar.rank, gte_date]

theorem holds_lte_date {ms : Int} (h : document field = some (.date ms)) (bound : Int) :
    Condition.holds ⟨field, .lte, .date bound⟩ document = some (decide (ms ≤ bound)) := by
  simp [Condition.holds, h, Value.comparable, Scalar.rank, lte_date]

end Conditions

/-! Stages on documents that represent items of some type, where none of them fails. -/
section Represented

variable {α : Type} {items : List α}

theorem mapM_of_forall {β : Type} {f : α → Option β} {value : α → β}
    (h : ∀ item ∈ items, f item = some (value item)) :
    items.mapM f = some (items.map value) := by
  induction items with
  | nil => rfl
  | cons first rest ih =>
      rw [List.mapM_cons, h first List.mem_cons_self,
        ih fun item hItem => h item (List.mem_cons_of_mem first hItem)]
      rfl

theorem mapM_of_exists {β : Type} {f : α → Option β} (h : ∃ item ∈ items, f item = none) :
    items.mapM f = none := by
  induction items with
  | nil => simp at h
  | cons first rest ih =>
      rw [List.mapM_cons]
      cases hFirst : f first with
      | none => rfl
      | some value =>
          obtain ⟨item, hItem, hNone⟩ := h
          rcases List.mem_cons.mp hItem with rfl | hRest
          · rw [hNone] at hFirst
            cases hFirst
          · rw [ih ⟨item, hRest, hNone⟩]
            rfl

theorem filterAuxM_of_forall {f : α → Option Bool} {kept : α → Bool}
    (h : ∀ item ∈ items, f item = some (kept item)) (before : List α) :
    items.filterAuxM f before = some ((items.filter kept).reverse ++ before) := by
  induction items generalizing before with
  | nil => rfl
  | cons first rest ih =>
      have hRest := ih fun item hItem => h item (List.mem_cons_of_mem first hItem)
      rw [List.filterAuxM, h first List.mem_cons_self]
      cases hKept : kept first with
      | true => simp [hRest, hKept, cond]
      | false => simp [hRest, hKept, cond]

theorem filterM_of_forall {f : α → Option Bool} {kept : α → Bool}
    (h : ∀ item ∈ items, f item = some (kept item)) :
    items.filterM f = some (items.filter kept) := by
  rw [List.filterM, filterAuxM_of_forall h]
  simp

theorem filterM_map_of_forall {β : Type} {represent : α → β} {f : β → Option Bool}
    {kept : α → Bool} (h : ∀ item ∈ items, f (represent item) = some (kept item)) :
    (items.map represent).filterM f = some ((items.filter kept).map represent) := by
  have hAll : ∀ stored ∈ items.map represent, f stored = some ((f stored).getD false) := by
    intro stored hStored
    obtain ⟨item, hItem, rfl⟩ := List.mem_map.mp hStored
    rw [h item hItem, Option.getD_some]
  rw [filterM_of_forall hAll, List.filter_map]
  refine congrArg some (congrArg (List.map represent) (List.filter_congr fun item hItem => ?_))
  rw [Function.comp_apply, h item hItem, Option.getD_some]

theorem mapM_map_of_forall {β γ : Type} {represent : α → β} {f : β → Option γ} {value : α → γ}
    (h : ∀ item ∈ items, f (represent item) = some (value item)) :
    (items.map represent).mapM f = some (items.map value) := by
  rw [List.mapM_map]
  exact mapM_of_forall h

section Arrays

variable {document scope : Document} {represent : α → Value} {name : String}

theorem eval_filter {input condition : Expr} {kept : α → Bool}
    (hInput : input.eval document scope = some (some (.array (items.map represent))))
    (hCondition : ∀ item ∈ items,
      (condition.eval document (bindVariable scope name (represent item))).map Value.truthy =
        some (kept item)) :
    (Expr.filter input name condition).eval document scope =
      some (some (.array ((items.filter kept).map represent))) := by
  have hKept := @filterM_map_of_forall α items Value represent (fun item =>
    (condition.eval document (bindVariable scope name item)).map Value.truthy) kept hCondition
  rw [Expr.eval, hInput, Option.bind_some, arrayOrNull, hKept, Option.map_some]

theorem eval_map {input body : Expr} {value : α → Value}
    (hInput : input.eval document scope = some (some (.array (items.map represent))))
    (hBody : ∀ item ∈ items,
      (body.eval document (bindVariable scope name (represent item))).map (Option.getD · .null) =
        some (value item)) :
    (Expr.map input name body).eval document scope =
      some (some (.array (items.map value))) := by
  have hValues := @mapM_map_of_forall α items Value Value represent (fun item =>
    (body.eval document (bindVariable scope name item)).map (Option.getD · .null)) value hBody
  rw [Expr.eval, hInput, Option.bind_some, arrayOrNull, hValues, Option.map_some]

theorem eval_arrayElemAt {array : Expr} {values : List Value}
    (hArray : array.eval document scope = some (some (.array values))) (index : Nat) :
    (Expr.arrayElemAt array index).eval document scope = some values[index]? := by
  rw [Expr.eval, hArray, Option.bind_some]

end Arrays

variable {document : α → Document}

theorem matching_map {conditions : List Condition} {kept : α → Bool}
    (h : ∀ item ∈ items, allHold conditions (document item) = some (kept item)) :
    matching conditions (items.map document) = some ((items.filter kept).map document) :=
  filterM_map_of_forall h

theorem addFields_map {fields : List (String × Expr)}
    {computed : α → List (String × Option Value)}
    (h : ∀ item ∈ items, computeFields fields (document item) = some (computed item)) :
    addFields fields (items.map document) =
      some (items.map fun item => withFields (computed item) (document item)) := by
  exact mapM_map_of_forall fun item hItem => by rw [h item hItem, Option.map_some]

theorem project_map {kept : List String} {fields : List (String × Expr)}
    {computed : α → List (String × Option Value)}
    (h : ∀ item ∈ items, computeFields fields (document item) = some (computed item)) :
    project kept fields (items.map document) =
      some (items.map fun item => withFields (computed item) (restrictTo kept (document item))) := by
  exact mapM_map_of_forall fun item hItem => by rw [h item hItem, Option.map_some]

/-- Sorting rearranges, where the field is one that compares. -/
theorem sort_map {name : String} {key : α → Option Scalar}
    (h : ∀ item ∈ items, Value.comparable (document item name) = some (key item)) :
    ∃ sorted : List α, sorted.Perm items ∧
      sort name (items.map document) = some (sorted.map document) := by
  have hKeyed : (items.map document).mapM (fun stored =>
      (Value.comparable (stored name)).map fun key => (key, stored)) =
        some (items.map fun item => (key item, document item)) :=
    mapM_map_of_forall fun item hItem => by rw [h item hItem, Option.map_some]
  refine ⟨items.mergeSort fun first second => !before (key second) (key first),
    List.mergeSort_perm _ _, ?_⟩
  have hSorted := @List.map_mergeSort _ _ (fun first second => !before (key second) (key first))
    (fun first second : Option Scalar × Document => !before second.1 first.1)
    (fun item => (key item, document item)) items fun _ _ _ _ => rfl
  rw [sort, hKeyed, Option.map_some, ← hSorted, List.map_map]
  rfl

theorem over_map {accumulator : Accumulator} {value : α → Option Value}
    (h : ∀ item ∈ items, accumulator.expression.of (document item) = some (value item)) :
    accumulator.over (items.map document) =
      some (accumulator.combine (numbersOf (items.map value))) := by
  rw [Accumulator.over, mapM_map_of_forall h, Option.map_some]

theorem numbersOf_numbers (items : List α) (number : α → ℚ) :
    numbersOf (items.map fun item => some (.number (number item))) = items.map number := by
  rw [numbersOf, List.filterMap_map]
  exact congrFun List.filterMap_eq_map' items

theorem sum_over_map {expression : Expr} {number : α → ℚ}
    (h : ∀ item ∈ items, expression.of (document item) = some (some (.number (number item)))) :
    (Accumulator.sum expression).over (items.map document) =
      some (.number (items.map number).sum) := by
  rw [over_map h, numbersOf_numbers]
  rfl

/-- Buckets of any type, where different ones have different keys. -/
theorem group_map_of_injective {κ : Type} [DecidableEq κ] {key : Expr}
    {fields : List (String × Accumulator)} {bucket : α → κ} {scalar : κ → Scalar}
    {row : κ → Document} (hInjective : Function.Injective scalar)
    (hKey : ∀ item ∈ items, groupKey key (document item) = some (scalar (bucket item)))
    (hRow : ∀ own ∈ items.map bucket,
      groupRow fields (scalar own) ((items.filter (bucket · = own)).map document) =
        some (row own)) :
    group key fields (items.map document) = some ((items.map bucket).dedup.map row) := by
  have hKeys : (items.map (scalar ∘ bucket)).dedup = (items.map bucket).dedup.map scalar := by
    rw [← List.map_map, List.dedup_map_of_injective hInjective]
  have hKeyed : (items.map document).mapM (fun stored =>
      (groupKey key stored).map fun key => (key, stored)) =
        some (items.map fun item => (scalar (bucket item), document item)) :=
    mapM_map_of_forall fun item hItem => by rw [hKey item hItem, Option.map_some]
  rw [group, hKeyed, Option.bind_some, List.map_map]
  refine (congrArg (List.mapM _) hKeys).trans (mapM_map_of_forall fun own hOwn => ?_)
  rw [List.filter_map, List.map_map]
  refine (congrArg (fun members : List α => groupRow fields (scalar own) (members.map document))
    (List.filter_congr fun item _ => ?_)).trans (hRow own (List.mem_dedup.mp hOwn))
  exact decide_eq_decide.mpr hInjective.eq_iff

theorem group_map {key : Expr} {fields : List (String × Accumulator)} {bucket : α → Scalar}
    {row : Scalar → Document}
    (hKey : ∀ item ∈ items, groupKey key (document item) = some (bucket item))
    (hRow : ∀ own ∈ items.map bucket,
      groupRow fields own ((items.filter (bucket · = own)).map document) = some (row own)) :
    group key fields (items.map document) = some ((items.map bucket).dedup.map row) :=
  group_map_of_injective Function.injective_id hKey hRow

theorem group_of_key_none {key : Expr} {fields : List (String × Accumulator)}
    (h : ∃ item ∈ items, groupKey key (document item) = none) :
    group key fields (items.map document) = none := by
  have hKeyed : (items.map document).mapM (fun stored =>
      (groupKey key stored).map fun key => (key, stored)) = none := by
    rw [List.mapM_map]
    obtain ⟨item, hItem, hNone⟩ := h
    exact mapM_of_exists ⟨item, hItem, by rw [Function.comp_apply, hNone, Option.map_none]⟩
  rw [group, hKeyed, Option.bind_none]

/-- All the documents in one group, which is not there without documents. -/
theorem group_const_map {key : Scalar} {fields : List (String × Accumulator)} {row : Document}
    (hRow : groupRow fields key (items.map document) = some row) :
    group (.const (.scalar key)) fields (items.map document) =
      some (if items = [] then [] else [row]) := by
  have hKeys : (items.map fun _ => key).dedup = if items = [] then [] else [key] := by
    rw [List.map_const']
    split
    next hEmpty => rw [hEmpty]; rfl
    next hSome => exact List.replicate_dedup (mt List.length_eq_zero_iff.mp hSome)
  have hGroup := @group_map α items document (.const (.scalar key)) fields (fun _ => key)
    (fun _ => row) (fun _ _ => rfl) fun other hOther => by
      obtain ⟨-, -, rfl⟩ := List.mem_map.mp hOther
      simpa using hRow
  rw [hGroup, hKeys]
  split <;> rfl

end Represented

/-! Sums over the buckets that items are put into. -/
section Buckets

variable {α κ M : Type} [DecidableEq κ] [AddCommMonoid M]

theorem sum_filter_or (items : List α) (first second : α → Bool) (amount : α → M)
    (hDisjoint : ∀ item ∈ items, first item = true → second item = false) :
    ((items.filter fun item => first item || second item).map amount).sum =
      ((items.filter first).map amount).sum + ((items.filter second).map amount).sum := by
  induction items with
  | nil => simp
  | cons item rest ih =>
      have hRest := ih fun other hOther => hDisjoint other (List.mem_cons_of_mem item hOther)
      cases hFirst : first item with
      | true =>
          have hSecond := hDisjoint item List.mem_cons_self hFirst
          simp [hFirst, hSecond, hRest, add_assoc]
      | false =>
          cases hSecond : second item with
          | true => simp [hFirst, hSecond, hRest, add_left_comm]
          | false => simp [hFirst, hSecond, hRest]

/-- What lies in buckets without repetition is summed bucket by bucket. -/
theorem sum_buckets (items : List α) (bucket : α → κ) (amount : α → M) {keys : List κ}
    (hNodup : keys.Nodup) :
    (keys.map fun key => ((items.filter (bucket · = key)).map amount).sum).sum =
      ((items.filter (bucket · ∈ keys)).map amount).sum := by
  induction keys with
  | nil => simp
  | cons key rest ih =>
      obtain ⟨hNew, hRest⟩ := List.nodup_cons.mp hNodup
      have hSplit := sum_filter_or items (bucket · = key) (bucket · ∈ rest) amount fun item _ h =>
        decide_eq_false (of_decide_eq_true h ▸ hNew)
      rw [List.map_cons, List.sum_cons, ih hRest, ← hSplit]
      simp only [List.mem_cons, Bool.decide_or]

end Buckets

end Aggregation
