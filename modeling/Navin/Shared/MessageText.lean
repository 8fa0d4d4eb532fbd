import Navin.Shared.Json
import Navin.Shared.ObjectId

/-! What the runtime and the database driver make of a value that a client sent in the
place of an identifier: its text in a template, and the filter it becomes. -/
namespace Navin

/-- `String(date)`, in the server's time zone. -/
class DateText where
  text : Date → String

namespace Value

/-- What `if (value)` asks. -/
def truthy : Value → Bool
  | .null => false
  | .bool value => value
  | .number value => value ≠ .zero
  | .string value => value ≠ ""
  | _ => true

def isNull : Value → Bool
  | .null => true
  | _ => false

end Value

section Digits

variable {text : String} {id : ObjectId}

theorem ObjectId.length_of_cast? (h : ObjectId.cast? text = some id) : text.length = 24 := by
  rw [ObjectId.cast?] at h
  split at h
  · rename_i hPrinted
    simp only [isPrintedId, List.length_map, Bool.and_eq_true, beq_iff_eq] at hPrinted
    exact hPrinted.1
  · cases h

theorem ObjectId.comma_of_cast? (h : ObjectId.cast? text = some id) : ',' ∉ text.toList := by
  intro hComma
  rw [ObjectId.cast?] at h
  split at h
  · rename_i hPrinted
    simp only [isPrintedId, Bool.and_eq_true, List.all_eq_true, List.contains_iff_mem] at hPrinted
    have hDigit := hPrinted.2 _ (List.mem_map_of_mem hComma)
    revert hDigit
    decide
  · cases h

theorem cast?_null : ObjectId.cast? "null" = none := by
  decide

theorem cast?_object : ObjectId.cast? "[object Object]" = none := by
  decide

end Digits

section Text

variable [DateText]

mutual

/-- `String(value)`. An object whose `toString` is one of its own properties has no
text: the property is no function. -/
def Value.text? : Value → Option String
  | .null => some "null"
  | .bool value => some (if value then "true" else "false")
  | .number value => some value.toString
  | .string value => some value
  | .date value => some (DateText.text value)
  | .array items => (itemTexts? items).map (String.intercalate ",")
  | .object properties =>
      if properties.any (·.1 = "toString") then none else some "[object Object]"

/-- The texts that `join` puts together: `null` is left blank. -/
def itemTexts? : List Value → Option (List String)
  | [] => some []
  | item :: rest =>
      (if item.isNull then some "" else item.text?).bind fun text =>
        (itemTexts? rest).map (text :: ·)

end

/-- What the driver's cast makes of one value: nothing of `null`, and of an object the
text of its `_id`. -/
def castObjectId : Value → Option (Option ObjectId)
  | .null => some none
  | .object properties =>
      let inner := ((properties.lookup "_id").join.filter (·.truthy)).bind (·.text?)
      (inner.bind ObjectId.cast?).map some
  | value => (value.text?.bind ObjectId.cast?).map some

end Text

/-- The filters that objects with query operators become, if they can be cast. -/
class QueryOperators where
  filter : List (String × Option Value) → Option (ObjectId → Bool)

variable [DateText] [QueryOperators]

/-- The filter on `_id` in `findById(value)`; there is none when the cast fails. An
array asks for any of its items. -/
def idFilter : Value → Option (ObjectId → Bool)
  | .array items => (items.mapM castObjectId).map fun ids id => ids.contains (some id)
  | .object properties =>
      if properties.any fun entry => "$".toList.isPrefixOf entry.1.toList then
        QueryOperators.filter properties
      else (castObjectId (.object properties)).map fun cast id => cast = some id
  | value => (castObjectId value).map fun cast id => cast = some id

section Identifiers

variable {text : String} {id : ObjectId}

omit [QueryOperators] in
/-- A value that is neither null nor an object is cast by its text. -/
theorem castObjectId_of_text {value : Value} (hText : value.text? = some text)
    (hId : ObjectId.cast? text = some id) : castObjectId value = some (some id) := by
  cases value with
  | null =>
      cases hText
      exact absurd hId (by simp [cast?_null])
  | object properties =>
      rw [Value.text?] at hText
      split_ifs at hText
      cases hText
      exact absurd hId (by simp [cast?_object])
  | _ => simp [castObjectId, hText, hId]

omit [QueryOperators] in
/-- Of the arrays only those of one item have the text of an identifier. -/
theorem singleton_of_text {items : List Value} (hText : (Value.array items).text? = some text)
    (hId : ObjectId.cast? text = some id) : ∃ item, items = [item] ∧ item.text? = some text := by
  rw [Value.text?, Option.map_eq_some_iff] at hText
  obtain ⟨texts, hTexts, hJoined⟩ := hText
  cases items with
  | nil =>
      cases hTexts
      subst hJoined
      have hBlank : ObjectId.cast? (String.intercalate "," []) = none := by decide
      rw [hBlank] at hId
      cases hId
  | cons item rest =>
      rw [itemTexts?, Option.bind_eq_some_iff] at hTexts
      obtain ⟨first, hFirst, hRest⟩ := hTexts
      obtain ⟨others, hOthers, rfl⟩ := Option.map_eq_some_iff.mp hRest
      cases rest with
      | nil =>
          cases hOthers
          rw [String.intercalate_singleton] at hJoined
          subst hJoined
          split_ifs at hFirst with hNull
          · cases hFirst
            exact absurd hId (by decide +revert)
          · exact ⟨item, rfl, hFirst⟩
      | cons next rest =>
          rw [itemTexts?, Option.bind_eq_some_iff] at hOthers
          obtain ⟨second, -, hOthers⟩ := hOthers
          obtain ⟨others, -, rfl⟩ := Option.map_eq_some_iff.mp hOthers
          rw [String.intercalate_cons_cons] at hJoined
          refine absurd ?_ (ObjectId.comma_of_cast? hId)
          simp [← hJoined]

/-- A value that prints as an identifier asks for no other document. -/
theorem idFilter_of_text {value : Value} {accepts : ObjectId → Bool} {other : ObjectId}
    (hText : value.text? = some text) (hId : ObjectId.cast? text = some id)
    (hFilter : idFilter value = some accepts) (hOther : accepts other = true) : other = id := by
  cases value with
  | array items =>
      obtain ⟨item, rfl, hItem⟩ := singleton_of_text hText hId
      have hCast := castObjectId_of_text hItem hId
      rw [idFilter, List.mapM_cons, hCast] at hFilter
      cases hFilter
      simpa using hOther
  | object properties =>
      rw [Value.text?] at hText
      split_ifs at hText
      cases hText
      exact absurd hId (by simp [cast?_object])
  | _ =>
      simp only [idFilter, castObjectId_of_text hText hId, Option.map_some,
        Option.some.injEq] at hFilter
      subst hFilter
      simpa [eq_comm] using hOther

end Identifiers

end Navin
