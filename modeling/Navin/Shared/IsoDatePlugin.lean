import Navin.Semantics.Utf8
import Navin.Shared.CanonicalJson
import Navin.Shared.ObjectId

/-! The plugin that renders the dates of a document in JSON. It rebuilds every object that
it meets from the entries of the object, whatever class the object is of. -/
namespace Navin

open JsString

namespace Canonical

variable {S T : Type} (change : S → T)

mutual

/-- The same with other strings. -/
def mapText : Canonical S → Canonical T
  | .null => .null
  | .bool value => .bool value
  | .number value => .number value
  | .string value => .string (change value)
  | .array items => .array (mapItems items)
  | .object members => .object (mapMembers members)

def mapItems : List (Canonical S) → List (Canonical T)
  | [] => []
  | item :: rest => mapText item :: mapItems rest

def mapMembers : List (S × Canonical S) → List (T × Canonical T)
  | [] => []
  | (key, value) :: rest => (change key, mapText value) :: mapMembers rest

end

end Canonical

/-- What a response is built from. An object lists its own enumerable properties in the
order of enumeration, and any may hold `undefined`. An instance of a class also has the
plain data that the `toJSON` of the class makes of it. -/
inductive ResponseValue where
  | null
  | bool (value : Bool)
  | number (value : JsNumber)
  | string (value : JsString)
  | date (value : Date)
  | array (items : List ResponseValue)
  | object (properties : List (JsString × Option ResponseValue))
  | classInstance (properties : List (JsString × Option ResponseValue)) (toJSON : Canonical JsString)

namespace ResponseValue

mutual

def serializeValue : ResponseValue → ResponseValue
  | .date value => .string (utf16 value.toISOString)
  | .array items => .array (serializeItems items)
  | .object properties => .object ((serializeEntries properties).foldl assign [])
  | .classInstance properties _ => .object ((serializeEntries properties).foldl assign [])
  | primitive => primitive

def serializeItems : List ResponseValue → List ResponseValue
  | [] => []
  | item :: rest => serializeValue item :: serializeItems rest

/-- The entries with their values serialised; `undefined` stays. -/
def serializeEntries : List (JsString × Option ResponseValue) →
    List (JsString × Option ResponseValue)
  | [] => []
  | (key, none) :: rest => (key, none) :: serializeEntries rest
  | (key, some value) :: rest => (key, some (serializeValue value)) :: serializeEntries rest

end

/-- What the transform of the plugin returns for the properties of a document, when the
schema has no transform of its own. -/
def serializeDatesInObject (properties : List (JsString × Option ResponseValue)) :
    ResponseValue :=
  .object ((serializeEntries properties).foldl assign [])

mutual

/-- What `JSON.stringify` writes of a value: `toJSON` is called, and properties that hold
`undefined` are left out. -/
def json : ResponseValue → Canonical (List CodePoint)
  | .null => .null
  | .bool value => .bool value
  | .number value => .number value
  | .string value => .string (codePoints value)
  | .date value => .string (codePoints (utf16 value.toISOString))
  | .array items => .array (jsonItems items)
  | .object properties => .object (jsonMembers properties)
  | .classInstance _ toJSON => toJSON.mapText codePoints

def jsonItems : List ResponseValue → List (Canonical (List CodePoint))
  | [] => []
  | item :: rest => json item :: jsonItems rest

def jsonMembers : List (JsString × Option ResponseValue) →
    List (List CodePoint × Canonical (List CodePoint))
  | [] => []
  | (_, none) :: rest => jsonMembers rest
  | (key, some value) :: rest => (codePoints key, json value) :: jsonMembers rest

end

/-- `JSON.stringify(value)`. -/
def stringify (value : ResponseValue) : JsString :=
  value.json.render

mutual

/-- The same value with nothing but plain objects. -/
def withoutClasses : ResponseValue → ResponseValue
  | .array items => .array (withoutClassesItems items)
  | .object properties => .object (withoutClassesEntries properties)
  | .classInstance properties _ => .object (withoutClassesEntries properties)
  | primitive => primitive

def withoutClassesItems : List ResponseValue → List ResponseValue
  | [] => []
  | item :: rest => withoutClasses item :: withoutClassesItems rest

def withoutClassesEntries : List (JsString × Option ResponseValue) →
    List (JsString × Option ResponseValue)
  | [] => []
  | (key, none) :: rest => (key, none) :: withoutClassesEntries rest
  | (key, some value) :: rest => (key, some (withoutClasses value)) :: withoutClassesEntries rest

end

/-- The own keys of an object: distinct, none the one that sets a prototype, and array
indices first, in their order. -/
structure OwnKeys (properties : List (JsString × Option ResponseValue)) : Prop where
  distinct : (properties.map Prod.fst).Nodup
  proto : ∀ property ∈ properties, property.1 ≠ protoKey
  order : properties.Pairwise fun first second =>
    ∀ index ∈ second.1.arrayIndex?, first.1.arrayIndex?.any (· < index) = true

/-- The properties that have a value. -/
def present (properties : List (JsString × Option ResponseValue)) :
    List (JsString × ResponseValue) :=
  properties.filterMap fun property => property.2.map fun value => (property.1, value)

/-- A value that code can build out of these. -/
inductive Plain : ResponseValue → Prop where
  | null : Plain .null
  | bool (value : Bool) : Plain (.bool value)
  | number (value : JsNumber) : Plain (.number value)
  | string (value : JsString) : Plain (.string value)
  | date (value : Date) : Plain (.date value)
  | array (items : List ResponseValue) (hItems : ∀ item ∈ items, Plain item) :
      Plain (.array items)
  | object (properties : List (JsString × Option ResponseValue)) (hKeys : OwnKeys properties)
      (hValues : ∀ property ∈ present properties, Plain property.2) : Plain (.object properties)
  | classInstance (properties : List (JsString × Option ResponseValue)) (toJSON : Canonical JsString)
      (hKeys : OwnKeys properties)
      (hValues : ∀ property ∈ present properties, Plain property.2) :
      Plain (.classInstance properties toJSON)

/-- Every instance, but for those inside others, is written as a plain object with its
properties would be. -/
inductive Faithful : ResponseValue → Prop where
  | null : Faithful .null
  | bool (value : Bool) : Faithful (.bool value)
  | number (value : JsNumber) : Faithful (.number value)
  | string (value : JsString) : Faithful (.string value)
  | date (value : Date) : Faithful (.date value)
  | array (items : List ResponseValue) (hItems : ∀ item ∈ items, Faithful item) :
      Faithful (.array items)
  | object (properties : List (JsString × Option ResponseValue))
      (hValues : ∀ property ∈ present properties, Faithful property.2) :
      Faithful (.object properties)
  | classInstance (properties : List (JsString × Option ResponseValue)) (toJSON : Canonical JsString)
      (hSame : (classInstance properties toJSON).stringify =
        (object properties).withoutClasses.stringify) :
      Faithful (.classInstance properties toJSON)

section Maps

theorem serializeItems_eq (items : List ResponseValue) :
    serializeItems items = items.map serializeValue := by
  induction items with
  | nil => rfl
  | cons item rest ih => rw [serializeItems, ih, List.map_cons]

theorem serializeEntries_eq (properties : List (JsString × Option ResponseValue)) :
    serializeEntries properties =
      properties.map fun property => (property.1, property.2.map serializeValue) := by
  induction properties with
  | nil => rfl
  | cons property rest ih => obtain ⟨key, _ | value⟩ := property <;> rw [serializeEntries, ih] <;> rfl

theorem jsonItems_eq (items : List ResponseValue) : jsonItems items = items.map json := by
  induction items with
  | nil => rfl
  | cons item rest ih => rw [jsonItems, ih, List.map_cons]

theorem jsonMembers_eq (properties : List (JsString × Option ResponseValue)) :
    jsonMembers properties =
      (present properties).map fun property => (codePoints property.1, property.2.json) := by
  induction properties with
  | nil => rfl
  | cons property rest ih => obtain ⟨key, _ | value⟩ := property <;> rw [jsonMembers, ih] <;> rfl

theorem withoutClassesItems_eq (items : List ResponseValue) :
    withoutClassesItems items = items.map withoutClasses := by
  induction items with
  | nil => rfl
  | cons item rest ih => rw [withoutClassesItems, ih, List.map_cons]

theorem withoutClassesEntries_eq (properties : List (JsString × Option ResponseValue)) :
    withoutClassesEntries properties =
      properties.map fun property => (property.1, property.2.map withoutClasses) := by
  induction properties with
  | nil => rfl
  | cons property rest ih =>
      obtain ⟨key, _ | value⟩ := property <;> rw [withoutClassesEntries, ih] <;> rfl

theorem present_map (change : ResponseValue → ResponseValue)
    (properties : List (JsString × Option ResponseValue)) :
    present (properties.map fun property => (property.1, property.2.map change)) =
      (present properties).map fun property => (property.1, change property.2) := by
  rw [present, present, List.filterMap_map, List.map_filterMap]
  refine List.filterMap_congr fun property _ => ?_
  obtain ⟨key, _ | value⟩ := property <;> rfl

end Maps

section Rebuilding

variable {properties : List (JsString × Option ResponseValue)}

theorem OwnKeys.map (h : OwnKeys properties) (change : ResponseValue → ResponseValue) :
    OwnKeys (properties.map fun property => (property.1, property.2.map change)) where
  distinct := by
    rw [List.map_map]
    exact h.distinct
  proto := by
    intro property hProperty
    obtain ⟨other, hOther, rfl⟩ := List.mem_map.mp hProperty
    exact h.proto other hOther
  order := List.pairwise_map.mpr h.order

/-- The loop over the entries of an object creates its properties in the order they have. -/
theorem foldl_assign_eq (before : List (JsString × Option ResponseValue))
    (h : OwnKeys (before ++ properties)) : properties.foldl assign before = before ++ properties := by
  induction properties generalizing before with
  | nil => exact (List.append_nil _).symm
  | cons property rest ih =>
      have hProto : property.1 ≠ protoKey := h.proto property (by simp)
      have hStep : assign before property = before ++ [property] := by
        rw [assign, if_neg hProto]
        cases hIndex : property.1.arrayIndex? with
        | none => rfl
        | some index =>
            have hLower : ∀ other ∈ before,
                other.1.arrayIndex?.any (· < index) = true := fun other hOther =>
              (List.pairwise_append.mp h.order).2.2 other hOther property
                List.mem_cons_self index hIndex
            simp only
            rw [List.takeWhile_eq_self_iff.mpr hLower, List.dropWhile_eq_nil_iff.mpr hLower]
      have hSplit : before ++ property :: rest = before ++ [property] ++ rest := by simp
      rw [List.foldl_cons, hStep, ih _ (hSplit ▸ h), hSplit]

theorem foldl_assign_serializeEntries (h : OwnKeys properties) :
    (serializeEntries properties).foldl assign [] =
      properties.map fun property => (property.1, property.2.map serializeValue) := by
  rw [serializeEntries_eq, foldl_assign_eq]
  · rfl
  · exact h.map serializeValue

/-- The loop forgets the classes and nothing else. -/
theorem json_serializeDatesInObject (hKeys : OwnKeys properties)
    (hValues : ∀ property ∈ present properties,
      (serializeValue property.2).json = property.2.withoutClasses.json) :
    (serializeDatesInObject properties).json = (object properties).withoutClasses.json := by
  rw [serializeDatesInObject, foldl_assign_serializeEntries hKeys, withoutClasses,
    withoutClassesEntries_eq, json, json, jsonMembers_eq, jsonMembers_eq, present_map,
    present_map, List.map_map, List.map_map]
  refine congrArg Canonical.object (List.map_congr_left fun property hProperty => ?_)
  exact congrArg (Prod.mk _) (hValues property hProperty)

theorem json_serializeValue {value : ResponseValue} (h : value.Plain) :
    (serializeValue value).json = value.withoutClasses.json := by
  induction h with
  | array items _ ih =>
      rw [serializeValue, withoutClasses, json, json, jsonItems_eq, jsonItems_eq,
        serializeItems_eq, withoutClassesItems_eq, List.map_map, List.map_map]
      exact congrArg Canonical.array (List.map_congr_left ih)
  | object properties hKeys _ ih => exact json_serializeDatesInObject hKeys ih
  | classInstance properties _ hKeys _ ih => exact json_serializeDatesInObject hKeys ih
  | _ => rfl

/-- A value is written as without its classes if and only if its instances are. -/
theorem json_withoutClasses_iff {value : ResponseValue} (h : value.Plain) :
    value.withoutClasses.json = value.json ↔ value.Faithful := by
  induction h with
  | null => exact iff_of_true rfl .null
  | bool value => exact iff_of_true rfl (.bool value)
  | number value => exact iff_of_true rfl (.number value)
  | string value => exact iff_of_true rfl (.string value)
  | date value => exact iff_of_true rfl (.date value)
  | array items _ ih =>
      rw [withoutClasses, json, json, jsonItems_eq, jsonItems_eq, withoutClassesItems_eq,
        List.map_map, Canonical.array.injEq, List.map_inj_left]
      constructor
      · exact fun hSame => .array items fun item hItem => (ih item hItem).mp (hSame item hItem)
      · intro hFaithful item hItem
        cases hFaithful with
        | array _ hItems => exact (ih item hItem).mpr (hItems item hItem)
  | object properties _ _ ih =>
      rw [withoutClasses, json, json, jsonMembers_eq, jsonMembers_eq, withoutClassesEntries_eq,
        present_map, List.map_map, Canonical.object.injEq, List.map_inj_left]
      constructor
      · exact fun hSame => .object properties fun property hProperty =>
          (ih property hProperty).mp (congrArg Prod.snd (hSame property hProperty))
      · intro hFaithful property hProperty
        cases hFaithful with
        | object _ hValues =>
            exact congrArg (Prod.mk _) ((ih property hProperty).mpr (hValues property hProperty))
  | classInstance properties toJSON _ _ _ =>
      constructor
      · exact fun hSame => .classInstance properties toJSON (congrArg Canonical.render hSame.symm)
      · intro hFaithful
        cases hFaithful with
        | classInstance _ _ hSame => exact (Canonical.render_injective hSame).symm

end Rebuilding

section Classes

theorem mapMembers_eq {S T : Type} (change : S → T) (members : List (S × Canonical S)) :
    Canonical.mapMembers change members =
      members.map fun member => (change member.1, member.2.mapText change) := by
  induction members with
  | nil => rfl
  | cons member rest ih => rw [Canonical.mapMembers, ih, List.map_cons]

/-- An instance that is written as its properties has a `toJSON` with the same keys. -/
theorem keys_of_faithful {properties : List (JsString × Option ResponseValue)}
    {toJSON : Canonical JsString} (h : (classInstance properties toJSON).Faithful) :
    ∃ members, toJSON = .object members ∧ members.map (fun member => codePoints member.1) =
      (present properties).map fun property => codePoints property.1 := by
  cases h with
  | classInstance _ _ hSame =>
      have hJson := Canonical.render_injective hSame
      rw [json, withoutClasses, json, jsonMembers_eq, withoutClassesEntries_eq, present_map,
        List.map_map] at hJson
      cases toJSON with
      | object members =>
          rw [Canonical.mapText, mapMembers_eq, Canonical.object.injEq] at hJson
          have hKeys := congrArg (List.map Prod.fst) hJson
          rw [List.map_map, List.map_map] at hKeys
          exact ⟨members, rfl, hKeys⟩
      | _ => cases hJson

/-- A `Buffer`: a property for each byte, and a `toJSON` that says what it is. -/
def buffer (bytes : List (Fin 256)) : ResponseValue :=
  .classInstance
    (bytes.zipIdx.map fun byte =>
      (utf16 (toString byte.2), some (.number (JsNumber.ofNat byte.1.val))))
    (.object [(utf16 "type", .string (utf16 "Buffer")),
      (utf16 "data", .array (bytes.map fun byte => .number (JsNumber.ofNat byte.val)))])

/-- An `ObjectId`, by its bytes, with their digits for its `toJSON`. -/
def objectId (bytes : List (Fin 256)) : ResponseValue :=
  .classInstance [(utf16 "buffer", some (buffer bytes))]
    (.string (bytes.flatMap fun byte =>
      [CodeUnit.hexDigit (Fin.ofNat _ (byte.val / 16)), CodeUnit.hexDigit (Fin.ofNat _ byte.val)]))

/-- A `Decimal128`, by its bytes and its numeral. -/
def decimal128 (bytes : List (Fin 256)) (numeral : JsString) : ResponseValue :=
  .classInstance [(utf16 "bytes", some (buffer bytes))]
    (.object [(utf16 "$numberDecimal", .string numeral)])

/-- No instance of the three classes is written as its properties are. -/
theorem bsonClasses_unfaithful (bytes : List (Fin 256)) (numeral : JsString) :
    ¬(buffer bytes).Faithful ∧ ¬(objectId bytes).Faithful ∧
      ¬(decimal128 bytes numeral).Faithful := by
  refine ⟨fun h => ?_, fun h => ?_, fun h => ?_⟩
  · obtain ⟨members, hMembers, hKeys⟩ := keys_of_faithful h
    cases hMembers
    cases bytes with
    | nil => cases hKeys
    | cons byte rest =>
        have hNames : codePoints (utf16 "type") ≠ codePoints (utf16 (toString 0)) := by decide
        have hFirst := (List.cons.inj hKeys).1
        simp only at hFirst
        exact hNames hFirst
  · obtain ⟨members, hMembers, -⟩ := keys_of_faithful h
    cases hMembers
  · obtain ⟨members, hMembers, hKeys⟩ := keys_of_faithful h
    cases hMembers
    have hNames : codePoints (utf16 "$numberDecimal") ≠ codePoints (utf16 "bytes") := by decide
    exact hNames (List.cons.inj hKeys).1

end Classes

/-- The output of the transform is written as the document is if and only if every
instance in the document is written as its own properties are. -/
theorem isoDatePlugin_iff {properties : List (JsString × Option ResponseValue)}
    (h : (object properties).Plain) :
    (serializeDatesInObject properties).stringify = (object properties).stringify ↔
      (object properties).Faithful := by
  have hJson : (serializeDatesInObject properties).json =
      (object properties).withoutClasses.json := json_serializeValue h
  rw [stringify, stringify, hJson, Canonical.render_injective.eq_iff, json_withoutClasses_iff h]

section Samples

theorem ownKeys_singleton {key : JsString} (hKey : key ≠ protoKey)
    (value : Option ResponseValue) : OwnKeys [(key, value)] where
  distinct := List.nodup_singleton _
  proto := List.forall_mem_singleton.mpr hKey
  order := List.pairwise_singleton _ _

/-- A date in an object in a document. -/
private def datedProperties : List (JsString × Option ResponseValue) :=
  [(utf16 "deliveryProof", some (.object [(utf16 "uploadedAt", some (.date ⟨0⟩))]))]

theorem isoDatePlugin_iff_sample :
    (serializeDatesInObject datedProperties).stringify = (object datedProperties).stringify := by
  refine (isoDatePlugin_iff ?_).mpr ?_
  · refine .object _ (ownKeys_singleton (by decide) _) (List.forall_mem_singleton.mpr ?_)
    exact .object _ (ownKeys_singleton (by decide) _) (List.forall_mem_singleton.mpr (.date _))
  · refine .object _ (List.forall_mem_singleton.mpr ?_)
    exact .object _ (List.forall_mem_singleton.mpr (.date _))

/-- The bytes of an id. -/
private def idBytes : List (Fin 256) :=
  [0x65, 0x0A, 0x1B, 0x2C, 0x3D, 0x4E, 0x5F, 0x60, 0x71, 0x82, 0x93, 0xA4]

/-- An id of a document is written as an object with its bytes. -/
theorem ids_not_rendered : ¬∀ properties : List (JsString × Option ResponseValue),
    (object properties).Plain →
      (serializeDatesInObject properties).stringify = (object properties).stringify := by
  intro hClaim
  have hBytes : (buffer idBytes).Plain := by
    refine .classInstance _ _ ⟨by decide, by decide, by decide⟩ ?_
    intro property hProperty
    obtain ⟨source, hSource, hSome⟩ := List.mem_filterMap.mp hProperty
    obtain ⟨byte, -, rfl⟩ := List.mem_map.mp hSource
    cases hSome
    exact .number _
  have hPlain : (object [(utf16 "_id", some (objectId idBytes))]).Plain := by
    refine .object _ (ownKeys_singleton (by decide) _) (List.forall_mem_singleton.mpr ?_)
    exact .classInstance _ _ (ownKeys_singleton (by decide) _)
      (List.forall_mem_singleton.mpr hBytes)
  have hJson := Canonical.render_injective (hClaim _ hPlain)
  have hFaithful := (json_withoutClasses_iff hPlain).mp ((json_serializeValue hPlain).symm.trans hJson)
  cases hFaithful with
  | object _ hValues =>
      exact (bsonClasses_unfaithful idBytes []).2.1 (hValues _ (List.mem_singleton_self _))

end Samples

end ResponseValue

end Navin
