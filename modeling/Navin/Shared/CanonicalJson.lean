import Navin.Shared.JsString
import Navin.Shared.NumberText
import Navin.Shared.ObjectKeys

/-! The text that payloads are hashed by, over strings as the runtime has them, and
what it tells about the payload: its canonical form and nothing else. -/
namespace Navin

open Readability JsString CodeUnit

/-- Payload values. An object lists its own properties, and a property may hold
`undefined`. -/
inductive JsValue where
  | null
  | bool (value : Bool)
  | number (value : JsNumber)
  | string (value : JsString)
  | date (value : Date)
  | array (items : List JsValue)
  | object (properties : List (JsString × Option JsValue))

/-- What a payload says once texts are taken from its strings and keys. -/
inductive Canonical (S : Type) where
  | null
  | bool (value : Bool)
  | number (value : JsNumber)
  | string (value : S)
  | array (items : List (Canonical S))
  | object (members : List (S × Canonical S))

namespace JsValue

mutual

def normalizeForDeterministicJson : JsValue → JsValue
  | .date value => .string (utf16 value.toISOString)
  | .array items => .array (normalizeItems items)
  | .object properties =>
      .object ((sortByKey (normalizeProperties properties)).foldl assign [])
  | primitive => primitive

def normalizeItems : List JsValue → List JsValue
  | [] => []
  | item :: rest => normalizeForDeterministicJson item :: normalizeItems rest

/-- Undefined properties are omitted. -/
def normalizeProperties : List (JsString × Option JsValue) → List (JsString × Option JsValue)
  | [] => []
  | (_, none) :: rest => normalizeProperties rest
  | (key, some value) :: rest =>
      (key, some (normalizeForDeterministicJson value)) :: normalizeProperties rest

end

mutual

def stringify : JsValue → JsString
  | .null => utf16 "null"
  | .bool value => if value then utf16 "true" else utf16 "false"
  | .number value => utf16 value.toString
  | .string value => quote value
  | .date value => quote (utf16 value.toISOString)
  | .array items => leftBracket :: separated comma (stringifyItems items) ++ [rightBracket]
  | .object properties =>
      leftBrace :: separated comma (stringifyProperties properties) ++ [rightBrace]

def stringifyItems : List JsValue → List JsString
  | [] => []
  | item :: rest => stringify item :: stringifyItems rest

def stringifyProperties : List (JsString × Option JsValue) → List JsString
  | [] => []
  | (_, none) :: rest => stringifyProperties rest
  | (key, some value) :: rest =>
      (quote key ++ colon :: stringify value) :: stringifyProperties rest

end

/-- The exact text whose hash is taken. -/
def compactJson (payload : JsValue) : JsString :=
  payload.normalizeForDeterministicJson.stringify.stripWhitespace

/-- A payload that plain code can build: the keys of an object are distinct, and none
of them is the one that sets a prototype. -/
inductive Plain : JsValue → Prop where
  | null : Plain .null
  | bool (value : Bool) : Plain (.bool value)
  | number (value : JsNumber) : Plain (.number value)
  | string (value : JsString) : Plain (.string value)
  | date (value : Date) : Plain (.date value)
  | array (items : List JsValue) (hItems : ∀ item ∈ items, Plain item) : Plain (.array items)
  | object (properties : List (JsString × Option JsValue))
      (hKeys : (properties.map Prod.fst).Nodup)
      (hProto : ∀ property ∈ properties, property.1 ≠ protoKey)
      (hValues : ∀ key value, (key, some value) ∈ properties → Plain value) :
      Plain (.object properties)

variable {S : Type} (text : JsString → S)

mutual

/-- The canonical form. Dates are their text, undefined properties are left out, and
members are ordered by their keys before texts are taken from these. -/
def canonical : JsValue → Canonical S
  | .null => .null
  | .bool value => .bool value
  | .number value => .number value
  | .string value => .string (text value)
  | .date value => .string (text (utf16 value.toISOString))
  | .array items => .array (canonicalItems items)
  | .object properties =>
      .object ((sortByRank (canonicalMembers properties)).map fun member =>
        (text member.1, member.2))

def canonicalItems : List JsValue → List (Canonical S)
  | [] => []
  | item :: rest => canonical item :: canonicalItems rest

def canonicalMembers : List (JsString × Option JsValue) → List (JsString × Canonical S)
  | [] => []
  | (_, none) :: rest => canonicalMembers rest
  | (key, some value) :: rest => (key, canonical value) :: canonicalMembers rest

end

end JsValue

namespace Canonical

mutual

/-- The compact text of a canonical form. -/
def render : Canonical (List CodePoint) → JsString
  | .null => utf16 "null"
  | .bool value => if value then utf16 "true" else utf16 "false"
  | .number value => utf16 value.toString
  | .string points => quotationMark :: quotedContent points
  | .array items => leftBracket :: (separated comma (renderItems items) ++ [rightBracket])
  | .object members => leftBrace :: (separated comma (renderMembers members) ++ [rightBrace])

def renderItems : List (Canonical (List CodePoint)) → List JsString
  | [] => []
  | item :: rest => render item :: renderItems rest

def renderMembers : List (List CodePoint × Canonical (List CodePoint)) → List JsString
  | [] => []
  | (points, value) :: rest =>
      (quotationMark :: quotedContent points ++ colon :: render value) :: renderMembers rest

end

theorem renderItems_eq (items : List (Canonical (List CodePoint))) :
    renderItems items = items.map render := by
  induction items with
  | nil => rfl
  | cons item rest ih => rw [renderItems, ih, List.map_cons]

theorem renderMembers_eq (members : List (List CodePoint × Canonical (List CodePoint))) :
    renderMembers members = members.map fun member =>
      quotationMark :: quotedContent member.1 ++ colon :: render member.2 := by
  induction members with
  | nil => rfl
  | cons member rest ih => rw [renderMembers, ih, List.map_cons]

end Canonical

namespace JsValue

section Maps

/-- The properties that have a value. -/
def present (properties : List (JsString × Option JsValue)) : List (JsString × JsValue) :=
  properties.filterMap fun property => property.2.map fun value => (property.1, value)

theorem normalizeItems_eq (items : List JsValue) :
    normalizeItems items = items.map normalizeForDeterministicJson := by
  induction items with
  | nil => rfl
  | cons item rest ih => rw [normalizeItems, ih, List.map_cons]

theorem normalizeProperties_eq (properties : List (JsString × Option JsValue)) :
    normalizeProperties properties = (present properties).map fun property =>
      (property.1, some (normalizeForDeterministicJson property.2)) := by
  induction properties with
  | nil => rfl
  | cons property rest ih =>
      obtain ⟨key, _ | value⟩ := property <;> rw [normalizeProperties, ih] <;> rfl

theorem stringifyItems_eq (items : List JsValue) :
    stringifyItems items = items.map stringify := by
  induction items with
  | nil => rfl
  | cons item rest ih => rw [stringifyItems, ih, List.map_cons]

theorem stringifyProperties_eq (change : JsValue → JsValue)
    (properties : List (JsString × JsValue)) :
    stringifyProperties (properties.map fun property => (property.1, some (change property.2))) =
      properties.map fun property => quote property.1 ++ colon :: stringify (change property.2) := by
  induction properties with
  | nil => rfl
  | cons property rest ih => rw [List.map_cons, stringifyProperties, ih, List.map_cons]

variable {S : Type} (text : JsString → S)

theorem canonicalItems_eq (items : List JsValue) :
    canonicalItems text items = items.map (canonical text) := by
  induction items with
  | nil => rfl
  | cons item rest ih => rw [canonicalItems, ih, List.map_cons]

theorem canonicalMembers_eq (properties : List (JsString × Option JsValue)) :
    canonicalMembers text properties = (present properties).map fun property =>
      (property.1, canonical text property.2) := by
  induction properties with
  | nil => rfl
  | cons property rest ih =>
      obtain ⟨key, _ | value⟩ := property <;> rw [canonicalMembers, ih] <;> rfl

theorem mem_present {properties : List (JsString × Option JsValue)} {key : JsString}
    {value : JsValue} (h : (key, value) ∈ present properties) :
    (key, some value) ∈ properties := by
  simp only [present, List.mem_filterMap, Option.map_eq_some_iff, Prod.mk.injEq] at h
  obtain ⟨⟨_, _⟩, hProperty, _, rfl, rfl, rfl⟩ := h
  exact hProperty

theorem present_keys_nodup {properties : List (JsString × Option JsValue)}
    (hKeys : (properties.map Prod.fst).Nodup) : ((present properties).map Prod.fst).Nodup := by
  refine hKeys.sublist ?_
  induction properties with
  | nil => exact List.Sublist.refl _
  | cons property rest ih =>
      have hRest := ih (List.nodup_cons.mp hKeys).2
      obtain ⟨key, _ | value⟩ := property
      · exact hRest.cons _
      · exact hRest.cons_cons _

end Maps

section Text

/-- The units of the text of a number. -/
def isNumericUnit (unit : CodeUnit) : Bool :=
  (0x30 ≤ unit.val && unit.val ≤ 0x39) || unit.val == 0x2E || unit.val == 0x65 ||
    unit.val == 0x2B || unit.val == 0x2D

theorem isNumericUnit_of_mem {number : JsNumber} {unit : CodeUnit}
    (h : unit ∈ utf16 number.toString) : isNumericUnit unit = true := by
  rw [utf16_eq_flatMap, List.mem_flatMap] at h
  obtain ⟨c, hc, hUnit⟩ := h
  have hNumeric := number.isNumeric_of_mem_toString c hc
  simp only [JsNumber.isNumeric, Bool.or_eq_true, Char.isDigit_iff_toNat, beq_iff_eq,
    ← Char.toNat_inj] at hNumeric
  have hCodes : '0'.toNat = 0x30 ∧ '9'.toNat = 0x39 ∧ '.'.toNat = 0x2E ∧ 'e'.toNat = 0x65 ∧
      '+'.toNat = 0x2B ∧ '-'.toNat = 0x2D := by decide
  have hSmall : c.toNat < 0x10000 := by omega
  rw [utf16Char, if_pos hSmall, List.mem_singleton] at hUnit
  have hVal : unit.val = c.toNat := by
    rw [hUnit, Fin.val_ofNat, Nat.mod_eq_of_lt hSmall]
  simp only [isNumericUnit, hVal, Bool.or_eq_true, Bool.and_eq_true, decide_eq_true_eq,
    beq_iff_eq]
  omega

theorem isWhitespace_of_isNumericUnit {unit : CodeUnit} (h : isNumericUnit unit = true) :
    unit.isWhitespace = false := by
  simp only [isNumericUnit, Bool.or_eq_true, Bool.and_eq_true, decide_eq_true_eq,
    beq_iff_eq] at h
  simp only [CodeUnit.isWhitespace, Bool.or_eq_false_iff, Bool.and_eq_false_iff,
    beq_eq_false_iff_ne, decide_eq_false_iff_not]
  omega

theorem compactJson_eq_render {payload : JsValue} (hPlain : payload.Plain) :
    payload.compactJson = (payload.canonical visible).render := by
  induction hPlain with
  | null => decide
  | bool value => cases value <;> decide
  | number value =>
      exact stripWhitespace_eq_self fun unit hUnit =>
        isWhitespace_of_isNumericUnit (isNumericUnit_of_mem hUnit)
  | string value => exact stripWhitespace_quote value
  | date value => exact stripWhitespace_quote (utf16 value.toISOString)
  | array items hItems ih =>
      have hParts : (items.map normalizeForDeterministicJson).map (JsString.stripWhitespace ∘ stringify) =
          (items.map (canonical visible)).map Canonical.render := by
        rw [List.map_map, List.map_map, List.map_inj_left]
        exact ih
      rw [compactJson, normalizeForDeterministicJson, stringify,
        stripWhitespace_enclosed (by decide) (by decide), canonical, Canonical.render,
        Canonical.renderItems_eq, canonicalItems_eq, ← hParts, stringifyItems_eq,
        normalizeItems_eq, List.map_map]
  | object properties hKeys hProto hValues ih =>
      have hOrder : (sortByKey (normalizeProperties properties)).foldl assign [] =
          (sortByRank (present properties)).map fun property =>
            (property.1, some (normalizeForDeterministicJson property.2)) := by
        rw [normalizeProperties_eq, assign_sortByKey,
          sortByRank_map fun value => some (normalizeForDeterministicJson value)]
        · rw [List.map_map]
          exact present_keys_nodup hKeys
        · intro property hProperty
          obtain ⟨⟨key, value⟩, hPresent, rfl⟩ := List.mem_map.mp hProperty
          exact hProto (key, some value) (mem_present hPresent)
      have hMembers : (sortByRank (canonicalMembers visible properties)).map (fun member =>
          (visible member.1, member.2)) = (sortByRank (present properties)).map fun property =>
            (visible property.1, canonical visible property.2) := by
        rw [canonicalMembers_eq, sortByRank_map (canonical visible), List.map_map]
        rfl
      have hPart : ∀ property ∈ sortByRank (present properties),
          JsString.stripWhitespace (quote property.1 ++ colon ::
              (normalizeForDeterministicJson property.2).stringify) =
            quotationMark :: quotedContent (visible property.1) ++
              colon :: (canonical visible property.2).render := by
        intro property hProperty
        have hValue := ih _ _ (mem_present ((List.perm_insertionSort _ _).mem_iff.mp hProperty))
        rw [← hValue, stripWhitespace_append, stripWhitespace_quote]
        rfl
      rw [compactJson, normalizeForDeterministicJson, hOrder, stringify,
        stringifyProperties_eq normalizeForDeterministicJson,
        stripWhitespace_enclosed (by decide) (by decide), canonical, hMembers, Canonical.render,
        Canonical.renderMembers_eq, List.map_map, List.map_map]
      congr 3
      exact List.map_inj_left.mpr hPart

end Text

end JsValue

namespace Canonical

/-- Induction that reaches into arrays and objects. -/
@[elab_as_elim] theorem induction {S : Type} {motive : Canonical S → Prop}
    (null : motive .null) (bool : ∀ value, motive (.bool value))
    (number : ∀ value, motive (.number value)) (string : ∀ value, motive (.string value))
    (array : ∀ items, (∀ item ∈ items, motive item) → motive (.array items))
    (object : ∀ members, (∀ member ∈ members, motive member.2) → motive (.object members))
    (value : Canonical S) : motive value := by
  refine @Canonical.rec S motive (fun items => ∀ item ∈ items, motive item)
    (fun members => ∀ member ∈ members, motive member.2) (fun member => motive member.2)
    null bool number string array object ?_ ?_ ?_ ?_ ?_ value
  · intro item hItem
    cases hItem
  · intro item rest hItem hRest other hOther
    rcases List.mem_cons.mp hOther with rfl | hOther
    · exact hItem
    · exact hRest other hOther
  · intro member hMember
    cases hMember
  · intro member rest hMember hRest other hOther
    rcases List.mem_cons.mp hOther with rfl | hOther
    · exact hMember
    · exact hRest other hOther
  · exact fun _ _ hValue => hValue

section Readability

/-- Which kind of value a text begins. -/
def kindOfUnit (unit : CodeUnit) : Nat :=
  if JsValue.isNumericUnit unit then 3
  else if unit = 0x6E then 0
  else if unit = 0x66 then 1
  else if unit = 0x74 then 2
  else if unit = quotationMark then 4
  else if unit = leftBracket then 5
  else if unit = leftBrace then 6
  else 7

def kind {S : Type} : Canonical S → Nat
  | .null => 0
  | .bool false => 1
  | .bool true => 2
  | .number _ => 3
  | .string _ => 4
  | .array _ => 5
  | .object _ => 6

/-- The first unit of a text tells the kind of the value. -/
theorem render_opens (value : Canonical (List CodePoint)) :
    ∃ unit rest, value.render = unit :: rest ∧ kindOfUnit unit = value.kind := by
  cases value with
  | null => exact ⟨_, _, rfl, by decide⟩
  | bool value => cases value <;> exact ⟨_, _, rfl, by decide⟩
  | number value =>
      cases hText : utf16 value.toString with
      | nil =>
          rw [utf16_eq_flatMap, List.flatMap_eq_nil_iff] at hText
          obtain ⟨c, hc⟩ := List.exists_mem_of_ne_nil _ value.toString_ne_nil
          exact absurd (hText c hc) (utf16Char_ne_nil c)
      | cons unit rest =>
          have hNumeric : JsValue.isNumericUnit unit = true :=
            JsValue.isNumericUnit_of_mem (hText ▸ List.mem_cons_self)
          exact ⟨unit, rest, hText, if_pos hNumeric⟩
  | string points => exact ⟨_, _, rfl, rfl⟩
  | array items => exact ⟨_, _, rfl, rfl⟩
  | object members => exact ⟨_, _, rfl, rfl⟩

theorem render_opens_ne {close : CodeUnit} (hClose : kindOfUnit close = 7)
    (value : Canonical (List CodePoint)) :
    ∃ unit rest, value.render = unit :: rest ∧ unit ≠ close := by
  obtain ⟨unit, rest, hText, hKind⟩ := render_opens value
  refine ⟨unit, rest, hText, ?_⟩
  rintro rfl
  rw [hClose] at hKind
  cases value with
  | bool value => cases value <;> cases hKind
  | _ => cases hKind

theorem kind_eq_of_render {first second : Canonical (List CodePoint)} {x y : JsString}
    (hText : first.render ++ x = second.render ++ y) : first.kind = second.kind := by
  obtain ⟨unit, rest, hFirst, hKind⟩ := render_opens first
  obtain ⟨unit', rest', hSecond, hKind'⟩ := render_opens second
  rw [hFirst, hSecond] at hText
  rw [← hKind, ← hKind', (List.cons.inj hText).1]

/-- What may come after a value. -/
def tails : Set JsString :=
  opening fun unit => unit = comma ∨ unit = rightBracket ∨ unit = rightBrace

theorem tails_subset_nonnumeric :
    tails ⊆ opening fun unit => ¬ JsValue.isNumericUnit unit = true := by
  intro text hText unit hUnit
  rcases hText unit hUnit with rfl | rfl | rfl <;> decide

theorem follow_subset_tails {close : CodeUnit}
    (hClose : close = rightBracket ∨ close = rightBrace) :
    opening (fun unit => unit = comma ∨ unit = close) ⊆ tails := by
  intro text hText unit hUnit
  rcases hText unit hUnit with hComma | rfl
  · exact .inl hComma
  · exact .inr hClose

/-- Compact texts are uniquely readable: the induction is on the value that was
written, and the first unit rules out values of another kind. -/
theorem readable_render : Readable render tails := by
  intro value
  induction value using Canonical.induction with
  | null =>
      intro other x y hx hy hText
      have hKind := kind_eq_of_render hText
      cases other with
      | null => exact ⟨rfl, List.append_cancel_left hText⟩
      | bool value => cases value <;> cases hKind
      | _ => cases hKind
  | bool value =>
      intro other x y hx hy hText
      have hKind := kind_eq_of_render hText
      cases other with
      | bool value' =>
          have hSame : value = value' := by
            cases value <;> cases value' <;> first | rfl | cases hKind
          rw [hSame] at hText ⊢
          exact ⟨rfl, List.append_cancel_left hText⟩
      | _ => cases value <;> cases hKind
  | number value =>
      intro other x y hx hy hText
      have hKind := kind_eq_of_render hText
      cases other with
      | number value' =>
          have hRead : Readable (fun number : JsNumber => utf16 number.toString)
              (opening fun unit => ¬ JsValue.isNumericUnit unit = true) :=
            Readable.ofSymbols (utf16_injective.comp JsNumber.toString_injective)
              fun _ _ => JsValue.isNumericUnit_of_mem
          obtain ⟨rfl, hRest⟩ := hRead value (tails_subset_nonnumeric hx)
            (tails_subset_nonnumeric hy) hText
          exact ⟨rfl, hRest⟩
      | bool value' => cases value' <;> cases hKind
      | _ => cases hKind
  | string points =>
      intro other x y hx hy hText
      have hKind := kind_eq_of_render hText
      cases other with
      | string points' =>
          obtain ⟨rfl, hRest⟩ := readable_quotedContent points trivial trivial
            (List.cons.inj hText).2
          exact ⟨rfl, hRest⟩
      | bool value' => cases value' <;> cases hKind
      | _ => cases hKind
  | array items ih =>
      intro other x y hx hy hText
      have hKind := kind_eq_of_render hText
      cases other with
      | array items' =>
          rw [render, render, renderItems_eq, renderItems_eq] at hText
          have hRead : ReadableAt (fun items => separated comma (items.map render) ++
              [rightBracket]) Set.univ items :=
            readableAt_separated (by decide) (render_opens_ne (by decide)) items
              fun item hItem => (ih item hItem).mono (follow_subset_tails (.inl rfl))
          obtain ⟨rfl, hRest⟩ := hRead trivial trivial (List.cons.inj hText).2
          exact ⟨rfl, hRest⟩
      | bool value' => cases value' <;> cases hKind
      | _ => cases hKind
  | object members ih =>
      intro other x y hx hy hText
      have hKind := kind_eq_of_render hText
      cases other with
      | object members' =>
          rw [render, render, renderMembers_eq, renderMembers_eq] at hText
          have hRead : ReadableAt (fun members => separated comma (members.map fun member =>
              quotationMark :: quotedContent member.1 ++ colon :: render member.2) ++
              [rightBrace]) Set.univ members := by
            refine readableAt_separated (by decide) ?_ members fun member hMember => ?_
            · exact fun member => ⟨quotationMark, _, rfl, by decide⟩
            · have hKey := (readable_quotedContent member.1).cons quotationMark
              have hValue := (ih member hMember).cons colon
              exact (hKey.pair hValue fun _ _ _ => trivial).mono
                (follow_subset_tails (.inr rfl))
          obtain ⟨rfl, hRest⟩ := hRead trivial trivial (List.cons.inj hText).2
          exact ⟨rfl, hRest⟩
      | bool value' => cases value' <;> cases hKind
      | _ => cases hKind

theorem render_injective : Function.Injective render :=
  readable_render.injective (by nofun)

end Readability

end Canonical

namespace JsValue

/-- Two payloads that differ in the order of keys only, at any depth. -/
inductive Reordered : JsValue → JsValue → Prop where
  | refl (value : JsValue) : Reordered value value
  | trans {first second third : JsValue} (left : Reordered first second)
      (right : Reordered second third) : Reordered first third
  | keys {properties properties' : List (JsString × Option JsValue)}
      (hPerm : properties.Perm properties') : Reordered (.object properties) (.object properties')
  | item {value value' : JsValue} (before after : List JsValue) (inner : Reordered value value') :
      Reordered (.array (before ++ value :: after)) (.array (before ++ value' :: after))
  | value {value value' : JsValue} (before after : List (JsString × Option JsValue))
      (key : JsString) (inner : Reordered value value') :
      Reordered (.object (before ++ (key, some value) :: after))
        (.object (before ++ (key, some value') :: after))

section Order

variable {first second : JsValue} {S : Type}

theorem Reordered.plain (h : Reordered first second) (hPlain : first.Plain) : second.Plain := by
  induction h with
  | refl => exact hPlain
  | trans _ _ ih ih' => exact ih' (ih hPlain)
  | keys hPerm =>
      cases hPlain with
      | object _ hKeys hProto hValues =>
          refine .object _ ((hPerm.map Prod.fst).nodup_iff.mp hKeys) ?_ ?_
          · exact fun property hProperty => hProto property (hPerm.mem_iff.mpr hProperty)
          · exact fun key value hValue => hValues key value (hPerm.mem_iff.mpr hValue)
  | @item value value' before after _ ih =>
      cases hPlain with
      | array _ hItems =>
          refine .array _ fun item hItem => ?_
          rcases List.mem_append.mp hItem with hBefore | hRest
          · exact hItems item (List.mem_append_left _ hBefore)
          · rcases List.mem_cons.mp hRest with rfl | hAfter
            · exact ih (hItems value (by simp))
            · exact hItems item (List.mem_append_right _ (List.mem_cons_of_mem _ hAfter))
  | @value value value' before after key _ ih =>
      cases hPlain with
      | object _ hKeys hProto hValues =>
          refine .object _ (by simpa using hKeys) ?_ ?_
          · intro property hProperty
            rcases List.mem_append.mp hProperty with hBefore | hRest
            · exact hProto property (List.mem_append_left _ hBefore)
            · rcases List.mem_cons.mp hRest with rfl | hAfter
              · exact hProto (key, some value) (by simp)
              · exact hProto property (List.mem_append_right _ (List.mem_cons_of_mem _ hAfter))
          · intro key' found hFound
            rcases List.mem_append.mp hFound with hBefore | hRest
            · exact hValues key' found (List.mem_append_left _ hBefore)
            · rcases List.mem_cons.mp hRest with hHere | hAfter
              · cases hHere
                exact ih (hValues key value (by simp))
              · exact hValues key' found
                  (List.mem_append_right _ (List.mem_cons_of_mem _ hAfter))

theorem Reordered.canonical_eq (text : JsString → S) (h : Reordered first second)
    (hPlain : first.Plain) : first.canonical text = second.canonical text := by
  induction h with
  | refl => rfl
  | trans left _ ih ih' => exact (ih hPlain).trans (ih' (left.plain hPlain))
  | @keys properties properties' hPerm =>
      cases hPlain with
      | object _ hKeys _ _ =>
          have hMembers : (canonicalMembers text properties).Perm
              (canonicalMembers text properties') := by
            rw [canonicalMembers_eq, canonicalMembers_eq]
            exact (hPerm.filterMap _).map _
          have hDistinct : ((canonicalMembers text properties).map Prod.fst).Nodup := by
            rw [canonicalMembers_eq, List.map_map]
            exact present_keys_nodup hKeys
          rw [canonical, canonical, sortByRank_congr hDistinct hMembers]
  | @item value value' before after _ ih =>
      cases hPlain with
      | array _ hItems =>
          have hValue := ih (hItems value (by simp))
          simp only [canonical, canonicalItems_eq, List.map_append, List.map_cons, hValue]
  | @value value value' before after key _ ih =>
      cases hPlain with
      | object _ _ _ hValues =>
          have hValue := ih (hValues key value (by simp))
          simp only [canonical, canonicalMembers_eq, present, List.filterMap_append,
            List.filterMap_cons, Option.map_some, List.map_append, List.map_cons, hValue]

/-- The hashed text tells the canonical form of the payload and nothing else, where
strings are taken as code points without the whitespace that is written as it is. In
particular the order of keys does not show. -/
theorem compactJson_eq_iff (hFirst : first.Plain) (hSecond : second.Plain) :
    (first.compactJson = second.compactJson ↔
      first.canonical visible = second.canonical visible) ∧
    (first.Reordered second → first.compactJson = second.compactJson) := by
  have hIff : first.compactJson = second.compactJson ↔
      first.canonical visible = second.canonical visible := by
    rw [compactJson_eq_render hFirst, compactJson_eq_render hSecond]
    exact Canonical.render_injective.eq_iff
  exact ⟨hIff, fun hOrder => hIff.mpr (hOrder.canonical_eq visible hFirst)⟩

/-- Two listings of one object. -/
theorem compactJson_eq_iff_sample :
    (JsValue.object [(utf16 "b", some (.string (utf16 "x y"))), (utf16 "a", none)]).compactJson =
      (JsValue.object [(utf16 "a", none), (utf16 "b", some (.string (utf16 "x y")))]).compactJson := by
  have hPlain : ∀ properties, properties.Perm
      [(utf16 "b", some (.string (utf16 "x y"))), (utf16 "a", none)] →
      (JsValue.object properties).Plain := by
    intro properties hPerm
    refine .object _ ((hPerm.map Prod.fst).nodup_iff.mpr (by decide)) ?_ ?_
    · intro property hProperty
      have hListed := hPerm.mem_iff.mp hProperty
      rcases List.mem_pair.mp hListed with rfl | rfl <;> decide
    · intro key value hValue
      rcases List.mem_pair.mp (hPerm.mem_iff.mp hValue) with h | h <;> cases h
      exact .string _
  exact (compactJson_eq_iff (hPlain _ (List.Perm.refl _)) (hPlain _ (List.Perm.swap _ _ _))).2
    (.keys (List.Perm.swap _ _ _))

/-- The code units of a text without the whitespace that is written as it is. -/
def visibleUnits (text : JsString) : JsString :=
  text.filter fun unit => !(CodePoint.single unit).vanishes

/-- Over code units the canonical form forgets that whitespace kept two surrogates
apart, which are escaped one by one. -/
theorem lone_surrogates_show : ¬ ∀ first second : JsValue, first.Plain → second.Plain →
    (first.compactJson = second.compactJson ↔
      first.canonical visibleUnits = second.canonical visibleUnits) := by
  intro hClaim
  have hTexts : (JsValue.string [0xD83D, 0x20, 0xDE00]).compactJson ≠
      (JsValue.string [0xD83D, 0xDE00]).compactJson := by decide
  refine hTexts ((hClaim _ _ (.string _) (.string _)).mpr ?_)
  exact congrArg Canonical.string (by decide)

end Order

end JsValue

end Navin
