import Navin.Semantics.Pcre
import Navin.Shipments.ListingAccess

/-! What the text filters of the listing and of the export keep. The database takes a filter
for a regular expression, so that its metacharacters are escaped. -/
namespace Navin

open Async

section Escaping

theorem regexSpecials_spec : ∀ c : Char, regexSpecials.contains c = true →
    Pcre.isAlphanumeric c = false := by
  have hAll : (regexSpecials.all fun c => !Pcre.isAlphanumeric c) = true := by decide
  intro c hSpecial
  have hChar := List.all_eq_true.mp hAll c (List.contains_iff_mem.mp hSpecial)
  rwa [Bool.not_eq_true'] at hChar

theorem not_metacharacter_of_not_special {c : Char} (h : regexSpecials.contains c = false) :
    c ∉ Pcre.metacharacters := by
  have hAll : (Pcre.metacharacters.all fun c => regexSpecials.contains c) = true := by decide
  intro hMeta
  rw [List.all_eq_true.mp hAll c hMeta] at h
  cases h

/-- An escaped text is a pattern in which every character stands for itself. -/
theorem quotes_escapeRegex (text : String) :
    Pcre.Quotes (escapeRegex text).toList text.toList := by
  rw [escapeRegex, String.toList_ofList]
  induction text.toList with
  | nil => exact .nil
  | cons c rest ih =>
      rw [List.flatMap_cons]
      cases hSpecial : regexSpecials.contains c with
      | true => exact .escape (regexSpecials_spec c hSpecial) ih
      | false => exact .plain (not_metacharacter_of_not_special hSpecial) ih

theorem mem_escapeRegex {text : String} {c : Char} (h : c ∈ (escapeRegex text).toList) :
    c = '\\' ∨ c ∈ text.toList := by
  rw [escapeRegex, String.toList_ofList, List.mem_flatMap] at h
  obtain ⟨char, hMem, h⟩ := h
  split at h
  · rcases List.mem_cons.mp h with rfl | h
    · exact .inl rfl
    · exact .inr (List.mem_singleton.mp h ▸ hMem)
  · exact .inr (List.mem_singleton.mp h ▸ hMem)

end Escaping

section Filters

variable [TextMatching] [Pcre.CaseTable]

/-- The database's regular expressions are those of PCRE. A pattern with a NUL character is
refused. -/
def RegexIsPcre : Prop :=
  ∀ (pattern text : String) (regex : Pcre.Regex), '\x00' ∉ pattern.toList →
    Pcre.parse pattern.toList = some regex →
      TextMatching.regexMatches pattern text = regex.search text.toList

def NulFree (filter : Option String) : Prop :=
  ∀ text ∈ filter, '\x00' ∉ text.toList

/-- The field holds the text of the filter, if there is one, but for case. -/
def FieldContains (filter : Option String) (field : String) : Prop :=
  ∀ text ∈ filter, Pcre.Contains text.toList field.toList

variable (hPcre : RegexIsPcre)

include hPcre

theorem regexMatches_escaped {needle : String} (hNul : '\x00' ∉ needle.toList) (field : String) :
    TextMatching.regexMatches (escapeRegex needle) field = true ↔
      Pcre.Contains needle.toList field.toList := by
  have hPattern : '\x00' ∉ (escapeRegex needle).toList := by
    intro hMem
    rcases mem_escapeRegex hMem with hSlash | hMem
    · cases hSlash
    · exact hNul hMem
  rw [hPcre _ field _ hPattern (quotes_escapeRegex needle).parse_eq]
  exact Pcre.search_literals needle.toList field.toList

/-- The empty filter is none, and every field contains the empty text. -/
theorem regexCondition_holds {filter : Option String} (hNul : NulFree filter) (field : String) :
    ((regexCondition filter).all fun condition => condition.holds (some (.string field))) = true ↔
      FieldContains filter field := by
  cases filter with
  | none => exact ⟨fun _ _ hText => (Option.not_mem_none _ hText).elim, fun _ => rfl⟩
  | some needle =>
      have hContains : FieldContains (some needle) field ↔
          Pcre.Contains needle.toList field.toList := by
        simp [FieldContains]
      rw [hContains]
      by_cases hEmpty : needle = ""
      · subst hEmpty
        exact ⟨fun _ => ⟨[], [], field.toList, rfl, .nil⟩, fun _ => rfl⟩
      · have hCondition : regexCondition (some needle) =
            some (.regex (TextMatching.regexMatches (escapeRegex needle))) := by
          simp [regexCondition, truthy, Option.filter_some, hEmpty]
        rw [hCondition, Option.all_some]
        exact regexMatches_escaped hPcre (hNul needle rfl) field

end Filters

section Requests

/-- The filters of a request but for those on texts. -/
def ListParams.others (params : ListParams) : ListParams :=
  { params with trackingNumber := none, origin := none, destination := none }

def ExportParams.others (params : ExportParams) : ExportParams :=
  { params with origin := none, destination := none }

/-- A query of given filters accepts what each of them accepts. -/
theorem accepts_given (filters : List (String × Option Condition))
    (text : Option (List String → Bool)) (shipment : Shipment) :
    ({ conditions := givenConditions filters, text } : Query).accepts shipment =
      ((filters.all fun filter =>
          filter.2.all fun condition => condition.holds (shipment.field? filter.1)) &&
        text.all fun search =>
          search [shipment.trackingNumber, shipment.origin, shipment.destination]) := by
  refine congrArg (· && _) ?_
  induction filters with
  | nil => rfl
  | cons filter rest ih =>
      obtain ⟨path, condition⟩ := filter
      cases condition with
      | none => exact ih
      | some condition => exact congrArg (condition.holds (shipment.field? path) && ·) ih

open Classical in
/-- The shipments that are kept, in order. -/
noncomputable def keep (keeps : Shipment → Prop) (sort : List (String × SortOrder))
    (shipments : List Shipment) : List Shipment :=
  (shipments.filter fun shipment => keeps shipment).insertionSort
    fun first second => sortsBefore sort first second

variable [TextMatching] [Pcre.CaseTable]

/-- A shipment that the listing shows: its fields hold the texts of the filters. -/
def ListParams.Shows (params : ListParams) (shipment : Shipment) : Prop :=
  shipment.deletedAt = none ∧ params.others.query.accepts shipment = true ∧
    FieldContains params.trackingNumber shipment.trackingNumber ∧
      FieldContains params.origin shipment.origin ∧
        FieldContains params.destination shipment.destination

/-- A shipment that the export has. -/
def ExportParams.Shows (params : ExportParams) (shipment : Shipment) : Prop :=
  shipment.deletedAt = none ∧ params.others.query.accepts shipment = true ∧
    FieldContains params.origin shipment.origin ∧
      FieldContains params.destination shipment.destination

variable (hPcre : RegexIsPcre)

include hPcre

theorem ListParams.accepts_iff {params : ListParams} (hTracking : NulFree params.trackingNumber)
    (hOrigin : NulFree params.origin) (hDestination : NulFree params.destination)
    (shipment : Shipment) :
    params.query.live.accepts shipment = true ↔ params.Shows shipment := by
  rw [Query.accepts_live, Bool.and_eq_true, Option.isNone_iff_eq_none]
  refine and_congr_right fun _ => ?_
  rw [← regexCondition_holds hPcre hTracking, ← regexCondition_holds hPcre hOrigin,
    ← regexCondition_holds hPcre hDestination]
  have hNone : regexCondition none = none := rfl
  have hTrackingField : shipment.field? "trackingNumber" =
      some (.string shipment.trackingNumber) := rfl
  have hOriginField : shipment.field? "origin" = some (.string shipment.origin) := rfl
  have hDestinationField : shipment.field? "destination" =
      some (.string shipment.destination) := rfl
  simp only [ListParams.query, ListParams.others, accepts_given, List.all_cons, List.all_nil,
    Bool.and_eq_true, hTrackingField, hOriginField, hDestinationField, hNone, Option.all_none]
  tauto

theorem ExportParams.accepts_iff {params : ExportParams} (hOrigin : NulFree params.origin)
    (hDestination : NulFree params.destination) (shipment : Shipment) :
    params.query.live.accepts shipment = true ↔ params.Shows shipment := by
  rw [Query.accepts_live, Bool.and_eq_true, Option.isNone_iff_eq_none]
  refine and_congr_right fun _ => ?_
  rw [← regexCondition_holds hPcre hOrigin, ← regexCondition_holds hPcre hDestination]
  have hNone : regexCondition none = none := rfl
  have hOriginField : shipment.field? "origin" = some (.string shipment.origin) := rfl
  have hDestinationField : shipment.field? "destination" =
      some (.string shipment.destination) := rfl
  simp only [ExportParams.query, ExportParams.others, accepts_given, List.all_cons,
    List.all_nil, Bool.and_eq_true, hOriginField, hDestinationField, hNone, Option.all_none]
  tauto

omit hPcre [TextMatching] [Pcre.CaseTable] in
theorem select_eq_keep {query : Query} {keeps : Shipment → Prop}
    (h : ∀ shipment, query.accepts shipment = true ↔ keeps shipment)
    (sort : List (String × SortOrder)) (shipments : List Shipment) :
    query.select sort shipments = keep keeps sort shipments := by
  rw [Query.select, keep]
  refine congrArg (List.insertionSort _) (List.filter_congr fun shipment _ => ?_)
  exact Bool.eq_iff_iff.mpr
    ((h shipment).trans (@decide_eq_true_iff _ (Classical.propDecidable _)).symm)

/-- Whatever characters the filters hold, the listing and the export keep exactly the
shipments whose fields hold them as they are, but for case. -/
theorem textFilters_literal :
    (∀ (params : ListParams) (store : Store), NulFree params.trackingNumber →
      NulFree params.origin → NulFree params.destination →
        ((getShipmentsService params).run backend quiet store).2.1 =
          .ok { data := window (offsetSkip params.page params.limit) params.limit
                  (keep params.Shows params.sort store.shipments.docs)
                page := params.page
                limit := params.limit
                total := (keep params.Shows params.sort store.shipments.docs).length }) ∧
    ∀ (params : ExportParams) (store : Store), NulFree params.origin →
      NulFree params.destination →
        ((exportShipmentsService params).run backend quiet store).2.1 =
          let kept := keep params.Shows [("createdAt", .descending)] store.shipments.docs
          if exportMaxRecords < kept.length then .error (exportTooLarge kept.length)
          else .ok kept := by
  constructor
  · intro params store hTracking hOrigin hDestination
    have hKept := select_eq_keep (params.accepts_iff hPcre hTracking hOrigin hDestination)
      params.sort store.shipments.docs
    rw [run_getShipments, ← hKept, Query.select, List.length_insertionSort]
  · intro params store hOrigin hDestination
    have hKept := select_eq_keep (params.accepts_iff hPcre hOrigin hDestination)
      [("createdAt", .descending)] store.shipments.docs
    have hCount : (store.shipments.docs.filter params.query.live.accepts).length =
        (keep params.Shows [("createdAt", .descending)] store.shipments.docs).length := by
      rw [← hKept, Query.select, List.length_insertionSort]
    rw [run_export, hCount, hKept]
    dsimp only
    split
    · rfl
    · rename_i hFits
      rw [window, if_neg (by decide), List.drop_zero, List.take_of_length_le (Nat.le_of_not_lt hFits)]

end Requests

section Sample

/-- Letters have one other case. -/
@[reducible] private def asciiCases : Pcre.CaseTable :=
  ⟨fun char => [char, char.toLower, char.toUpper]⟩

/-- A database that takes patterns as they are parsed, with that table. -/
@[reducible] private def parsedPatterns : TextMatching where
  regexMatches pattern text :=
    (Pcre.parse pattern.toList).any fun regex => @Pcre.Regex.search asciiCases regex text.toList
  textMatches _ _ := false

private theorem parsedPatterns_isPcre : @RegexIsPcre parsedPatterns asciiCases := by
  intro pattern text regex _ hParse
  exact congrArg (Option.any fun regex => @Pcre.Regex.search asciiCases regex text.toList) hParse

private def bracketedStore : Store :=
  { shipments := ⟨[{ sampleShipment with origin := "Berth [4] (a.b)" }], by decide⟩ }

/-- Brackets and a dot stand for themselves. -/
theorem textFilters_literal_sample :
    ∃ result, ((@getShipmentsService parsedPatterns
        { page := 1, limit := 10, origin := some "[4] (A.", filters := {} }).run
          backend quiet bracketedStore).2.1 = .ok result ∧ result.total = 1 ∧
      result.total = (@keep (@ListParams.Shows parsedPatterns asciiCases
        { page := 1, limit := 10, origin := some "[4] (A.", filters := {} })
          [("createdAt", .descending), ("_id", .descending)] bracketedStore.shipments.docs).length := by
  have hRun := (@textFilters_literal parsedPatterns asciiCases parsedPatterns_isPcre).1
    { page := 1, limit := 10, origin := some "[4] (A.", filters := {} } bracketedStore
    (by simp [NulFree]) (by simp [NulFree]) (by simp [NulFree])
  refine ⟨_, rfl, by decide +kernel, ?_⟩
  exact congrArg ShipmentListResult.total (Except.ok.inj hRun)

end Sample

end Navin
