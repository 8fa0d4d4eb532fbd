import Mathlib.Data.List.Lex
import Navin.Backend.Runs
import Navin.Semantics.Paging
import Navin.Shipments.QueryService

/-! A client that follows the cursors of a shipment's timeline to its end. -/
namespace Navin

open Async Paging

section Keys

/-- Timestamps and what follows them in a cursor key are written in these. -/
def isKeyChar (c : Char) : Bool :=
  c.isAlphanum || "-+:._".toList.contains c

def isKeyPart (text : String) : Bool :=
  text.toList.all isKeyChar

def isKeyText (text : String) : Bool :=
  text.toList.all fun c => isKeyChar c || c = '|'

/-- On the texts of cursor keys `localeCompare` is a total order. -/
structure Locale.OrdersKeyTexts (_ : Locale) : Prop where
  eq_iff : ∀ first second, isKeyText first = true → isKeyText second = true →
    (Locale.compare first second = 0 ↔ first = second)
  flip : ∀ first second, isKeyText first = true → isKeyText second = true →
    (Locale.compare first second < 0 ↔ 0 < Locale.compare second first)
  trans : ∀ first second third, isKeyText first = true → isKeyText second = true →
    isKeyText third = true → Locale.compare first second ≤ 0 → Locale.compare second third ≤ 0 →
      Locale.compare first third ≤ 0

variable {first second : String}

theorem isKeyPart_append (hFirst : isKeyPart first = true) (hSecond : isKeyPart second = true) :
    isKeyPart (first ++ second) = true := by
  rw [isKeyPart, String.toList_append, List.all_append, Bool.and_eq_true]
  exact ⟨hFirst, hSecond⟩

theorem isKeyText_of_isKeyPart (h : isKeyPart first = true) : isKeyText first = true := by
  rw [isKeyPart, List.all_eq_true] at h
  rw [isKeyText, List.all_eq_true]
  intro c hc
  rw [h c hc]
  rfl

theorem isKeyText_buildTimelineCursorKey (hFirst : isKeyPart first = true)
    (hSecond : isKeyPart second = true) :
    isKeyText (buildTimelineCursorKey first second) = true := by
  simp only [buildTimelineCursorKey, isKeyText, String.toList_append, List.all_append,
    Bool.and_eq_true]
  exact ⟨⟨isKeyText_of_isKeyPart hFirst, by decide⟩, isKeyText_of_isKeyPart hSecond⟩

theorem bar_of_isKeyPart (h : isKeyPart first = true) : '|' ∉ first.toList := by
  intro hBar
  rw [isKeyPart, List.all_eq_true] at h
  exact absurd (h _ hBar) (by decide)

/-- A cursor key tells its parts. -/
theorem buildTimelineCursorKey_inj {timestamp suffix timestamp' suffix' : String}
    (hTimestamp : isKeyPart timestamp = true) (hTimestamp' : isKeyPart timestamp' = true)
    (hSuffix : isKeyPart suffix = true) :
    buildTimelineCursorKey timestamp suffix = buildTimelineCursorKey timestamp' suffix' ↔
      timestamp = timestamp' ∧ suffix = suffix' := by
  constructor
  · intro h
    have hLists := congrArg String.toList h
    simp only [buildTimelineCursorKey, String.toList_append, List.append_assoc] at hLists
    obtain ⟨hFirst, -, hSecond⟩ := (List.append_cons_inj_of_notMem (bar_of_isKeyPart hTimestamp)
      (bar_of_isKeyPart hSuffix)).mp hLists
    exact ⟨String.toList_injective hFirst, String.toList_injective hSecond⟩
  · rintro ⟨rfl, rfl⟩
    rfl

theorem isKeyPart_toString (n : Nat) : isKeyPart (toString n) = true := by
  rw [isKeyPart, List.all_eq_true]
  intro c hc
  have hDigits : c ∈ Nat.toDigits 10 n := by
    simpa [toString, Nat.repr] using hc
  have hDigit := Nat.isDigit_of_mem_toDigits (Nat.zero_lt_succ 9) (Nat.le_refl 10) hDigits
  simp [isKeyChar, Char.isAlphanum, hDigit]

theorem isKeyPart_padded (width n : Nat) : isKeyPart (padded width n) = true := by
  refine isKeyPart_append ?_ (isKeyPart_toString n)
  rw [isKeyPart, String.toList_ofList, List.all_eq_true]
  intro c hc
  rw [List.eq_of_mem_replicate hc]
  decide

theorem isKeyPart_toISOString (date : Date) : isKeyPart date.toISOString = true := by
  have hYear (year : Int) : isKeyPart (Date.yearText year) = true := by
    rw [Date.yearText]
    split
    · exact isKeyPart_padded _ _
    · refine isKeyPart_append ?_ (isKeyPart_padded _ _)
      split <;> decide
  have hMark {text : String} (h : isKeyPart text = true) (mark : String) (width n : Nat)
      (hMark : isKeyPart mark = true) : isKeyPart (text ++ mark ++ padded width n) = true :=
    isKeyPart_append (isKeyPart_append h hMark) (isKeyPart_padded width n)
  have hDay (year : Int) (month day : Nat) := hMark (hMark (hYear year) "-" 2 month (by decide))
    "-" 2 day (by decide)
  exact isKeyPart_append (hMark (hMark (hMark (hMark (hDay _ _ _) "T" 2 _ (by decide)) ":" 2 _
    (by decide)) ":" 2 _ (by decide)) "." 3 _ (by decide)) (by decide)

theorem isKeyPart_id (id : ObjectId) : isKeyPart id.toString = true := by
  have hPrinted := id.printed
  simp only [isPrintedId, Bool.and_eq_true, List.all_eq_true, List.contains_iff_mem] at hPrinted
  rw [isKeyPart, ObjectId.toString, String.toList_ofList, List.all_eq_true]
  have hDigits : ∀ c ∈ lowerHexDigits, isKeyChar c = true :=
    List.all_eq_true.mp (by decide)
  exact fun c hc => hDigits c (hPrinted.2 c hc)

end Keys

section Events

/-- The cursor key of an event is its timestamp and a suffix. -/
structure TimelineEventWithCursor.Keyed (event : TimelineEventWithCursor) (suffix : String) :
    Prop where
  key : event.cursorKey = buildTimelineCursorKey event.timestamp suffix
  timestamp : isKeyPart event.timestamp = true
  suffix : isKeyPart suffix = true

theorem Milestone.keyed (milestone : Milestone) :
    milestone.timelineEvent.Keyed ("status-" ++ milestone.name.name) where
  key := rfl
  timestamp := isKeyPart_toISOString _
  suffix := by cases milestone.name <;> decide

theorem DeliveryProof.keyed (proof : DeliveryProof) : proof.timelineEvent.Keyed "proof" where
  key := rfl
  timestamp := isKeyPart_toISOString _
  suffix := by decide

theorem TelemetryRow.keyed (row : TelemetryRow) :
    row.timelineEvent.Keyed ("telemetry-" ++ row.id.toString) where
  key := rfl
  timestamp := isKeyPart_toISOString _
  suffix := isKeyPart_append (by decide) (isKeyPart_id _)

theorem AnomalyRow.keyed (row : AnomalyRow) :
    row.timelineEvent.Keyed ("anomaly-" ++ row.id.toString) where
  key := rfl
  timestamp := isKeyPart_toISOString _
  suffix := isKeyPart_append (by decide) (isKeyPart_id _)

variable {first second : TimelineEventWithCursor} {suffix suffix' : String}

theorem TimelineEventWithCursor.Keyed.inj (hFirst : first.Keyed suffix)
    (hSecond : second.Keyed suffix') : first.cursorKey = second.cursorKey ↔
      first.timestamp = second.timestamp ∧ suffix = suffix' := by
  rw [hFirst.key, hSecond.key]
  exact buildTimelineCursorKey_inj hFirst.timestamp hSecond.timestamp hFirst.suffix

theorem TimelineEventWithCursor.Keyed.isKeyText (h : first.Keyed suffix) :
    isKeyText first.cursorKey = true := by
  rw [h.key]
  exact isKeyText_buildTimelineCursorKey h.timestamp h.suffix

/-- What the timeline is made of, before it is sorted. -/
def timelineSources (shipment : Shipment) (telemetry : List TelemetryRow)
    (anomalies : List AnomalyRow) : List TimelineEventWithCursor :=
  shipment.milestones.map (·.timelineEvent) ++
    shipment.deliveryProof.toList.map (·.timelineEvent) ++
    (telemetry.filter (·.anchored)).map (·.timelineEvent) ++
    anomalies.map (·.timelineEvent)

theorem keyed_of_mem {shipment : Shipment} {telemetry : List TelemetryRow}
    {anomalies : List AnomalyRow} {event : TimelineEventWithCursor}
    (h : event ∈ timelineSources shipment telemetry anomalies) : ∃ suffix, event.Keyed suffix := by
  simp only [timelineSources, List.mem_append, List.mem_map] at h
  rcases h with ((⟨milestone, -, rfl⟩ | ⟨proof, -, rfl⟩) | ⟨row, -, rfl⟩) | ⟨row, -, rfl⟩
  · exact ⟨_, milestone.keyed⟩
  · exact ⟨_, proof.keyed⟩
  · exact ⟨_, row.keyed⟩
  · exact ⟨_, row.keyed⟩

variable [locale : Locale] (hLocale : locale.OrdersKeyTexts)
include hLocale

theorem compare_self {text : String} (h : isKeyText text = true) : Locale.compare text text = 0 :=
  (hLocale.eq_iff text text h h).mpr rfl

/-- The order of events, with its two comparisons spelled out. -/
theorem timelineBefore_iff (hFirst : first.Keyed suffix) (hSecond : second.Keyed suffix') :
    timelineBefore first second = true ↔
      Locale.compare first.timestamp second.timestamp < 0 ∨
        first.timestamp = second.timestamp ∧
          Locale.compare first.cursorKey second.cursorKey ≤ 0 := by
  have hEq := hLocale.eq_iff _ _ (isKeyText_of_isKeyPart hFirst.timestamp)
    (isKeyText_of_isKeyPart hSecond.timestamp)
  unfold timelineBefore
  by_cases hSame : first.timestamp = second.timestamp
  · rw [hEq.mpr hSame]
    simp [hSame]
  · have hNe : Locale.compare first.timestamp second.timestamp ≠ 0 := fun h => hSame (hEq.mp h)
    simp only [ne_eq, hNe, not_false_eq_true, if_true, decide_eq_true_eq, hSame,
      false_and, or_false]
    omega

/-- Events are ordered by their keys. -/
theorem timelineBefore_ordersKeys {events : List TimelineEventWithCursor}
    (h : ∀ event ∈ events, ∃ suffix, event.Keyed suffix) :
    OrdersKeys (·.cursorKey) timelineBefore events where
  total first hFirst second hSecond := by
    obtain ⟨suffix, hFirst⟩ := h first hFirst
    obtain ⟨suffix', hSecond⟩ := h second hSecond
    have hTime := isKeyText_of_isKeyPart hFirst.timestamp
    have hTime' := isKeyText_of_isKeyPart hSecond.timestamp
    rw [timelineBefore_iff hLocale hFirst hSecond, timelineBefore_iff hLocale hSecond hFirst]
    have hFlip := hLocale.flip _ _ hTime' hTime
    have hEq := hLocale.eq_iff _ _ hTime hTime'
    have hKeyFlip := hLocale.flip _ _ hSecond.isKeyText hFirst.isKeyText
    by_cases hSame : first.timestamp = second.timestamp
    · simp only [hSame, eq_self, true_and]
      omega
    · have hNe : Locale.compare first.timestamp second.timestamp ≠ 0 := fun h => hSame (hEq.mp h)
      omega
  trans first hFirst second hSecond third hThird hBefore hBefore' := by
    obtain ⟨suffix, hFirst⟩ := h first hFirst
    obtain ⟨suffix', hSecond⟩ := h second hSecond
    obtain ⟨suffix'', hThird⟩ := h third hThird
    have hTime := isKeyText_of_isKeyPart hFirst.timestamp
    have hTime' := isKeyText_of_isKeyPart hSecond.timestamp
    have hTime'' := isKeyText_of_isKeyPart hThird.timestamp
    rw [timelineBefore_iff hLocale hFirst hSecond] at hBefore
    rw [timelineBefore_iff hLocale hSecond hThird] at hBefore'
    rw [timelineBefore_iff hLocale hFirst hThird]
    rcases hBefore with hLess | ⟨hSame, hKey⟩
    · rcases hBefore' with hLess' | ⟨hSame', -⟩
      · have hTrans := hLocale.trans _ _ _ hTime hTime' hTime'' hLess.le hLess'.le
        have hNe : first.timestamp ≠ third.timestamp := by
          intro hBack
          rw [← hBack] at hLess'
          have hFlip := hLocale.flip _ _ hTime hTime'
          omega
        have hEq := hLocale.eq_iff _ _ hTime hTime''
        have hNonzero : Locale.compare first.timestamp third.timestamp ≠ 0 :=
          fun h => hNe (hEq.mp h)
        omega
      · exact .inl (hSame' ▸ hLess)
    · rcases hBefore' with hLess' | ⟨hSame', hKey'⟩
      · exact .inl (hSame ▸ hLess')
      · exact .inr ⟨hSame.trans hSame', hLocale.trans _ _ _ hFirst.isKeyText hSecond.isKeyText
          hThird.isKeyText hKey hKey'⟩
  key_eq first hFirst second hSecond hBefore hBefore' := by
    obtain ⟨suffix, hFirst⟩ := h first hFirst
    obtain ⟨suffix', hSecond⟩ := h second hSecond
    have hTime := isKeyText_of_isKeyPart hFirst.timestamp
    have hTime' := isKeyText_of_isKeyPart hSecond.timestamp
    rw [timelineBefore_iff hLocale hFirst hSecond] at hBefore
    rw [timelineBefore_iff hLocale hSecond hFirst] at hBefore'
    have hFlip := hLocale.flip _ _ hTime hTime'
    have hEq := hLocale.eq_iff _ _ hTime hTime'
    have hKeyFlip := hLocale.flip _ _ hFirst.isKeyText hSecond.isKeyText
    have hKeyEq := hLocale.eq_iff _ _ hFirst.isKeyText hSecond.isKeyText
    rcases hBefore with hLess | ⟨hSame, hKey⟩
    · have hNe : second.timestamp ≠ first.timestamp := fun hSame => by
        have hZero := hEq.mpr hSame.symm
        omega
      simp only [hNe, false_and, or_false] at hBefore'
      omega
    · rw [← hSame, compare_self hLocale hTime] at hBefore'
      rcases hBefore' with hLess | ⟨-, hKey'⟩
      · omega
      · exact hKeyEq.mp (by omega)
  congr first hFirst second hSecond hKey := by
    obtain ⟨suffix, hFirst⟩ := h first hFirst
    obtain ⟨suffix', hSecond⟩ := h second hSecond
    rw [timelineBefore_iff hLocale hFirst hSecond, ((hFirst.inj hSecond).mp hKey).1]
    refine .inr ⟨rfl, ?_⟩
    rw [(hLocale.eq_iff _ _ hFirst.isKeyText hSecond.isKeyText).mpr hKey]

end Events

section Copies

/-- The milestones with the same name and the same printed time. -/
def Shipment.repeats (shipment : Shipment) (milestone : Milestone) : Nat :=
  shipment.milestones.countP fun other =>
    other.name = milestone.name &&
      other.timestamp.toISOString = milestone.timestamp.toISOString

theorem head?_append_of_head {start rest : String} {c : Char} (h : start.toList.head? = some c) :
    (start ++ rest).toList.head? = some c := by
  rw [String.toList_append, List.head?_append, h]
  rfl

/-- The cursor keys of these events go on after their timestamps with this letter. -/
def KeyedByLetter (letter : Char) (events : List TimelineEventWithCursor) : Prop :=
  ∀ event ∈ events, ∃ suffix, event.Keyed suffix ∧ suffix.toList.head? = some letter

theorem keyedByLetter_map {α : Type} {f : α → TimelineEventWithCursor} {suffix : α → String}
    {letter : Char} (hKeyed : ∀ source, (f source).Keyed (suffix source))
    (hHead : ∀ source, (suffix source).toList.head? = some letter) (sources : List α) :
    KeyedByLetter letter (sources.map f) := by
  intro event hEvent
  obtain ⟨source, -, rfl⟩ := List.mem_map.mp hEvent
  exact ⟨suffix source, hKeyed source, hHead source⟩

theorem milestones_keyedByLetter (milestones : List Milestone) :
    KeyedByLetter 's' (milestones.map (·.timelineEvent)) :=
  keyedByLetter_map Milestone.keyed (fun _ => head?_append_of_head (by decide)) milestones

theorem proofs_keyedByLetter (proofs : List DeliveryProof) :
    KeyedByLetter 'p' (proofs.map (·.timelineEvent)) :=
  keyedByLetter_map DeliveryProof.keyed (fun _ => by decide) proofs

theorem telemetry_keyedByLetter (rows : List TelemetryRow) :
    KeyedByLetter 't' (rows.map (·.timelineEvent)) :=
  keyedByLetter_map TelemetryRow.keyed (fun _ => head?_append_of_head (by decide)) rows

theorem anomalies_keyedByLetter (rows : List AnomalyRow) :
    KeyedByLetter 'a' (rows.map (·.timelineEvent)) :=
  keyedByLetter_map AnomalyRow.keyed (fun _ => head?_append_of_head (by decide)) rows

/-- Events of another letter have other keys. -/
theorem copies_of_letter {letter other : Char} {events : List TimelineEventWithCursor}
    (h : KeyedByLetter letter events) {event : TimelineEventWithCursor}
    (hEvent : KeyedByLetter other [event]) (hNe : letter ≠ other) : copies (·.cursorKey) events event = 0 := by
  obtain ⟨suffix, hKeyed, hHead⟩ := hEvent event List.mem_cons_self
  rw [copies, List.countP_eq_zero]
  intro later hLater hKey
  obtain ⟨suffix', hKeyed', hHead'⟩ := h later hLater
  have hSame := ((hKeyed'.inj hKeyed).mp (of_decide_eq_true hKey)).2
  rw [hSame, hHead] at hHead'
  exact hNe (Option.some.inj hHead').symm

theorem copies_append {first second : List TimelineEventWithCursor}
    {event : TimelineEventWithCursor} : copies (·.cursorKey) (first ++ second) event =
      copies (·.cursorKey) first event + copies (·.cursorKey) second event :=
  List.countP_append

theorem statusSuffix_inj {first second : ShipmentStatus} :
    "status-" ++ first.name = "status-" ++ second.name ↔ first = second := by
  constructor
  · intro h
    cases first <;> cases second <;> first | rfl | exact absurd h (by decide)
  · rintro rfl
    rfl

theorem append_toString_inj {start : String} {first second : ObjectId}
    (h : start ++ first.toString = start ++ second.toString) : first = second := by
  have hLists := congrArg String.toList h
  rw [String.toList_append, String.toList_append, List.append_cancel_left_eq] at hLists
  exact ObjectId.toString_injective (String.toList_injective hLists)

/-- Rows of their own identifiers have their own keys. -/
theorem copies_rows {α : Type} {f : α → TimelineEventWithCursor} {start : String}
    {id : α → ObjectId} (hKeyed : ∀ source, (f source).Keyed (start ++ (id source).toString))
    {rows : List α} (hRows : (rows.map id).Nodup) {row : α} :
    copies (·.cursorKey) (rows.map f) (f row) ≤ 1 := by
  calc copies (·.cursorKey) (rows.map f) (f row)
      ≤ rows.countP fun other => id other = id row := by
        rw [copies, List.countP_map]
        refine List.countP_mono_left fun other _ hKey => ?_
        simp only [Function.comp_apply, decide_eq_true_eq] at hKey ⊢
        exact append_toString_inj (((hKeyed other).inj (hKeyed row)).mp hKey).2
    _ = (rows.map id).count (id row) := by
        rw [List.count, List.countP_map]
        rfl
    _ ≤ 1 := List.nodup_iff_count_le_one.mp hRows _

variable {shipment : Shipment} {telemetry : List TelemetryRow} {anomalies : List AnomalyRow}

theorem copies_milestone (milestone : Milestone) :
    copies (·.cursorKey) (timelineSources shipment telemetry anomalies) milestone.timelineEvent =
      shipment.repeats milestone := by
  have hLetter := milestones_keyedByLetter [milestone]
  rw [timelineSources, copies_append, copies_append, copies_append,
    copies_of_letter (proofs_keyedByLetter _) hLetter (by decide),
    copies_of_letter (telemetry_keyedByLetter _) hLetter (by decide),
    copies_of_letter (anomalies_keyedByLetter _) hLetter (by decide), copies, List.countP_map,
    Shipment.repeats]
  refine List.countP_congr fun other _ => ?_
  simp only [Function.comp_apply, decide_eq_true_eq, Bool.and_eq_true]
  rw [other.keyed.inj milestone.keyed, statusSuffix_inj, and_comm]
  rfl

/-- Only milestones have copies. -/
theorem copies_le_one (hTelemetry : (telemetry.map (·.id)).Nodup)
    (hAnomalies : (anomalies.map (·.id)).Nodup) {event : TimelineEventWithCursor}
    (h : event ∈ timelineSources shipment telemetry anomalies) :
    (∃ milestone ∈ shipment.milestones, milestone.timelineEvent = event) ∨
      copies (·.cursorKey) (timelineSources shipment telemetry anomalies) event ≤ 1 := by
  simp only [timelineSources, List.mem_append, List.mem_map] at h
  simp only [timelineSources, copies_append]
  rcases h with ((⟨milestone, hMilestone, rfl⟩ | ⟨proof, -, rfl⟩) | ⟨row, -, rfl⟩) | ⟨row, -, rfl⟩
  · exact .inl ⟨milestone, hMilestone, rfl⟩
  · have hLetter := proofs_keyedByLetter [proof]
    rw [copies_of_letter (milestones_keyedByLetter _) hLetter (by decide),
      copies_of_letter (telemetry_keyedByLetter _) hLetter (by decide),
      copies_of_letter (anomalies_keyedByLetter _) hLetter (by decide)]
    have hOwn : copies (·.cursorKey) (shipment.deliveryProof.toList.map (·.timelineEvent))
        proof.timelineEvent ≤ (shipment.deliveryProof.toList.map (·.timelineEvent)).length :=
      List.countP_le_length
    rw [List.length_map, Option.length_toList] at hOwn
    split at hOwn <;> exact .inr (by omega)
  · have hLetter := telemetry_keyedByLetter [row]
    have hOwn : copies (·.cursorKey) ((telemetry.filter (·.anchored)).map (·.timelineEvent))
        row.timelineEvent ≤ 1 :=
      copies_rows TelemetryRow.keyed (hTelemetry.sublist (List.filter_sublist.map _))
    rw [copies_of_letter (milestones_keyedByLetter _) hLetter (by decide),
      copies_of_letter (proofs_keyedByLetter _) hLetter (by decide),
      copies_of_letter (anomalies_keyedByLetter _) hLetter (by decide)]
    exact .inr (by omega)
  · have hLetter := anomalies_keyedByLetter [row]
    have hOwn : copies (·.cursorKey) (anomalies.map (·.timelineEvent)) row.timelineEvent ≤ 1 :=
      copies_rows AnomalyRow.keyed hAnomalies
    rw [copies_of_letter (milestones_keyedByLetter _) hLetter (by decide),
      copies_of_letter (proofs_keyedByLetter _) hLetter (by decide),
      copies_of_letter (telemetry_keyedByLetter _) hLetter (by decide)]
    exact .inr (by omega)

end Copies

section Timeline

variable [locale : Locale] (shipment : Shipment) (telemetry : List TelemetryRow)
  (anomalies : List AnomalyRow) (limit : Nat)

/-- The events that are to come before a milestone's. -/
def eventsBefore (milestone : Milestone) : Nat :=
  Paging.rank (·.cursorKey) timelineBefore (timelineSources shipment telemetry anomalies)
    milestone.timelineEvent

/-- No page that another one follows ends on a milestone that repeats the name and the time
of the one before it. -/
def NoPageEndsOnRepeat : Prop :=
  ∀ milestone ∈ shipment.milestones, ∀ pages,
    pages * limit < (timelineSources shipment telemetry anomalies).length →
      pages * limit ≤ eventsBefore shipment telemetry anomalies milestone +
        shipment.repeats milestone →
          pages * limit ≤ eventsBefore shipment telemetry anomalies milestone + 1

variable {shipment telemetry anomalies limit} (hLocale : locale.OrdersKeyTexts)

omit locale in
theorem sources_ordersKeys [locale : Locale] (hLocale : locale.OrdersKeyTexts) :
    OrdersKeys (·.cursorKey) timelineBefore (timelineSources shipment telemetry anomalies) :=
  timelineBefore_ordersKeys hLocale fun _ hEvent => keyed_of_mem hEvent

theorem timelineEvents_perm :
    (timelineEvents shipment telemetry anomalies).Perm
      (timelineSources shipment telemetry anomalies) :=
  List.perm_insertionSort _ _

include hLocale

theorem timelineEvents_sorted : (timelineEvents shipment telemetry anomalies).Pairwise
    fun first second => timelineBefore first second = true :=
  (sources_ordersKeys hLocale).pairwise_insertionSort

theorem freshEnds_timelineEvents (hTelemetry : (telemetry.map (·.id)).Nodup)
    (hAnomalies : (anomalies.map (·.id)).Nodup) :
    FreshEnds (·.cursorKey) (timelineEvents shipment telemetry anomalies) limit ↔
      NoPageEndsOnRepeat shipment telemetry anomalies limit := by
  rw [freshEnds_iff ((sources_ordersKeys hLocale).of_subset timelineEvents_perm.subset)
    (timelineEvents_sorted hLocale), timelineEvents_perm.length_eq]
  constructor
  · intro h milestone hMilestone pages hMore hHigh
    have hMem : milestone.timelineEvent ∈ timelineSources shipment telemetry anomalies := by
      simp only [timelineSources, List.append_assoc]
      exact List.mem_append_left _ (List.mem_map_of_mem hMilestone)
    have hEnd := h _ (timelineEvents_perm.mem_iff.mpr hMem) pages hMore
    rw [rank_perm timelineEvents_perm, copies_perm timelineEvents_perm, copies_milestone] at hEnd
    exact hEnd hHigh
  · intro h event hEvent pages hMore hHigh
    rw [rank_perm timelineEvents_perm] at hHigh ⊢
    rw [copies_perm timelineEvents_perm] at hHigh
    rcases copies_le_one hTelemetry hAnomalies (timelineEvents_perm.mem_iff.mp hEvent) with
      ⟨milestone, hMilestone, rfl⟩ | hOnce
    · rw [copies_milestone] at hHigh
      exact h milestone hMilestone pages hMore hHigh
    · omega

end Timeline

section Client

variable [locale : Locale]

/-- Call the service until there is no more. The fuel bounds the calls; the flag tells
whether the last page was seen. -/
def followTimeline (id : String) (limit : Nat) (context : AccessContext) :
    (fuel : Nat) → Option String → BackendM (List TimelineEvent × Bool)
  | 0, _ => return ([], false)
  | fuel + 1, cursor => do
      let page ← getShipmentTimelineService id cursor limit context
      if page.hasMore then do
        let (rest, ended) ← followTimeline id limit context fuel page.nextCursor
        return (page.data ++ rest, ended)
      else return (page.data, true)

/-- The caller may read the shipment. -/
def AccessContext.reads (context : AccessContext) (shipment : Shipment) : Prop :=
  context.role = .superAdmin ∨ ∃ organizationId,
    truthy context.organizationId = some organizationId ∧ ownedBy shipment organizationId = true

variable {env : Nat → Decision} {store : Store} {id : String} {shipmentId : ObjectId}
  {shipment : Shipment} {context : AccessContext} {cursor : Option String} {limit : Nat}

omit locale in
theorem findShipmentById_run (hQuiet : Quiet env) (hId : ObjectId.cast? id = some shipmentId) :
    (findShipmentById id).run backend env store =
      (store, .ok (store.liveShipment shipmentId), fun n => env (n + 1)) := by
  rw [findShipmentById, run_request hQuiet]
  simp only [execute, castingId, hId]

omit locale in
theorem getShipmentByIdService_run (hQuiet : Quiet env) (hId : ObjectId.cast? id = some shipmentId)
    (hShipment : store.liveShipment shipmentId = some shipment) (hReads : context.reads shipment) :
    ∃ env', (getShipmentByIdService id context).run backend env store =
      (store, .ok shipment, env') ∧ Quiet env' := by
  rw [getShipmentByIdService, Program.run_bind_ok (findShipmentById_run hQuiet hId), hShipment]
  by_cases hRole : context.role = .superAdmin
  · simp only [authorizeDetail, if_pos hRole]
    exact ⟨_, rfl, fun n => hQuiet _⟩
  · obtain ⟨organizationId, hOrganization, hOwned⟩ := hReads.resolve_left hRole
    have hNonempty : id ≠ "" := by
      rintro rfl
      cases hId
    have hOrganization' : truthy (some organizationId) = some organizationId := by
      rw [truthy, Option.filter_eq_some_iff] at hOrganization
      exact truthy_of_ne (of_decide_eq_true hOrganization.2)
    simp only [authorizeDetail, if_neg hRole, hOrganization, isAuthorizedForShipment,
      truthy_of_ne hNonempty, hOrganization', bind_assoc]
    have hAfter : Quiet fun n => env (n + 1) := fun n => hQuiet (n + 1)
    rw [Program.run_bind_ok (findShipmentById_run hAfter hId), hShipment]
    simp only [Option.any_some, hOwned, pure_bind, if_true]
    exact ⟨_, rfl, fun n => hQuiet _⟩

/-- The rows of a shipment that are not deleted. -/
def Store.liveTelemetry (store : Store) (shipmentId : ObjectId) : List TelemetryRow :=
  store.telemetry.filter fun row => row.shipmentId = shipmentId && row.deletedAt.isNone

def Store.liveAnomalies (store : Store) (shipmentId : ObjectId) : List AnomalyRow :=
  store.anomalies.filter fun row => row.shipmentId = shipmentId && row.deletedAt.isNone

omit locale in
theorem liveTelemetry_nodup (h : (store.telemetry.map (·.id)).Nodup) (shipmentId : ObjectId) :
    ((store.liveTelemetry shipmentId).map (·.id)).Nodup :=
  h.sublist (List.filter_sublist.map _)

omit locale in
theorem liveAnomalies_nodup (h : (store.anomalies.map (·.id)).Nodup) (shipmentId : ObjectId) :
    ((store.liveAnomalies shipmentId).map (·.id)).Nodup :=
  h.sublist (List.filter_sublist.map _)

/-- The events of a shipment, in the order in which they are to be handed out. -/
abbrev Store.timeline (store : Store) (shipment : Shipment) (shipmentId : ObjectId) :
    List TimelineEventWithCursor :=
  timelineEvents shipment (store.liveTelemetry shipmentId) (store.liveAnomalies shipmentId)

theorem getShipmentTimelineService_run (cursor : Option String) (limit : Nat) (hQuiet : Quiet env)
    (hId : ObjectId.cast? id = some shipmentId)
    (hShipment : store.liveShipment shipmentId = some shipment) (hReads : context.reads shipment) :
    ∃ env', (getShipmentTimelineService id cursor limit context).run backend env store =
      (store, .ok (paginateTimeline (store.timeline shipment shipmentId) cursor limit), env') ∧
        Quiet env' := by
  obtain ⟨after, hDetail, hAfter⟩ := getShipmentByIdService_run hQuiet hId hShipment hReads
  rw [getShipmentTimelineService, Program.run_bind_ok hDetail]
  have hTelemetry : (request (.telemetryFind id)).run backend after store =
      (store, .ok (store.liveTelemetry shipmentId), fun n => after (n + 1)) := by
    rw [run_request hAfter]
    simp only [execute, castingId, hId]
    rfl
  have hAnomalies : (request (.anomalyFind id)).run backend (fun n => after (n + 1)) store =
      (store, .ok (store.liveAnomalies shipmentId), fun n => after (n + 1 + 1)) := by
    rw [run_request fun n => hAfter (n + 1)]
    simp only [execute, castingId, hId]
    rfl
  rw [Program.run_bind_ok (Program.run_promiseAll hTelemetry hAnomalies)]
  exact ⟨_, rfl, fun n => hAfter _⟩

omit locale in
theorem TimelineEventWithCursor.Keyed.ne_empty {event : TimelineEventWithCursor} {suffix : String}
    (h : event.Keyed suffix) : event.cursorKey ≠ "" := by
  intro hEmpty
  have hLength := congrArg String.length hEmpty
  rw [h.key, buildTimelineCursorKey, String.length_append, String.length_append] at hLength
  have hBar : "|".length = 1 := rfl
  have hNone : "".length = 0 := rfl
  omega

omit locale in
/-- The cursor after a page is no empty text. -/
theorem truthy_nextCursor {start count : Nat} {events : List TimelineEventWithCursor}
    (h : ∀ event ∈ events, ∃ suffix, event.Keyed suffix) :
    truthy ((((events.drop start).take (limit + 1)).take count).getLast?.map (·.cursorKey)) =
      (((events.drop start).take (limit + 1)).take count).getLast?.map (·.cursorKey) := by
  cases hLast : (((events.drop start).take (limit + 1)).take count).getLast? with
  | none => rfl
  | some last =>
      have hMem := List.mem_of_mem_drop (List.mem_of_mem_take (List.mem_of_mem_take
        (List.mem_of_getLast? hLast)))
      obtain ⟨suffix, hKeyed⟩ := h last hMem
      exact truthy_of_ne hKeyed.ne_empty

/-- A page of at most `limit` events, from those that are left. -/
def pageOf (left : List TimelineEventWithCursor) (limit : Nat) : TimelinePage :=
  let page := left.take (limit + 1)
  if limit < page.length then
    { data := (page.take limit).map (·.toTimelineEvent)
      nextCursor := (page.take limit).getLast?.map (·.cursorKey)
      hasMore := true }
  else { data := page.map (·.toTimelineEvent), nextCursor := none, hasMore := false }

omit locale in
theorem paginateTimeline_eq {events : List TimelineEventWithCursor} :
    paginateTimeline events cursor limit =
      pageOf (events.drop (startIndex (·.cursorKey) events (truthy cursor))) limit := by
  have hShape (left : List TimelineEventWithCursor) : pageOf left limit =
      let page := left.take (limit + 1)
      let hasMore := limit < page.length
      let pageEvents := if hasMore then page.take limit else page
      { data := pageEvents.map (·.toTimelineEvent)
        nextCursor := if hasMore then pageEvents.getLast?.map (·.cursorKey) else none
        hasMore } := by
    by_cases hMore : limit < (left.take (limit + 1)).length
    · simp only [pageOf, hMore, if_true, decide_true]
    · simp only [pageOf, hMore, if_false, decide_false]
  rw [hShape, paginateTimeline]
  cases truthy cursor <;> rfl

/-- The client reads what following the cursors of the events gives it. -/
theorem followTimeline_run (hQuiet : Quiet env) (hId : ObjectId.cast? id = some shipmentId)
    (hShipment : store.liveShipment shipmentId = some shipment) (hReads : context.reads shipment)
    (fuel : Nat) (hCursor : truthy cursor = cursor) :
    ∃ env', (followTimeline id limit context fuel cursor).run backend env store =
      (store, .ok ((follow (·.cursorKey) (store.timeline shipment shipmentId) limit fuel
          cursor).1.map (·.toTimelineEvent),
        (follow (·.cursorKey) (store.timeline shipment shipmentId) limit fuel cursor).2), env') := by
  have hKeyed : ∀ event ∈ store.timeline shipment shipmentId, ∃ suffix, event.Keyed suffix :=
    fun event hEvent => keyed_of_mem (timelineEvents_perm.mem_iff.mp hEvent)
  induction fuel generalizing env cursor with
  | zero => exact ⟨env, rfl⟩
  | succ fuel ih =>
      obtain ⟨after, hPage, hAfter⟩ :=
        getShipmentTimelineService_run cursor limit hQuiet hId hShipment hReads
      rw [followTimeline, Program.run_bind_ok hPage]
      rw [paginateTimeline_eq, hCursor]
      simp only [pageOf, follow]
      split
      · obtain ⟨env', hRest⟩ := ih hAfter (truthy_nextCursor hKeyed)
        rw [if_pos rfl, Program.run_bind_ok hRest]
        exact ⟨env', by rw [List.map_append]; rfl⟩
      · exact ⟨after, rfl⟩

/-- Every event once, ascending by timestamp and then by cursor key. -/
def ExactTimeline (sources : List TimelineEventWithCursor) (data : List TimelineEvent) : Prop :=
  ∃ events : List TimelineEventWithCursor, events.Perm sources ∧
    (events.Pairwise fun first second => timelineBefore first second = true) ∧
      data = events.map (·.toTimelineEvent)

/-- Following the cursors from none comes to an end and gives the exact timeline. -/
def ReadsTimeline (id : String) (limit : Nat) (context : AccessContext) (env : Nat → Decision)
    (store : Store) (sources : List TimelineEventWithCursor) : Prop :=
  ∃ fuel data,
    ((followTimeline id limit context fuel none).run backend env store).2.1 = .ok (data, true) ∧
      ExactTimeline sources data

variable (hLocale : locale.OrdersKeyTexts) (hQuiet : Quiet env)
  (hId : ObjectId.cast? id = some shipmentId)
  (hShipment : store.liveShipment shipmentId = some shipment) (hReads : context.reads shipment)
  (hTelemetry : (store.telemetry.map (·.id)).Nodup)
  (hAnomalies : (store.anomalies.map (·.id)).Nodup) (hLimit : 0 < limit)
include hLocale hQuiet hId hShipment hReads hTelemetry hAnomalies hLimit

theorem readsTimeline_of_noPageEndsOnRepeat
    (h : NoPageEndsOnRepeat shipment (store.liveTelemetry shipmentId)
      (store.liveAnomalies shipmentId) limit) :
    ReadsTimeline id limit context env store (timelineSources shipment
      (store.liveTelemetry shipmentId) (store.liveAnomalies shipmentId)) := by
  rw [← freshEnds_timelineEvents hLocale (liveTelemetry_nodup hTelemetry shipmentId)
    (liveAnomalies_nodup hAnomalies shipmentId)] at h
  obtain ⟨env', hRun⟩ := followTimeline_run hQuiet hId hShipment hReads
    ((store.timeline shipment shipmentId).length + 1) (rfl : truthy none = none)
  rw [follow_exact hLimit h] at hRun
  refine ⟨_, _, congrArg (·.2.1) hRun, _, timelineEvents_perm, timelineEvents_sorted hLocale, rfl⟩

theorem noPageEndsOnRepeat_of_readsTimeline
    (h : ReadsTimeline id limit context env store (timelineSources shipment
      (store.liveTelemetry shipmentId) (store.liveAnomalies shipmentId))) :
    NoPageEndsOnRepeat shipment (store.liveTelemetry shipmentId)
      (store.liveAnomalies shipmentId) limit := by
  obtain ⟨fuel, data, hData, events, hPerm, -, rfl⟩ := h
  obtain ⟨env', hRun⟩ := followTimeline_run hQuiet hId hShipment hReads fuel
    (rfl : truthy none = none)
  have hRead := Prod.mk.inj (Except.ok.inj ((congrArg (·.2.1) hRun).symm.trans hData))
  have hLength := congrArg List.length hRead.1
  rw [List.length_map, List.length_map, hPerm.length_eq, ← timelineEvents_perm.length_eq] at hLength
  rw [← freshEnds_timelineEvents hLocale (liveTelemetry_nodup hTelemetry shipmentId)
    (liveAnomalies_nodup hAnomalies shipmentId)]
  exact freshEnds_of_follow hLimit (Prod.ext rfl hRead.2) hLength

/-- A client that follows the cursors to their end reads every event exactly once and in
order, exactly when no page that another one follows ends on a repeated milestone. -/
theorem timeline_pagination_iff :
    ReadsTimeline id limit context env store (timelineSources shipment
      (store.liveTelemetry shipmentId) (store.liveAnomalies shipmentId)) ↔
        NoPageEndsOnRepeat shipment (store.liveTelemetry shipmentId)
          (store.liveAnomalies shipmentId) limit :=
  ⟨noPageEndsOnRepeat_of_readsTimeline hLocale hQuiet hId hShipment hReads hTelemetry hAnomalies
      hLimit,
    readsTimeline_of_noPageEndsOnRepeat hLocale hQuiet hId hShipment hReads hTelemetry hAnomalies
      hLimit⟩

end Client

section Sample

def charCodes (text : String) : List Nat :=
  text.toList.map Char.toNat

theorem charCodes_injective : Function.Injective charCodes := by
  intro first second h
  refine String.toList_injective ((List.map_injective_iff.mpr ?_) h)
  exact fun c d hSame => Char.toNat_inj.mp hSame

/-- The locale that compares code points. -/
@[reducible] def codePointLocale : Locale :=
  ⟨fun first second =>
    if charCodes first < charCodes second then -1
    else if charCodes first = charCodes second then 0 else 1⟩

theorem codePointLocale_orders : codePointLocale.OrdersKeyTexts where
  eq_iff first second _ _ := by
    rw [← charCodes_injective.eq_iff]
    rcases lt_trichotomy (charCodes first) (charCodes second) with h | h | h
    · simp [Locale.compare, h, h.ne]
    · simp [Locale.compare, h]
    · simp [Locale.compare, h.not_gt, h.ne']
  flip first second _ _ := by
    rcases lt_trichotomy (charCodes first) (charCodes second) with h | h | h
    · simp [Locale.compare, h, h.not_gt, h.ne']
    · simp [Locale.compare, h]
    · simp [Locale.compare, h, h.not_gt, h.ne']
  trans first second third _ _ _ hFirst hSecond := by
    have hLe (first second : String) :
        codePointLocale.compare first second ≤ 0 ↔ charCodes first ≤ charCodes second := by
      rcases lt_trichotomy (charCodes first) (charCodes second) with h | h | h
      · simp [Locale.compare, h, h.le]
      · simp [Locale.compare, h]
      · simp [Locale.compare, h.not_gt, h.ne', h.not_ge]
    rw [hLe] at hFirst hSecond ⊢
    exact hFirst.trans hSecond

/-- The shipment was picked up twice at the same time, and then delivered. -/
def repeatedShipment : Shipment :=
  { sampleShipment with
    milestones := [⟨.inTransit, ⟨0⟩, "", none, none⟩, ⟨.inTransit, ⟨0⟩, "", none, none⟩,
      ⟨.delivered, ⟨1⟩, "", none, none⟩] }

def repeatedStore : Store :=
  { shipments := ⟨[repeatedShipment], by decide⟩ }

def superAdmin : AccessContext :=
  ⟨none, .superAdmin⟩

abbrev repeatedSources : List TimelineEventWithCursor :=
  timelineSources repeatedShipment (repeatedStore.liveTelemetry repeatedShipment.id)
    (repeatedStore.liveAnomalies repeatedShipment.id)

theorem timeline_pagination_sample :
    @ReadsTimeline codePointLocale repeatedShipment.id.toString 3 superAdmin (fun _ => .ok)
        repeatedStore repeatedSources ↔
      @NoPageEndsOnRepeat codePointLocale repeatedShipment [] [] 3 :=
  @timeline_pagination_iff codePointLocale _ _ _ _ _ _ _ codePointLocale_orders (fun _ => rfl)
    (ObjectId.cast?_toString _) rfl (.inl rfl) (by decide) (by decide) (by decide)

/-- Pages of two repeat the second milestone. -/
theorem timeline_pagination_repeats : ¬∀ (locale : Locale), locale.OrdersKeyTexts →
    ∀ (env : Nat → Decision) (store : Store) (id : String) (shipmentId : ObjectId)
      (shipment : Shipment) (context : AccessContext) (limit : Nat), Quiet env →
      ObjectId.cast? id = some shipmentId → store.liveShipment shipmentId = some shipment →
      context.reads shipment → (store.telemetry.map (·.id)).Nodup →
      (store.anomalies.map (·.id)).Nodup → 0 < limit →
      ReadsTimeline id limit context env store (timelineSources shipment
        (store.liveTelemetry shipmentId) (store.liveAnomalies shipmentId)) := by
  intro hClaim
  have hReads := hClaim codePointLocale codePointLocale_orders (fun _ => .ok) repeatedStore
    repeatedShipment.id.toString repeatedShipment.id repeatedShipment superAdmin 2 (fun _ => rfl)
    (ObjectId.cast?_toString _) rfl (.inl rfl) (by decide) (by decide) (by decide)
  have hEnds := @noPageEndsOnRepeat_of_readsTimeline codePointLocale _ _ _ _ _ _ _
    codePointLocale_orders (fun _ => rfl) (ObjectId.cast?_toString _) rfl (.inl rfl) (by decide)
    (by decide) (by decide) hReads
  have hFirst := hEnds _ List.mem_cons_self 1
  revert hFirst
  decide +kernel

end Sample

end Navin
