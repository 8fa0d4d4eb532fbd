import Navin.Shared.DateText

/-! Days of the calendar of universal time, as `Date` reaches them by its fields and as the
database truncates dates to them and writes them. -/
namespace Navin.Date

/-- The number of the day that a date lies on. -/
def day (date : Date) : Int :=
  date.ms / 86400000

def ofDay (day : Int) : Date :=
  ⟨day * 86400000⟩

@[simp] theorem day_ofDay (day : Int) : (ofDay day).day = day := by
  simp only [Date.day, ofDay]
  omega

theorem isoDay_injective : Function.Injective fun day => (ofDay day).toISOString := by
  intro first second hSame
  have hMs := congrArg Date.ms (toISOString_injective hSame)
  simp only [ofDay] at hMs
  omega

def getUTCDate (date : Date) : Nat :=
  (civil date.day).2.2

/-- Days out of the range of the month count on from its first. -/
def setUTCDate (date : Date) (dayOfMonth : Int) : Date :=
  let (year, month, _) := civil date.day
  ⟨(daysFromCivil year month 1 + (dayOfMonth - 1)) * 86400000 + date.ms % 86400000⟩

/-- `setUTCHours(0, 0, 0, 0)`. -/
def startOfUTCDay (date : Date) : Date :=
  ofDay date.day

/-- `toISOString().slice(0, 10)`. -/
def dayText (date : Date) : String :=
  String.ofList (date.toISOString.toList.take 10)

theorem daysFromCivil_first (year : Int) {month day : Nat} (hDay : 1 ≤ day) :
    daysFromCivil year month 1 + (day - 1) = daysFromCivil year month day := by
  simp only [daysFromCivil]
  omega

/-- Moving the day of the month moves the date by as many days, over the ends of months and
years. -/
theorem setUTCDate_getUTCDate (date : Date) (days : Int) :
    date.setUTCDate (date.getUTCDate + days) = ⟨date.ms + days * 86400000⟩ := by
  obtain ⟨-, -, hDay, -, hDays⟩ := civil_fields date.day
  obtain ⟨⟨year, month, dayOfMonth⟩, hCivil⟩ : ∃ fields, civil date.day = fields := ⟨_, rfl⟩
  simp only [hCivil] at hDay hDays
  have hFirst := @daysFromCivil_first year month dayOfMonth hDay
  have hMs : date.ms = date.day * 86400000 + date.ms % 86400000 := by
    simp only [Date.day]
    omega
  simp only [setUTCDate, getUTCDate, hCivil, Date.mk.injEq]
  omega

section Texts

/-- `%Y-%m-%d`, which the database writes of four-digit years only. -/
def dateToString (ms : Int) : Option String :=
  let (year, month, day) := civil (ms / 86400000)
  if 0 ≤ year ∧ year ≤ 9999 then
    some (padded 4 year.toNat ++ "-" ++ padded 2 month ++ "-" ++ padded 2 day)
  else none

/-- What a day text is read back to. -/
def readDay (text : List Char) : Option Int := do
  let (year, text) ← yearNumeral text
  let (month, text) ← numeralAfter '-' 2 text
  let (day, _) ← numeralAfter '-' 2 text
  some (daysFromCivil year month day)

theorem toList_dateToString {ms : Int} {text : String} (h : dateToString ms = some text)
    {year : Int} {month day : Nat} (hCivil : civil (ms / 86400000) = (year, month, day)) :
    0 ≤ year ∧ year ≤ 9999 ∧ text.toList = (padded 4 year.toNat).toList ++
      '-' :: ((padded 2 month).toList ++ '-' :: (padded 2 day).toList) := by
  simp only [dateToString, hCivil, Option.ite_none_right_eq_some, Option.some.injEq] at h
  obtain ⟨⟨hLow, hHigh⟩, rfl⟩ := h
  have hDash : "-".toList = ['-'] := rfl
  refine ⟨hLow, hHigh, ?_⟩
  simp only [String.toList_append, hDash, List.append_assoc, List.cons_append, List.nil_append]

theorem readDay_dateToString {ms : Int} {text : String} (h : dateToString ms = some text) :
    readDay text.toList = some (ms / 86400000) := by
  obtain ⟨hMonth, hMonth', hDay, hDay', hDays⟩ := civil_fields (ms / 86400000)
  obtain ⟨⟨year, month, day⟩, hCivil⟩ : ∃ fields, civil (ms / 86400000) = fields := ⟨_, rfl⟩
  simp only [hCivil] at hMonth hMonth' hDay hDay' hDays
  obtain ⟨hLow, hHigh, hText⟩ := toList_dateToString h hCivil
  have hYear : yearText year = padded 4 year.toNat := if_pos ⟨hLow, hHigh⟩
  have hLast := @numeralAfter_padded 2 day (by decide) (by omega) '-' []
  rw [List.append_nil] at hLast
  simp only [readDay, hText, ← hYear, yearNumeral_yearText, Option.bind_eq_bind, Option.bind_some,
    @numeralAfter_padded 2 month (by decide) (by omega), hLast, hDays]

/-- A year of four digits makes the day of a date ten characters. -/
theorem dateToString_dayText {date : Date} (hLow : 0 ≤ (civil date.day).1)
    (hHigh : (civil date.day).1 ≤ 9999) : dateToString date.ms = some date.dayText := by
  obtain ⟨-, hMonth, -, hDay, -⟩ := civil_fields date.day
  obtain ⟨⟨year, month, day⟩, hCivil⟩ : ∃ fields, civil date.day = fields := ⟨_, rfl⟩
  simp only [hCivil] at hLow hHigh hMonth hDay
  have hIso := toList_toISOString date hCivil rfl
  rw [show yearText year = padded 4 year.toNat from if_pos ⟨hLow, hHigh⟩] at hIso
  have hText : dateToString date.ms =
      some (padded 4 year.toNat ++ "-" ++ padded 2 month ++ "-" ++ padded 2 day) := by
    simp only [dateToString, show civil (date.ms / 86400000) = _ from hCivil]
    exact if_pos ⟨hLow, hHigh⟩
  have hDash : "-".toList = ['-'] := rfl
  have hLength : ((padded 4 year.toNat).toList ++ '-' :: ((padded 2 month).toList ++
      '-' :: (padded 2 day).toList)).length = 10 := by
    simp only [List.length_append, List.length_cons,
      @length_padded_of_lt 4 year.toNat (by decide) (by omega),
      @length_padded_of_lt 2 month (by decide) (by omega),
      @length_padded_of_lt 2 day (by decide) (by omega)]
  have hPrefix : (padded 4 year.toNat).toList ++ '-' :: ((padded 2 month).toList ++
      '-' :: (padded 2 day).toList) <+: date.toISOString.toList := by
    rw [hIso, List.prefix_append_right_inj, List.cons_prefix_cons, List.prefix_append_right_inj,
      List.cons_prefix_cons]
    exact ⟨rfl, rfl, List.prefix_append _ _⟩
  have hTake := List.prefix_iff_eq_take.mp hPrefix
  rw [hLength] at hTake
  rw [hText, dayText, ← hTake]
  refine congrArg some (String.toList_injective ?_)
  simp only [String.toList_append, hDash, String.toList_ofList, List.append_assoc,
    List.cons_append, List.nil_append]

/-- Any other year starts with its sign. -/
theorem head_dayText {date : Date} (h : ¬(0 ≤ (civil date.day).1 ∧ (civil date.day).1 ≤ 9999)) :
    ∃ sign rest, date.dayText.toList = sign :: rest ∧ sign.isDigit = false := by
  obtain ⟨⟨year, month, day⟩, hCivil⟩ : ∃ fields, civil date.day = fields := ⟨_, rfl⟩
  have hYear : yearText year = (if year < 0 then "-" else "+") ++ padded 6 year.natAbs :=
    if_neg (by rwa [hCivil] at h)
  have hMinus : "-".toList = ['-'] := rfl
  have hPlus : "+".toList = ['+'] := rfl
  rw [dayText, String.toList_ofList, toList_toISOString date hCivil rfl, hYear]
  by_cases hSign : year < 0
  · rw [if_pos hSign, String.toList_append, hMinus]
    exact ⟨_, _, rfl, by decide⟩
  · rw [if_neg hSign, String.toList_append, hPlus]
    exact ⟨_, _, rfl, by decide⟩

/-- The day of a date is written as the database writes it. -/
theorem dayText_eq_iff {date : Date} {ms : Int} {text : String}
    (h : dateToString ms = some text) : date.dayText = text ↔ date.day = ms / 86400000 := by
  obtain ⟨⟨year, month, dayOfMonth⟩, hCivil⟩ : ∃ fields, civil (ms / 86400000) = fields :=
    ⟨_, rfl⟩
  obtain ⟨hLow, hHigh, hText⟩ := toList_dateToString h hCivil
  by_cases hRange : 0 ≤ (civil date.day).1 ∧ (civil date.day).1 ≤ 9999
  · have hDate := dateToString_dayText hRange.1 hRange.2
    constructor
    · intro hSame
      have hRead := readDay_dateToString hDate
      rw [hSame, readDay_dateToString h] at hRead
      exact (Option.some.inj hRead).symm
    · intro hDay
      have hSame : dateToString date.ms = dateToString ms := by
        simp only [dateToString, show date.ms / 86400000 = ms / 86400000 from hDay]
      rw [hDate, h] at hSame
      exact Option.some.inj hSame
  · constructor
    · intro hSame
      obtain ⟨sign, rest, hSign, hDigit⟩ := head_dayText hRange
      obtain ⟨first, digits, hDigits⟩ :
          ∃ first digits, (padded 4 year.toNat).toList = first :: digits :=
        List.exists_cons_of_length_pos (by rw [length_padded]; omega)
      rw [hSame, hText, hDigits] at hSign
      obtain rfl : first = sign := List.head_eq_of_cons_eq hSign
      have hFirst := @isDigit_of_mem_padded 4 year.toNat first (hDigits ▸ List.mem_cons_self)
      rw [hFirst] at hDigit
      cases hDigit
    · intro hDay
      rw [hDay, hCivil] at hRange
      exact absurd ⟨hLow, hHigh⟩ hRange

end Texts

/-- The first day of the month of a day. -/
def firstOfMonth (day : Int) : Int :=
  let (year, month, _) := civil day
  daysFromCivil year month 1

/-- The Sunday that starts the week of a day; day zero was a Thursday. -/
def startOfWeek (day : Int) : Int :=
  day - (day + 4) % 7

/-- What `$dateTrunc` makes of a time when days are mapped to the first ones of their unit. -/
def truncate (unit : Int → Int) (ms : Int) : Int :=
  unit (ms / 86400000) * 86400000

example : truncate firstOfMonth 1709210096789 = 1706745600000 := by decide

example : truncate startOfWeek 1709210096789 = 1708819200000 := by decide

end Navin.Date
