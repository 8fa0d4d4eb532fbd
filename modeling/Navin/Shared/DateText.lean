import Mathlib.Tactic.IntervalCases
import Navin.Shared.Json

/-! Reading back a date-time. The listings that page by a timestamp give it to the
client as text and compare with what `new Date` makes of that text. -/
namespace Navin

/-- A numeral of so many digits that a text starts with, and the text after it. -/
def numeral (width : Nat) (text : List Char) : Option (Nat × List Char) :=
  let digits := text.take width
  if digits.length = width ∧ digits.all Char.isDigit then
    some (Nat.ofDigitChars 10 digits 0, text.drop width)
  else none

/-- All the digits that a text starts with, at least six. -/
def longNumeral (text : List Char) : Option (Nat × List Char) :=
  numeral (max 6 (text.takeWhile Char.isDigit).length) text

/-- A numeral of so many digits after a separator. -/
def numeralAfter (separator : Char) (width : Nat) : List Char → Option (Nat × List Char)
  | [] => none
  | first :: text => if first = separator then numeral width text else none

section Numerals

theorem toList_padded (width n : Nat) : (padded width n).toList =
    List.replicate (width - (Nat.toDigits 10 n).length) '0' ++ Nat.toDigits 10 n := by
  simp [padded, toString, Nat.repr]

theorem isDigit_of_mem_padded {width n : Nat} {c : Char} (h : c ∈ (padded width n).toList) :
    c.isDigit = true := by
  rw [toList_padded, List.mem_append] at h
  rcases h with hZero | hDigit
  · rw [List.eq_of_mem_replicate hZero]
    rfl
  · exact Nat.isDigit_of_mem_toDigits (Nat.zero_lt_succ 9) (Nat.le_refl 10) hDigit

theorem ofDigitChars_padded (width n : Nat) :
    Nat.ofDigitChars 10 (padded width n).toList 0 = n := by
  rw [toList_padded, Nat.ofDigitChars_append, Nat.ofDigitChars_replicate_zero, Nat.mul_zero,
    Nat.ofDigitChars_ten_toDigits]

theorem length_padded (width n : Nat) :
    (padded width n).toList.length = max width (Nat.toDigits 10 n).length := by
  rw [toList_padded, List.length_append, List.length_replicate]
  omega

theorem length_padded_of_lt {width n : Nat} (hWidth : 0 < width) (h : n < 10 ^ width) :
    (padded width n).toList.length = width := by
  rw [length_padded, Nat.max_eq_left]
  exact (Nat.length_toDigits_le_iff (by decide) hWidth).mpr h

theorem numeral_append {digits : List Char} (h : ∀ c ∈ digits, c.isDigit = true)
    (rest : List Char) :
    numeral digits.length (digits ++ rest) = some (Nat.ofDigitChars 10 digits 0, rest) := by
  rw [numeral, List.take_left, if_pos ⟨rfl, List.all_eq_true.mpr h⟩, List.drop_left]

theorem numeral_padded {width n : Nat} (hWidth : 0 < width) (h : n < 10 ^ width)
    (rest : List Char) : numeral width ((padded width n).toList ++ rest) = some (n, rest) := by
  have hRead := numeral_append (fun c => @isDigit_of_mem_padded width n c) rest
  rwa [length_padded_of_lt hWidth h, ofDigitChars_padded] at hRead

theorem numeralAfter_padded {width n : Nat} (hWidth : 0 < width) (h : n < 10 ^ width)
    (separator : Char) (rest : List Char) :
    numeralAfter separator width (separator :: ((padded width n).toList ++ rest)) =
      some (n, rest) := by
  rw [numeralAfter, if_pos rfl, numeral_padded hWidth h]

theorem takeWhile_padded {c : Char} (width n : Nat) (hc : c.isDigit = false) (rest : List Char) :
    ((padded width n).toList ++ c :: rest).takeWhile Char.isDigit = (padded width n).toList := by
  rw [List.takeWhile_append_of_pos fun _ => isDigit_of_mem_padded,
    List.takeWhile_cons_of_neg (by simp [hc]), List.append_nil]

theorem longNumeral_padded (n : Nat) {c : Char} (hc : c.isDigit = false) (rest : List Char) :
    longNumeral ((padded 6 n).toList ++ c :: rest) = some (n, c :: rest) := by
  have hRead := numeral_append (fun c => @isDigit_of_mem_padded 6 n c) (c :: rest)
  have hLength := length_padded 6 n
  rw [longNumeral, takeWhile_padded _ _ hc, Nat.max_eq_right (by omega), hRead,
    ofDigitChars_padded]

end Numerals

namespace Date

/-- The day number of a year, month and day. -/
def daysFromCivil (year : Int) (month day : Nat) : Int :=
  let shifted := if month < 3 then year - 1 else year
  let yearOfEra := (shifted % 400).toNat
  let fromMarch := if month < 3 then month + 9 else month - 3
  let dayOfYear := (153 * fromMarch + 2) / 5 + day - 1
  shifted / 400 * 146097 + (365 * yearOfEra + yearOfEra / 4 - yearOfEra / 100 + dayOfYear : Nat) -
    719468

/-- A year of four digits, or a sign and at least six. -/
def yearNumeral : List Char → Option (Int × List Char)
  | '-' :: text => (longNumeral text).map fun (year, text) => (-year, text)
  | '+' :: text => (longNumeral text).map fun (year, text) => (year, text)
  | text => (numeral 4 text).map fun (year, text) => (year, text)

/-- Milliseconds after the seconds, if there are any; further digits are dropped. -/
def fraction : List Char → Nat × List Char
  | '.' :: text =>
      let digits := text.takeWhile Char.isDigit
      (Nat.ofDigitChars 10 ((digits ++ ['0', '0']).take 3) 0, text.drop digits.length)
  | text => (0, text)

/-- What is ahead of universal time, in milliseconds. -/
def offset : List Char → Option Int
  | ['Z'] => some 0
  | sign :: text => do
      let (hours, text) ← numeral 2 text
      let (minutes, text) ← numeralAfter ':' 2 text
      let ahead : Int := (hours * 60 + minutes) * 60000
      if text = [] ∧ hours < 24 ∧ minutes < 60 then
        if sign = '+' then some ahead else if sign = '-' then some (-ahead) else none
      else none
  | [] => none

/-- `new Date(text)` of a date-time with `Z` or an offset, which is what the routes let
through. -/
def parse (text : String) : Option Date := do
  let (year, text) ← yearNumeral text.toList
  let (month, text) ← numeralAfter '-' 2 text
  let (day, text) ← numeralAfter '-' 2 text
  let (hour, text) ← numeralAfter 'T' 2 text
  let (minute, text) ← numeralAfter ':' 2 text
  let (second, text) ← numeralAfter ':' 2 text
  let (millis, text) := fraction text
  let ahead ← offset text
  if 1 ≤ month ∧ month ≤ 12 ∧ 1 ≤ day ∧ day ≤ 31 ∧ hour < 24 ∧ minute < 60 ∧ second < 60 then
    some ⟨daysFromCivil year month day * 86400000 +
      ((hour * 60 + minute) * 60 + second : Nat) * 1000 + millis - ahead⟩
  else none

example : parse "2024-02-29T14:34:56.789+02:00" = some ⟨1709210096789⟩ := by decide

/-- The days of an era that a year starts after are at most the day, and less than a year
before it. -/
theorem yearOfEra_bounds {day year : Nat} (hDay : day < 146097)
    (hYear : year = (day - day / 1460 + day / 36524 - day / 146096) / 365) :
    365 * year + year / 4 - year / 100 ≤ day ∧
      day < 365 * year + year / 4 - year / 100 + 366 ∧ year < 400 := by
  -- the centuries before the day, and those before its year
  obtain ⟨century, hCentury⟩ : ∃ century, century = day / 36524 := ⟨_, rfl⟩
  obtain ⟨hundreds, hHundreds⟩ : ∃ hundreds, hundreds = year / 100 := ⟨_, rfl⟩
  have hFive : century < 5 := by omega
  have hFour : hundreds < 4 := by omega
  rw [← hCentury] at hYear
  rw [← hHundreds]
  interval_cases century <;> interval_cases hundreds <;> omega

/-- The fields of a day number are in range and name the day. -/
theorem civil_fields (days : Int) :
    1 ≤ (civil days).2.1 ∧ (civil days).2.1 ≤ 12 ∧ 1 ≤ (civil days).2.2 ∧ (civil days).2.2 ≤ 31 ∧
      daysFromCivil (civil days).1 (civil days).2.1 (civil days).2.2 = days := by
  obtain ⟨dayOfEra, hDay⟩ : ∃ dayOfEra, dayOfEra = ((days + 719468) % 146097).toNat := ⟨_, rfl⟩
  obtain ⟨era, hEra⟩ : ∃ era, era = (days + 719468) / 146097 := ⟨_, rfl⟩
  obtain ⟨year, hYear⟩ : ∃ year, year =
    (dayOfEra - dayOfEra / 1460 + dayOfEra / 36524 - dayOfEra / 146096) / 365 := ⟨_, rfl⟩
  obtain ⟨start, hStart⟩ : ∃ start, start = 365 * year + year / 4 - year / 100 := ⟨_, rfl⟩
  have hDays : days = era * 146097 + dayOfEra - 719468 := by omega
  obtain ⟨hLow, hHigh, hEra400⟩ := yearOfEra_bounds (by omega) hYear
  rw [← hStart] at hLow hHigh
  obtain ⟨dayOfYear, hDayOfYear⟩ : ∃ dayOfYear, dayOfYear = dayOfEra - start := ⟨_, rfl⟩
  have hCivil : civil days = (if (5 * dayOfYear + 2) / 153 < 10 then
      (year + era * 400, (5 * dayOfYear + 2) / 153 + 3,
        dayOfYear - (153 * ((5 * dayOfYear + 2) / 153) + 2) / 5 + 1)
    else (year + era * 400 + 1, (5 * dayOfYear + 2) / 153 - 9,
      dayOfYear - (153 * ((5 * dayOfYear + 2) / 153) + 2) / 5 + 1)) := by
    rw [hDayOfYear, hStart, hYear, hDay, hEra]
    rfl
  have hYears : ∀ shift : Int, shift = year + era * 400 →
      (shift % 400).toNat = year ∧ shift / 400 = era := by omega
  rw [hCivil]
  by_cases hMonth : (5 * dayOfYear + 2) / 153 < 10
  · rw [if_pos hMonth]
    simp only [daysFromCivil]
    rw [if_neg (by omega), if_neg (by omega), (hYears _ rfl).1, (hYears _ rfl).2, ← hStart]
    omega
  · rw [if_neg hMonth]
    simp only [daysFromCivil]
    rw [if_pos (by omega), if_pos (by omega), (hYears _ (by omega)).1, (hYears _ (by omega)).2,
      ← hStart]
    omega

theorem yearNumeral_of_isDigit {first : Char} (hDigit : first.isDigit = true)
    (text : List Char) : yearNumeral (first :: text) =
      (numeral 4 (first :: text)).map fun (year, text) => ((year : Int), text) := by
  rw [yearNumeral.eq_def]
  split
  next hSign =>
    obtain rfl : first = '-' := List.head_eq_of_cons_eq hSign
    cases hDigit
  next hSign =>
    obtain rfl : first = '+' := List.head_eq_of_cons_eq hSign
    cases hDigit
  next => rfl

theorem yearNumeral_yearText (year : Int) (rest : List Char) :
    yearNumeral ((yearText year).toList ++ '-' :: rest) = some (year, '-' :: rest) := by
  rw [yearText]
  by_cases hShort : 0 ≤ year ∧ year ≤ 9999
  · have hRead := @numeral_padded 4 year.toNat (by decide) (by omega)
      ('-' :: rest)
    obtain ⟨first, text, hText⟩ : ∃ first text, (padded 4 year.toNat).toList = first :: text :=
      List.exists_cons_of_length_pos (by rw [length_padded]; omega)
    have hDigit : first.isDigit = true :=
      isDigit_of_mem_padded (by rw [hText]; exact List.mem_cons_self)
    rw [if_pos hShort]
    rw [hText, List.cons_append] at hRead ⊢
    rw [yearNumeral_of_isDigit hDigit, hRead]
    exact congrArg (fun year => some (year, '-' :: rest)) (Int.toNat_of_nonneg hShort.1)
  · rw [if_neg hShort]
    by_cases hSign : year < 0
    · have hMinus : "-".toList = ['-'] := rfl
      rw [if_pos hSign, String.toList_append, hMinus, List.append_assoc, List.singleton_append,
        yearNumeral, longNumeral_padded _ (by decide), Option.map_some]
      exact congrArg (fun year => some (year, '-' :: rest)) (by omega)
    · have hPlus : "+".toList = ['+'] := rfl
      rw [if_neg hSign, String.toList_append, hPlus, List.append_assoc, List.singleton_append,
        yearNumeral, longNumeral_padded _ (by decide), Option.map_some]
      exact congrArg (fun year => some (year, '-' :: rest)) (by omega)

theorem fraction_padded {millis : Nat} (h : millis < 1000) :
    fraction ('.' :: ((padded 3 millis).toList ++ ['Z'])) = (millis, ['Z']) := by
  have hLength := @length_padded_of_lt 3 millis (by decide) h
  simp only [fraction]
  rw [takeWhile_padded _ _ (by decide), List.take_left' hLength, ofDigitChars_padded,
    List.drop_left]

theorem toList_toISOString (date : Date) {year : Int} {month day time : Nat}
    (hCivil : civil (date.ms / 86400000) = (year, month, day))
    (hTime : (date.ms % 86400000).toNat = time) :
    date.toISOString.toList = (yearText year).toList ++ '-' :: ((padded 2 month).toList ++
      '-' :: ((padded 2 day).toList ++ 'T' :: ((padded 2 (time / 3600000)).toList ++
        ':' :: ((padded 2 (time / 60000 % 60)).toList ++
          ':' :: ((padded 2 (time / 1000 % 60)).toList ++
            '.' :: ((padded 3 (time % 1000)).toList ++ ['Z'])))))) := by
  have hDash : "-".toList = ['-'] := rfl
  have hT : "T".toList = ['T'] := rfl
  have hColon : ":".toList = [':'] := rfl
  have hDot : ".".toList = ['.'] := rfl
  have hZ : "Z".toList = ['Z'] := rfl
  simp only [toISOString, hCivil, hTime, String.toList_append, hDash, hT, hColon, hDot, hZ,
    List.append_assoc, List.cons_append, List.nil_append]

/-- A date is what its text is parsed to. -/
theorem parse_toISOString (date : Date) : parse date.toISOString = some date := by
  obtain ⟨hMonth, hMonth', hDay, hDay', hDays⟩ := civil_fields (date.ms / 86400000)
  obtain ⟨⟨year, month, day⟩, hCivil⟩ : ∃ fields, civil (date.ms / 86400000) = fields := ⟨_, rfl⟩
  obtain ⟨time, hTime⟩ : ∃ time, (date.ms % 86400000).toNat = time := ⟨_, rfl⟩
  simp only [hCivil] at hMonth hMonth' hDay hDay' hDays
  simp only [parse, toList_toISOString date hCivil hTime, yearNumeral_yearText, Option.bind_some,
    @numeralAfter_padded 2 month (by decide) (by omega),
    @numeralAfter_padded 2 day (by decide) (by omega),
    @numeralAfter_padded 2 (time / 3600000) (by decide) (by omega),
    @numeralAfter_padded 2 (time / 60000 % 60) (by decide) (by omega),
    @numeralAfter_padded 2 (time / 1000 % 60) (by decide) (by omega),
    @fraction_padded (time % 1000) (by omega), offset, hDays, Option.bind_eq_bind]
  rw [if_pos (by omega)]
  exact congrArg (fun ms => some (Date.mk ms)) (by omega)

theorem toISOString_injective : Function.Injective toISOString := by
  intro first second hSame
  have hParsed := congrArg parse hSame
  rwa [parse_toISOString, parse_toISOString, Option.some.injEq] at hParsed

theorem toISOString_ne_empty (date : Date) : date.toISOString ≠ "" := by
  intro hEmpty
  have hParse := parse_toISOString date
  rw [hEmpty] at hParse
  cases hParse

end Date

end Navin
