import Mathlib.Algebra.GroupWithZero.Nat
import Mathlib.Data.List.Sort

/-! The built-in values that payloads are made of: dates, finite numbers, and
plain JSON-like values, with the text `toISOString` and `JSON.stringify` give
them. Only text is modelled; arithmetic on numbers is not. -/
namespace Navin

/-- Left-pad a numeral with zeros. -/
def padded (width n : Nat) : String :=
  let digits := toString n
  String.ofList (List.replicate (width - digits.length) '0') ++ digits

/-- A valid `Date`, as milliseconds since the epoch. -/
structure Date where
  ms : Int
deriving DecidableEq

namespace Date

/-- Year, month and day of a day number, proleptic Gregorian. Years start in
March here, so that the leap day is the last day of its year. -/
def civil (days : Int) : Int × Nat × Nat :=
  let shifted := days + 719468
  let era := shifted / 146097
  let dayOfEra := (shifted % 146097).toNat
  let yearOfEra := (dayOfEra - dayOfEra / 1460 + dayOfEra / 36524 - dayOfEra / 146096) / 365
  let dayOfYear := dayOfEra - (365 * yearOfEra + yearOfEra / 4 - yearOfEra / 100)
  let month := (5 * dayOfYear + 2) / 153
  let day := dayOfYear - (153 * month + 2) / 5 + 1
  if month < 10 then (yearOfEra + era * 400, month + 3, day)
  else (yearOfEra + era * 400 + 1, month - 9, day)

/-- Four digits for the years 0 to 9999, else a sign and six digits. -/
def yearText (year : Int) : String :=
  if 0 ≤ year ∧ year ≤ 9999 then padded 4 year.toNat
  else (if year < 0 then "-" else "+") ++ padded 6 year.natAbs

def toISOString (date : Date) : String :=
  let (year, month, day) := civil (date.ms / 86400000)
  let time := (date.ms % 86400000).toNat
  yearText year ++ "-" ++ padded 2 month ++ "-" ++ padded 2 day ++ "T" ++
    padded 2 (time / 3600000) ++ ":" ++ padded 2 (time / 60000 % 60) ++ ":" ++
    padded 2 (time / 1000 % 60) ++ "." ++ padded 3 (time % 1000) ++ "Z"

example : (Date.mk 0).toISOString = "1970-01-01T00:00:00.000Z" := by decide

example : (Date.mk 1709210096789).toISOString = "2024-02-29T12:34:56.789Z" := by decide

end Date

/-- A finite number, as the shortest decimal `significand * 10 ^ exponent` that
denotes it. Negative zero is identified with zero. -/
structure JsNumber where
  significand : Int
  exponent : Int
  reduced : significand % 10 ≠ 0 ∨ significand = 0 ∧ exponent = 0
deriving DecidableEq

namespace JsNumber

def zero : JsNumber := ⟨0, 0, .inr ⟨rfl, rfl⟩⟩

/-- Fifty below zero is written as `-5e1`. -/
theorem fifty_reduced : (-5 : Int) % 10 ≠ 0 ∨ (-5 : Int) = 0 ∧ (1 : Int) = 0 := by
  decide

instance decimals_neZero : NeZero 10 := ⟨by decide⟩

/-- A decimal digit, as a number. -/
def digit (d : Fin 10) : JsNumber :=
  if h : (d.val : Int) % 10 ≠ 0 then ⟨d.val, 0, .inl h⟩ else zero

/-- The number of a natural number whose trailing zeros have been stripped from
`n * 10 ^ exponent`. The fuel bounds the number of zeros. -/
def stripZeros : (fuel n : Nat) → (exponent : Int) → JsNumber
  | 0, _, _ => zero
  | fuel + 1, n, exponent =>
      if h : (n : Int) % 10 ≠ 0 then ⟨n, exponent, .inl h⟩
      else if n = 0 then zero
      else stripZeros fuel (n / 10) (exponent + 1)

def ofNat (n : Nat) : JsNumber :=
  stripZeros (n + 1) n 0

/-- `Number::toString` in base ten: positional below `10 ^ 21` and down to
`10 ^ -6`, scientific otherwise. -/
protected def toString (n : JsNumber) : String :=
  let digits := toString n.significand.natAbs
  let count : Int := digits.length
  let point := n.exponent + count
  let sign := if n.significand < 0 then "-" else ""
  let zeros (amount : Int) := String.ofList (List.replicate amount.toNat '0')
  sign ++
    if count ≤ point ∧ point ≤ 21 then digits ++ zeros (point - count)
    else if 0 < point ∧ point ≤ 21 then
      String.ofList (digits.toList.take point.toNat) ++ "." ++
        String.ofList (digits.toList.drop point.toNat)
    else if -6 < point ∧ point ≤ 0 then "0." ++ zeros (-point) ++ digits
    else
      let tail := String.ofList (digits.toList.drop 1)
      String.ofList (digits.toList.take 1) ++ (if tail.isEmpty then "" else "." ++ tail) ++
        "e" ++ (if 0 < point then "+" else "-") ++ toString (point - 1).natAbs

example : (JsNumber.mk (-215) (-1) (by decide)).toString = "-21.5" := by decide

example : (JsNumber.ofNat 90).toString = "90" := by decide

end JsNumber

/-- Payload values. An object lists its own properties in insertion order, and
a property may hold `undefined`. -/
inductive Value where
  | null
  | bool (value : Bool)
  | number (value : JsNumber)
  | string (value : String)
  | date (value : Date)
  | array (items : List Value)
  | object (properties : List (String × Option Value))

namespace Value

/-- Property access. -/
def get? (key : String) : Value → Option Value
  | .object properties => (properties.lookup key).join
  | _ => none

end Value

namespace Json

/-- `\u` and four lowercase hexadecimal digits. -/
def unicodeEscape (code : Nat) : String :=
  let digits := String.ofList (Nat.toDigits 16 code)
  "\\u" ++ String.ofList (List.replicate (4 - digits.length) '0') ++ digits

/-- Well-formed strings have no lone surrogate, so only quotes, backslashes and
control characters are escaped. -/
def escapeChar (c : Char) : String :=
  if c = '"' then "\\\""
  else if c = '\\' then "\\\\"
  else if c.toNat = 8 then "\\b"
  else if c = '\t' then "\\t"
  else if c = '\n' then "\\n"
  else if c.toNat = 12 then "\\f"
  else if c = '\r' then "\\r"
  else if c.toNat < 32 then unicodeEscape c.toNat
  else c.toString

def quote (text : String) : String :=
  "\"" ++ String.join (text.toList.map escapeChar) ++ "\""

mutual

def stringify : Value → String
  | .null => "null"
  | .bool value => if value then "true" else "false"
  | .number value => value.toString
  | .string value => quote value
  | .date value => quote value.toISOString
  | .array items => "[" ++ stringifyItems items ++ "]"
  | .object properties => "\x7b" ++ stringifyProperties properties ++ "\x7d"

/-- Array items separated by commas. -/
def stringifyItems : List Value → String
  | [] => ""
  | [item] => stringify item
  | item :: next :: rest => stringify item ++ "," ++ stringifyItems (next :: rest)

/-- Properties in order, separated by commas, without the undefined ones. -/
def stringifyProperties : List (String × Option Value) → String
  | [] => ""
  | (_, none) :: rest => stringifyProperties rest
  | (key, some value) :: rest =>
      let first := quote key ++ ":" ++ stringify value
      let others := stringifyProperties rest
      if others.isEmpty then first else first ++ "," ++ others

end

end Json

end Navin
