import Mathlib.Algebra.Order.Ring.Int
import Navin.Semantics.RegExp
import Navin.Shared.Chain
import Navin.Shared.JsString

/-! The schema of amounts in base units: a regular expression and, whether or not the
expression matches, a refinement that reads the text as an integer. -/
namespace Navin

/-- What the constructors and conversions of the language throw. -/
structure SyntaxError where
  message : JsString
deriving DecidableEq

section BigInts

/-- A decimal digit or a letter, as a digit of the radix. -/
def digitValue (radix : Nat) (unit : CodeUnit) : Option Nat :=
  let value :=
    if 0x30 ≤ unit.val ∧ unit.val ≤ 0x39 then unit.val - 0x30
    else if 0x41 ≤ unit.val ∧ unit.val ≤ 0x5A then unit.val - 0x37
    else if 0x61 ≤ unit.val ∧ unit.val ≤ 0x7A then unit.val - 0x57
    else radix
  if value < radix then some value else none

/-- The number that digits denote, after those that have been read. -/
def digitsValue (radix : Nat) : (read : Nat) → JsString → Option Nat
  | read, [] => some read
  | read, unit :: rest => do digitsValue radix (radix * read + (← digitValue radix unit)) rest

/-- One digit or more. -/
def numeralValue (radix : Nat) (digits : JsString) : Option Nat :=
  if digits.isEmpty then none else digitsValue radix 0 digits

/-- The radix a letter after a zero stands for. -/
def radixLetter (unit : CodeUnit) : Option Nat :=
  if unit = 0x78 ∨ unit = 0x58 then some 16
  else if unit = 0x6F ∨ unit = 0x4F then some 8
  else if unit = 0x62 ∨ unit = 0x42 then some 2
  else none

/-- `StringToBigInt`. Surrounding whitespace is left out, the empty text is zero, and a
sign goes with decimal digits only. -/
def stringToBigInt (text : JsString) : Option Int :=
  let leading := text.dropWhile CodeUnit.isWhitespace
  match (leading.reverse.dropWhile CodeUnit.isWhitespace).reverse with
  | [] => some 0
  | 0x2B :: digits => (numeralValue 10 digits).map Int.ofNat
  | 0x2D :: digits => (numeralValue 10 digits).map fun n => -Int.ofNat n
  | first :: rest =>
      match (if first = 0x30 then rest.head?.bind radixLetter else none) with
      | some radix => (numeralValue radix rest.tail).map Int.ofNat
      | none => (numeralValue 10 (first :: rest)).map Int.ofNat

/-- `BigInt(text)`. -/
def bigInt (text : JsString) : Except SyntaxError Int :=
  match stringToBigInt text with
  | some value => .ok value
  | none => .error ⟨utf16 "Cannot convert " ++ text ++ utf16 " to a BigInt"⟩

end BigInts

section Schemas

/-- A schema of strings: the messages of the issues that a parse adds. What a check throws
is not caught. -/
abbrev StringSchema : Type :=
  JsString → Except SyntaxError (List String)

/-- `z.string()`. -/
def anyString : StringSchema :=
  fun _ => .ok []

/-- `schema.regex(pattern, message)`. -/
def StringSchema.regex (schema : StringSchema) (pattern : RegExp CodeUnit) (message : String) :
    StringSchema := fun text => do
  let issues ← schema text
  return if pattern.test text then issues else issues ++ [message]

/-- `schema.refine(check, message)`. The check is made whatever issues there are already. -/
def StringSchema.refine (schema : StringSchema) (check : JsString → Except SyntaxError Bool)
    (message : String) : StringSchema := fun text => do
  let issues ← schema text
  let passed ← check text
  return if passed then issues else issues ++ [message]

def i128Max : Int :=
  2 ^ 127 - 1

def unitBetween (low high : Nat) (unit : CodeUnit) : Bool :=
  low ≤ unit.val && unit.val ≤ high

/-- `/^[1-9][0-9]*$/`. -/
def positiveNumeral : RegExp CodeUnit :=
  .seq .start (.seq (.seq (.set (unitBetween 0x31 0x39)) (.star (.set (unitBetween 0x30 0x39))))
    .stop)

/-- The conversion is guarded by the expression. -/
def withinI128 (text : JsString) : Except SyntaxError Bool :=
  if !positiveNumeral.test text then .ok true
  else do return decide ((← bigInt text) ≤ i128Max)

def positiveI128Schema : StringSchema :=
  (anyString.regex positiveNumeral "Expected positive integer string").refine withinI128
    "Exceeds i128 range"

end Schemas

section Numerals

/-- The text of a number in base ten. -/
def numeralText (n : Nat) : JsString :=
  utf16 (toString n)

/-- Digits, one unit each. -/
theorem utf16_ofList_digits {digits : List Char} (h : ∀ c ∈ digits, c.isDigit = true) :
    utf16 (String.ofList digits) = digits.map fun c => Fin.ofNat _ c.toNat := by
  rw [utf16_eq_flatMap, String.toList_ofList, ← List.flatMap_singleton' (digits.map _),
    List.flatMap_map]
  refine List.flatMap_congr fun c hc => if_pos ?_
  have hDigit := Char.isDigit_iff_toNat.mp (h c hc)
  have hNine : '9'.toNat = 57 := by decide
  omega

theorem numeralText_eq (n : Nat) :
    numeralText n = (Nat.toDigits 10 n).map fun c => Fin.ofNat _ c.toNat := by
  rw [numeralText, Nat.toString_eq_ofList_toDigits, utf16_ofList_digits]
  exact fun c hc => Nat.isDigit_of_mem_toDigits (by decide) (by decide) hc

/-- The unit of a digit. -/
def digitUnit (digit : Nat) : CodeUnit :=
  Fin.ofNat _ (0x30 + digit)

theorem digitUnit_eq {digit : Nat} (h : digit < 10) :
    (Fin.ofNat 0x10000 (Nat.digitChar digit).toNat : CodeUnit) = digitUnit digit := by
  have hAll : ∀ digit : Fin 10,
      (Fin.ofNat 0x10000 (Nat.digitChar digit.val).toNat : CodeUnit) = digitUnit digit.val := by
    decide
  exact hAll ⟨digit, h⟩

theorem numeralText_of_lt {digit : Nat} (h : digit < 10) :
    numeralText digit = [digitUnit digit] := by
  rw [numeralText_eq, Nat.toDigits_of_lt_base h, List.map_singleton, digitUnit_eq h]

/-- One more digit at the end. -/
theorem numeralText_snoc {n digit : Nat} (hn : 0 < n) (h : digit < 10) :
    numeralText (10 * n + digit) = numeralText n ++ [digitUnit digit] := by
  rw [numeralText_eq, ← Nat.toDigits_append_toDigits (by decide) hn h, List.map_append,
    ← numeralText_eq, Nat.toDigits_of_lt_base h, List.map_singleton, digitUnit_eq h]

theorem digitValue_digitUnit {digit : Nat} (h : digit < 10) :
    digitValue 10 (digitUnit digit) = some digit := by
  have hAll : ∀ digit : Fin 10, digitValue 10 (digitUnit digit.val) = some digit.val := by decide
  exact hAll ⟨digit, h⟩

theorem unitBetween_iff {low : Nat} (hLow : low < 10) {unit : CodeUnit} :
    unitBetween (0x30 + low) 0x39 unit = true ↔
      ∃ digit, low ≤ digit ∧ digit < 10 ∧ unit = digitUnit digit := by
  rw [unitBetween, Bool.and_eq_true, decide_eq_true_eq, decide_eq_true_eq]
  constructor
  · rintro ⟨hAbove, hBelow⟩
    refine ⟨unit.val - 0x30, by omega, by omega, Fin.ext ?_⟩
    rw [digitUnit, Fin.val_ofNat, Nat.mod_eq_of_lt] <;> omega
  · rintro ⟨digit, hAbove, hBelow, rfl⟩
    rw [digitUnit, Fin.val_ofNat, Nat.mod_eq_of_lt (by omega)]
    omega

/-- What is read after a positive number continues its numeral. -/
theorem digitsValue_eq {digits : JsString} (h : ∀ unit ∈ digits, unitBetween 0x30 0x39 unit = true)
    {read : Nat} (hRead : 0 < read) :
    ∃ n, 0 < n ∧ digitsValue 10 read digits = some n ∧ numeralText n = numeralText read ++ digits := by
  induction digits generalizing read with
  | nil => exact ⟨read, hRead, rfl, (List.append_nil _).symm⟩
  | cons unit rest ih =>
      obtain ⟨hUnit, hRest⟩ := List.forall_mem_cons.mp h
      obtain ⟨digit, -, hDigit, rfl⟩ := (unitBetween_iff (by decide : 0 < 10)).mp hUnit
      obtain ⟨n, hn, hValue, hText⟩ := ih hRest (by omega : 0 < 10 * read + digit)
      refine ⟨n, hn, ?_, ?_⟩
      · rw [digitsValue, digitValue_digitUnit hDigit]
        exact hValue
      · rw [hText, numeralText_snoc hRead hDigit, List.append_assoc]
        rfl

theorem test_positiveNumeral (text : JsString) : positiveNumeral.test text = true ↔
    ∃ first digits, text = first :: digits ∧ unitBetween 0x31 0x39 first = true ∧
      ∀ unit ∈ digits, unitBetween 0x30 0x39 unit = true := by
  rw [positiveNumeral, RegExp.test_anchored]
  simp only [RegExp.mem_ends_seq, RegExp.mem_ends_star_set]
  constructor
  · rintro ⟨before, middle, hFirst, digits, hDigits, hAll, -⟩
    obtain ⟨first, rest, hText, hUnit, rfl⟩ := RegExp.mem_advance.mp hFirst
    rw [List.append_nil] at hDigits
    exact ⟨first, digits, hDigits ▸ hText, hUnit, hAll⟩
  · rintro ⟨first, digits, rfl, hUnit, hAll⟩
    exact ⟨digits.reverse ++ [first], ([first], digits),
      RegExp.mem_advance.mpr ⟨first, digits, rfl, hUnit, rfl⟩, digits,
      (List.append_nil _).symm, hAll, rfl⟩

end Numerals

section Acceptance

theorem isWhitespace_digitUnit {digit : Nat} (h : digit < 10) :
    (digitUnit digit).isWhitespace = false := by
  have hAll : ∀ digit : Fin 10, (digitUnit digit.val).isWhitespace = false := by decide
  exact hAll ⟨digit, h⟩

theorem dropWhile_isWhitespace {text : JsString}
    (h : ∀ unit ∈ text, unit.isWhitespace = false) : text.dropWhile CodeUnit.isWhitespace = text := by
  cases text with
  | nil => rfl
  | cons unit rest => rw [List.dropWhile_cons, h unit List.mem_cons_self, if_neg Bool.false_ne_true]

/-- Digits that do not begin with a zero are read in base ten. -/
theorem stringToBigInt_digits {digit : Nat} (hPositive : 1 ≤ digit) (hDigit : digit < 10)
    {digits : JsString} (hDigits : ∀ unit ∈ digits, unitBetween 0x30 0x39 unit = true) :
    stringToBigInt (digitUnit digit :: digits) =
      (digitsValue 10 digit digits).map Int.ofNat := by
  have hSpaces : ∀ unit ∈ digitUnit digit :: digits, unit.isWhitespace = false := by
    refine List.forall_mem_cons.mpr ⟨isWhitespace_digitUnit hDigit, fun unit hUnit => ?_⟩
    obtain ⟨next, -, hNext, rfl⟩ := (unitBetween_iff (by decide : 0 < 10)).mp (hDigits unit hUnit)
    exact isWhitespace_digitUnit hNext
  have hText : (((digitUnit digit :: digits).dropWhile CodeUnit.isWhitespace).reverse.dropWhile
      CodeUnit.isWhitespace).reverse = digitUnit digit :: digits := by
    rw [dropWhile_isWhitespace hSpaces, dropWhile_isWhitespace, List.reverse_reverse]
    exact fun unit hUnit => hSpaces unit (List.mem_reverse.mp hUnit)
  have hMarks : ∀ digit : Fin 10, 1 ≤ digit.val → digitUnit digit.val ≠ 0x2B ∧
      digitUnit digit.val ≠ 0x2D ∧ digitUnit digit.val ≠ 0x30 := by decide
  obtain ⟨hPlus, hMinus, hZero⟩ := hMarks ⟨digit, hDigit⟩ hPositive
  simp only at hPlus hMinus hZero
  have hValue : numeralValue 10 (digitUnit digit :: digits) = digitsValue 10 digit digits := by
    simp only [numeralValue, List.isEmpty_cons, Bool.false_eq_true, if_false, digitsValue,
      digitValue_digitUnit hDigit, Option.bind_eq_bind, Option.bind_some, Nat.mul_zero,
      Nat.zero_add]
  simp only [stringToBigInt, hText, hZero, if_false, hValue]

/-- A text that the expression matches is the numeral of a positive number, which is what
the conversion reads. -/
theorem positiveNumeral_spec {text : JsString} (h : positiveNumeral.test text = true) :
    ∃ n : Nat, 1 ≤ n ∧ text = numeralText n ∧ bigInt text = .ok n := by
  obtain ⟨first, digits, rfl, hFirst, hDigits⟩ := (test_positiveNumeral text).mp h
  obtain ⟨digit, hPositive, hDigit, rfl⟩ := (unitBetween_iff (by decide : 1 < 10)).mp hFirst
  obtain ⟨n, hn, hValue, hText⟩ := digitsValue_eq hDigits hPositive
  rw [numeralText_of_lt hDigit] at hText
  refine ⟨n, hn, hText.symm, ?_⟩
  rw [bigInt, stringToBigInt_digits hPositive hDigit hDigits, hValue]
  rfl

theorem test_numeralText {n : Nat} (h : 1 ≤ n) : positiveNumeral.test (numeralText n) = true := by
  rw [test_positiveNumeral]
  induction n using Nat.strong_induction_on with
  | _ n ih =>
      by_cases hSmall : n < 10
      · exact ⟨digitUnit n, [], numeralText_of_lt hSmall,
          (unitBetween_iff (by decide : 1 < 10)).mpr ⟨n, h, hSmall, rfl⟩, nofun⟩
      · obtain ⟨first, digits, hText, hFirst, hDigits⟩ := ih (n / 10) (by omega) (by omega)
        have hLast : n % 10 < 10 := Nat.mod_lt n (by decide)
        refine ⟨first, digits ++ [digitUnit (n % 10)], ?_, hFirst, ?_⟩
        · rw [← List.cons_append, ← hText, ← numeralText_snoc (by omega) hLast, Nat.div_add_mod]
        · intro unit hUnit
          rcases List.mem_append.mp hUnit with hUnit | hUnit
          · exact hDigits unit hUnit
          · exact (unitBetween_iff (by decide : 0 < 10)).mpr
              ⟨n % 10, Nat.zero_le _, hLast, List.mem_singleton.mp hUnit⟩

theorem numeralText_injective : Function.Injective numeralText := by
  intro m n h
  have hDigits : Nat.toDigits 10 m = Nat.toDigits 10 n := by
    have hLists := congrArg String.toList (utf16_injective h)
    rwa [Nat.toString_eq_ofList_toDigits, Nat.toString_eq_ofList_toDigits, String.toList_ofList,
      String.toList_ofList] at hLists
  rw [← @Nat.ofDigitChars_ten_toDigits m, hDigits, Nat.ofDigitChars_ten_toDigits]

/-- The two ways to be refused, and the one not to be. -/
theorem positiveI128Schema_cases (text : JsString) :
    (positiveNumeral.test text = false ∧
      positiveI128Schema text = .ok ["Expected positive integer string"]) ∨
    ∃ n : Nat, 1 ≤ n ∧ text = numeralText n ∧ positiveI128Schema text =
      .ok (if (n : Int) ≤ i128Max then [] else ["Exceeds i128 range"]) := by
  cases hTest : positiveNumeral.test text with
  | false =>
      refine .inl ⟨rfl, ?_⟩
      simp [positiveI128Schema, StringSchema.refine, StringSchema.regex, anyString, withinI128,
        hTest, pure, Except.pure, bind, Except.bind]
  | true =>
      obtain ⟨n, hn, hText, hValue⟩ := positiveNumeral_spec hTest
      refine .inr ⟨n, hn, hText, ?_⟩
      simp [positiveI128Schema, StringSchema.refine, StringSchema.regex, anyString, withinI128,
        hTest, hValue, pure, Except.pure, bind, Except.bind]

/-- A parse always comes to an end, and finds nothing wrong with the numerals of the
positive numbers of 128 signed bits and nothing else. -/
theorem positiveI128Schema_accepts (text : JsString) :
    ∃ issues, positiveI128Schema text = .ok issues ∧
      (issues = [] ↔ ∃ n : Nat, 1 ≤ n ∧ n ≤ 2 ^ 127 - 1 ∧ text = utf16 (toString n)) := by
  rcases positiveI128Schema_cases text with ⟨hTest, hParse⟩ | ⟨n, hn, rfl, hParse⟩
  · refine ⟨_, hParse, iff_of_false (List.cons_ne_nil _ _) ?_⟩
    rintro ⟨n, hn, -, rfl⟩
    rw [← numeralText, test_numeralText hn] at hTest
    cases hTest
  · refine ⟨_, hParse, ?_⟩
    rw [ite_eq_left_iff]
    constructor
    · intro hIssues
      refine ⟨n, hn, ?_, rfl⟩
      by_contra hLarge
      refine List.cons_ne_nil _ _ (hIssues ?_)
      rw [i128Max]
      omega
    · rintro ⟨m, -, hRange, hText⟩ hLarge
      rw [numeralText_injective hText, i128Max] at hLarge
      omega

theorem positiveI128Schema_numeralText {n : Nat} (h : 1 ≤ n) :
    positiveI128Schema (numeralText n) = .ok [] ↔ n < 2 ^ 127 := by
  rcases positiveI128Schema_cases (numeralText n) with ⟨hTest, -⟩ | ⟨m, -, hText, hParse⟩
  · rw [test_numeralText h] at hTest
    cases hTest
  · obtain rfl := numeralText_injective hText
    rw [hParse, Except.ok.injEq, ite_eq_left_iff, i128Max]
    have hIssue : ["Exceeds i128 range"] ≠ [] := List.cons_ne_nil _ _
    simp only [hIssue, imp_false]
    omega

theorem unitBetween_toNat {c : Char} (h : c.isDigit = true) {low : Nat}
    (hLow : 0x30 + low ≤ c.toNat) : unitBetween (0x30 + low) 0x39 (Fin.ofNat _ c.toNat) = true := by
  have hDigit := Char.isDigit_iff_toNat.mp h
  have hNine : '9'.toNat = 0x39 := by decide
  rw [unitBetween, Fin.val_ofNat, Nat.mod_eq_of_lt (by omega), Bool.and_eq_true,
    decide_eq_true_eq, decide_eq_true_eq]
  omega

/-- Where the check of arguments and events holds, the text is a numeral in range. -/
theorem isPositiveI128_iff_numeral (text : String) : isPositiveI128 text = true ↔
    ∃ n : Nat, 1 ≤ n ∧ n < 2 ^ 127 ∧ text = toString n := by
  have hCodes : '0'.toNat = 0x30 ∧ '1'.toNat = 0x31 ∧ '9'.toNat = 0x39 := by decide
  have hOne : ∀ c : Char, '1' ≤ c ↔ '1'.toNat ≤ c.toNat := fun c => UInt32.le_iff_toNat_le
  have hNine : ∀ c : Char, c ≤ '9' ↔ c.toNat ≤ '9'.toNat := fun c => UInt32.le_iff_toNat_le
  rw [isPositiveI128]
  constructor
  · intro h
    split at h
    · cases h
    rename_i first rest hText
    simp only [Bool.and_eq_true, decide_eq_true_eq, List.all_eq_true, hOne, hNine,
      ← Nat.ofDigitChars_eq_foldl] at h
    obtain ⟨⟨hFirst, hRest⟩, hRange⟩ := h
    have hDigits : ∀ c ∈ first :: rest, c.isDigit = true := by
      refine List.forall_mem_cons.mpr ⟨Char.isDigit_iff_toNat.mpr ?_, hRest⟩
      omega
    have hUnits : utf16 text = (first :: rest).map fun c => Fin.ofNat _ c.toNat := by
      rw [← utf16_ofList_digits hDigits, ← hText, String.ofList_toList]
    have hTest : positiveNumeral.test (utf16 text) = true := by
      refine (test_positiveNumeral _).mpr ⟨_, _, hUnits, ?_, fun unit hUnit => ?_⟩
      · exact @unitBetween_toNat first (hDigits first List.mem_cons_self) 1 (by omega)
      · obtain ⟨c, hc, rfl⟩ := List.mem_map.mp hUnit
        have hDigit := Char.isDigit_iff_toNat.mp (hRest c hc)
        exact @unitBetween_toNat c (hRest c hc) 0 (by omega)
    obtain ⟨n, hn, hNumeral, -⟩ := positiveNumeral_spec hTest
    have hSame : text = toString n := utf16_injective hNumeral
    refine ⟨n, hn, ?_, hSame⟩
    rw [← hText, hSame, Nat.toString_eq_ofList_toDigits, String.toList_ofList,
      Nat.ofDigitChars_ten_toDigits] at hRange
    exact hRange
  · rintro ⟨n, hn, hRange, rfl⟩
    obtain ⟨unit, units, hUnits, hFirst, -⟩ :=
      (test_positiveNumeral _).mp (test_numeralText hn)
    rw [numeralText_eq] at hUnits
    rw [Nat.toString_eq_ofList_toDigits, String.toList_ofList]
    have hDigits : ∀ c ∈ Nat.toDigits 10 n, c.isDigit = true :=
      fun c hc => Nat.isDigit_of_mem_toDigits (by decide) (by decide) hc
    cases hText : Nat.toDigits 10 n with
    | nil => exact absurd hText Nat.toDigits_ne_nil
    | cons first rest =>
        rw [hText] at hUnits hDigits
        obtain ⟨rfl, -⟩ := List.cons.inj hUnits
        obtain ⟨hDigit, hRest⟩ := List.forall_mem_cons.mp hDigits
        have hBounds := Char.isDigit_iff_toNat.mp hDigit
        rw [unitBetween, Fin.val_ofNat, Nat.mod_eq_of_lt (by omega), Bool.and_eq_true,
          decide_eq_true_eq, decide_eq_true_eq] at hFirst
        simp only [Bool.and_eq_true, decide_eq_true_eq, List.all_eq_true, hOne, hNine,
          ← Nat.ofDigitChars_eq_foldl]
        refine ⟨⟨by omega, hRest⟩, ?_⟩
        rwa [← hText, Nat.ofDigitChars_ten_toDigits]

/-- The check of arguments and events is the schema, on well-formed texts. -/
theorem isPositiveI128_iff (text : String) :
    isPositiveI128 text = true ↔ positiveI128Schema (utf16 text) = .ok [] := by
  rw [isPositiveI128_iff_numeral]
  constructor
  · rintro ⟨n, hn, hRange, rfl⟩
    exact (positiveI128Schema_numeralText hn).mpr hRange
  · intro h
    rcases positiveI128Schema_cases (utf16 text) with ⟨-, hParse⟩ | ⟨n, hn, hText, -⟩
    · rw [hParse] at h
      cases h
    · rw [hText, positiveI128Schema_numeralText hn] at h
      exact ⟨n, hn, h, utf16_injective hText⟩

end Acceptance

end Navin
