import Mathlib.Algebra.GroupWithZero.Nat
import Mathlib.Data.Bool.AllAny
import Navin.Semantics.Readability
import Navin.Shared.Crypto

/-! Strings as the runtime has them, sequences of UTF-16 code units that may hold
lone surrogates, and the text `JSON.stringify` quotes them with. -/
namespace Navin

open Readability

abbrev CodeUnit := Fin 0x10000

instance codeUnits_neZero : NeZero 0x10000 := ⟨by decide⟩

abbrev JsString := List CodeUnit

/-- The string of a well-formed text. -/
def utf16 (text : String) : JsString :=
  (utf16Units text).map (Fin.ofNat 0x10000)

/-- `text.trim()`. -/
def trim (text : String) : String :=
  let leading := text.toList.dropWhile isWhitespace
  String.ofList (leading.reverse.dropWhile isWhitespace).reverse

example : trim "\t cold chain \n" = "cold chain" := by decide

section Utf16

/-- One code unit, or a surrogate pair. -/
def utf16Char (c : Char) : JsString :=
  if c.toNat < 0x10000 then [Fin.ofNat _ c.toNat]
  else [Fin.ofNat _ (0xD800 + (c.toNat - 0x10000) / 0x400),
    Fin.ofNat _ (0xDC00 + (c.toNat - 0x10000) % 0x400)]

theorem utf16_eq_flatMap (text : String) : utf16 text = text.toList.flatMap utf16Char := by
  rw [utf16, utf16Units, List.map_flatMap]
  congr 1
  funext c
  rw [utf16Char, apply_ite (List.map _)]
  rfl

theorem utf16Char_ne_nil (c : Char) : utf16Char c ≠ [] := by
  rw [utf16Char]
  split_ifs <;> exact List.cons_ne_nil _ _

theorem char_toNat_cases (c : Char) :
    c.toNat < 0xD800 ∨ 0xDFFF < c.toNat ∧ c.toNat < 0x110000 :=
  c.valid

theorem readable_utf16Char : Readable utf16Char Set.univ := by
  intro c d x y _ _ hText
  have hFirst := char_toNat_cases c
  have hSecond := char_toNat_cases d
  have hSame : c.toNat = d.toNat ∧ x = y := by
    simp only [utf16Char] at hText
    split_ifs at hText with hSmall hSmall' <;>
      simp only [List.cons_append, List.nil_append, List.cons.injEq, Fin.ext_iff,
        Fin.val_ofNat] at hText
    · exact ⟨by omega, hText.2⟩
    · omega
    · omega
    · exact ⟨by omega, hText.2.2⟩
  exact ⟨Char.toNat_inj.mp hSame.1, hSame.2⟩

theorem utf16_injective : Function.Injective utf16 := by
  have hOpens : ∀ c, ∃ unit rest, utf16Char c = unit :: rest ∧ unit ≠ (0xDC00 : CodeUnit) := by
    intro c
    have hChar := char_toNat_cases c
    rw [utf16Char]
    split_ifs with hSmall
    · refine ⟨_, [], rfl, fun hUnit => ?_⟩
      have hVal := congrArg Fin.val hUnit
      simp only [Fin.val_ofNat] at hVal
      omega
    · refine ⟨_, _, rfl, fun hUnit => ?_⟩
      have hVal := congrArg Fin.val hUnit
      simp only [Fin.val_ofNat] at hVal
      omega
  intro first second hText
  rw [utf16_eq_flatMap, utf16_eq_flatMap] at hText
  have hClosed : Readable (fun cs : List Char => cs.flatMap utf16Char ++ [(0xDC00 : CodeUnit)])
      Set.univ := readable_utf16Char.closed hOpens
  apply String.toList_injective
  apply hClosed.injective trivial
  simp only [hText]

end Utf16

namespace CodeUnit

def quotationMark : CodeUnit := 0x22
def comma : CodeUnit := 0x2C
def colon : CodeUnit := 0x3A
def leftBracket : CodeUnit := 0x5B
def backslash : CodeUnit := 0x5C
def rightBracket : CodeUnit := 0x5D
def letterU : CodeUnit := 0x75
def leftBrace : CodeUnit := 0x7B
def rightBrace : CodeUnit := 0x7D

def IsLead (unit : CodeUnit) : Prop :=
  0xD800 ≤ unit.val ∧ unit.val ≤ 0xDBFF
deriving Decidable

def IsTrail (unit : CodeUnit) : Prop :=
  0xDC00 ≤ unit.val ∧ unit.val ≤ 0xDFFF
deriving Decidable

/-- What `\s` matches. -/
def isWhitespace (unit : CodeUnit) : Bool :=
  (9 ≤ unit.val && unit.val ≤ 13) || unit.val == 0x20 || unit.val == 0xA0 ||
    unit.val == 0x1680 || (0x2000 ≤ unit.val && unit.val ≤ 0x200A) || unit.val == 0x2028 ||
    unit.val == 0x2029 || unit.val == 0x202F || unit.val == 0x205F || unit.val == 0x3000 ||
    unit.val == 0xFEFF

/-- The units with a two-unit escape, each with the letter after the backslash. -/
def shortEscapes : List (CodeUnit × CodeUnit) :=
  [(quotationMark, quotationMark), (backslash, backslash), (8, 0x62), (9, 0x74), (10, 0x6E),
    (12, 0x66), (13, 0x72)]

def hexDigit (digit : Fin 16) : CodeUnit :=
  if digit.val < 10 then Fin.ofNat _ (48 + digit.val) else Fin.ofNat _ (87 + digit.val)

/-- The four lowercase hexadecimal digits after `\u`. -/
def hexDigits (unit : CodeUnit) : JsString :=
  [hexDigit (Fin.ofNat _ (unit.val / 4096)), hexDigit (Fin.ofNat _ (unit.val / 256)),
    hexDigit (Fin.ofNat _ (unit.val / 16)), hexDigit (Fin.ofNat _ unit.val)]

theorem hexDigit_injective : Function.Injective hexDigit := by
  unfold Function.Injective
  decide

theorem hexDigits_injective {first second : CodeUnit} {x y : JsString}
    (h : hexDigits first ++ x = hexDigits second ++ y) : first = second ∧ x = y := by
  simp only [hexDigits, List.cons_append, List.nil_append, List.cons.injEq,
    hexDigit_injective.eq_iff, Fin.ext_iff, Fin.val_ofNat] at h
  obtain ⟨h₃, h₂, h₁, h₀, hRest⟩ := h
  refine ⟨Fin.ext ?_, hRest⟩
  omega

@[simp] theorem isWhitespace_hexDigit : ∀ digit, isWhitespace (hexDigit digit) = false := by
  decide

@[simp] theorem isWhitespace_backslash : backslash.isWhitespace = false := by
  decide

@[simp] theorem isWhitespace_letterU : letterU.isWhitespace = false := by
  decide

theorem shortEscapes_inj : ∀ first ∈ shortEscapes, ∀ second ∈ shortEscapes,
    first.2 = second.2 → first.1 = second.1 := by
  have hLetters : (shortEscapes.map Prod.snd).Nodup := by decide
  exact fun first hFirst second hSecond h =>
    congrArg Prod.fst (List.inj_on_of_nodup_map hLetters hFirst hSecond h)

/-- The letter of a two-unit escape is neither whitespace nor the one before digits. -/
theorem shortEscapes_letter : ∀ entry ∈ shortEscapes,
    entry.2 ≠ letterU ∧ isWhitespace entry.2 = false :=
  List.all_iff_forall_prop.mp (by decide)

end CodeUnit

/-- A code point: a surrogate pair, or any other unit, a lone surrogate included. -/
inductive CodePoint where
  | single (unit : CodeUnit)
  | pair (lead : { unit : CodeUnit // unit.IsLead }) (trail : { unit : CodeUnit // unit.IsTrail })
deriving DecidableEq

/-- `StringToCodePoints`. -/
def codePoints : JsString → List CodePoint
  | [] => []
  | [unit] => [.single unit]
  | unit :: next :: rest =>
      if h : unit.IsLead ∧ next.IsTrail then .pair ⟨unit, h.1⟩ ⟨next, h.2⟩ :: codePoints rest
      else .single unit :: codePoints (next :: rest)

namespace CodePoint

open CodeUnit

/-- Quotation marks, backslashes, control characters and lone surrogates are escaped. -/
def escape : CodePoint → JsString
  | .single unit =>
      match shortEscapes.lookup unit with
      | some letter => [backslash, letter]
      | none =>
          if unit.val < 32 ∨ unit.IsLead ∨ unit.IsTrail then
            backslash :: letterU :: unit.hexDigits
          else [unit]
  | .pair lead trail => [lead.val, trail.val]

/-- The three ways to write a unit that is no part of a pair. -/
theorem escape_single_cases (unit : CodeUnit) :
    (∃ letter, (unit, letter) ∈ shortEscapes ∧ escape (.single unit) = [backslash, letter]) ∨
    escape (.single unit) = backslash :: letterU :: unit.hexDigits ∨
    (escape (.single unit) = [unit] ∧ unit ≠ quotationMark ∧ unit ≠ backslash ∧
      ¬ unit.IsLead ∧ 32 ≤ unit.val) := by
  simp only [escape]
  cases hShort : shortEscapes.lookup unit with
  | some letter =>
      obtain ⟨before, after, hEntries, -⟩ := List.lookup_eq_some_iff.mp hShort
      refine .inl ⟨letter, ?_, rfl⟩
      rw [hEntries]
      simp
  | none =>
      have hQuotation : unit ≠ quotationMark := by
        rintro rfl
        cases hShort
      have hBackslash : unit ≠ backslash := by
        rintro rfl
        cases hShort
      by_cases hEscaped : unit.val < 32 ∨ unit.IsLead ∨ unit.IsTrail
      · exact .inr (.inl (if_pos hEscaped))
      · have hLiteral := hEscaped
        rw [not_or, not_or] at hLiteral
        refine .inr (.inr ⟨if_neg hEscaped, hQuotation, hBackslash, hLiteral.2.1, ?_⟩)
        exact Nat.le_of_not_lt hLiteral.1

theorem escape_pair_ne_single {lead : { unit : CodeUnit // unit.IsLead }}
    {trail : { unit : CodeUnit // unit.IsTrail }} {unit : CodeUnit} {x y : JsString} :
    escape (.pair lead trail) ++ x ≠ escape (.single unit) ++ y := by
  intro h
  have hLead := lead.property
  obtain ⟨letter, -, hUnit⟩ | hUnit | ⟨hUnit, -, -, hOther, -⟩ := escape_single_cases unit <;>
    rw [hUnit, escape] at h <;> have hHead := (List.cons.inj h).1 <;> rw [hHead] at hLead
  · exact absurd hLead (by decide)
  · exact absurd hLead (by decide)
  · exact hOther hLead

theorem escape_single_inj {first second : CodeUnit} {x y : JsString}
    (h : escape (.single first) ++ x = escape (.single second) ++ y) :
    first = second ∧ x = y := by
  obtain ⟨letter, hFirst, hText⟩ | hText | ⟨hText, -, hFirst, -⟩ := escape_single_cases first <;>
    obtain ⟨letter', hSecond, hText'⟩ | hText' | ⟨hText', -, hSecond, -⟩ :=
      escape_single_cases second <;>
    rw [hText, hText'] at h
  · obtain ⟨hLetter, hRest⟩ : letter = letter' ∧ x = y := by simpa using h
    exact ⟨shortEscapes_inj _ hFirst _ hSecond hLetter, hRest⟩
  · exact absurd (List.cons.inj (List.cons.inj h).2).1 (shortEscapes_letter _ hFirst).1
  · exact absurd (List.cons.inj h).1.symm hSecond
  · exact absurd (List.cons.inj (List.cons.inj h).2).1.symm (shortEscapes_letter _ hSecond).1
  · exact hexDigits_injective (List.cons.inj (List.cons.inj h).2).2
  · exact absurd (List.cons.inj h).1.symm hSecond
  · exact absurd (List.cons.inj h).1 hFirst
  · exact absurd (List.cons.inj h).1 hFirst
  · exact List.cons.inj h

/-- Escapes are self-delimiting. -/
theorem readable_escape : Readable escape Set.univ := by
  rintro (first | ⟨lead, trail⟩) (second | ⟨lead', trail'⟩) x y - - hText
  · obtain ⟨rfl, hRest⟩ := escape_single_inj hText
    exact ⟨rfl, hRest⟩
  · exact absurd hText.symm escape_pair_ne_single
  · exact absurd hText escape_pair_ne_single
  · obtain ⟨hLead, hTrail, hRest⟩ : lead.val = lead'.val ∧ trail.val = trail'.val ∧ x = y := by
      simpa [escape] using hText
    rw [Subtype.ext hLead, Subtype.ext hTrail]
    exact ⟨rfl, hRest⟩

theorem escape_opens (point : CodePoint) :
    ∃ unit rest, escape point = unit :: rest ∧ unit ≠ quotationMark := by
  cases point with
  | single unit =>
      obtain ⟨letter, -, hText⟩ | hText | ⟨hText, hOther, -⟩ := escape_single_cases unit
      · exact ⟨backslash, [letter], hText, by decide⟩
      · exact ⟨backslash, letterU :: unit.hexDigits, hText, by decide⟩
      · exact ⟨unit, [], hText, hOther⟩
  | pair lead trail =>
      refine ⟨lead, [trail.val], rfl, fun hLead => ?_⟩
      have hProperty := lead.property
      rw [hLead] at hProperty
      exact absurd hProperty (by decide)

/-- Whitespace that is written as it is. -/
def vanishes : CodePoint → Bool
  | .single unit => unit.isWhitespace && escape (.single unit) == [unit]
  | .pair _ _ => false

theorem isWhitespace_surrogate {unit : CodeUnit} (h : unit.IsLead ∨ unit.IsTrail) :
    unit.isWhitespace = false := by
  simp only [IsLead, IsTrail] at h
  simp only [CodeUnit.isWhitespace, Bool.or_eq_false_iff, Bool.and_eq_false_iff,
    beq_eq_false_iff_ne, decide_eq_false_iff_not]
  omega

end CodePoint

namespace JsString

open CodeUnit CodePoint

/-- `text.replace(/\s+/g, '')`. -/
def stripWhitespace (text : JsString) : JsString :=
  text.filter fun unit => !unit.isWhitespace

/-- Two strings in a row. -/
theorem stripWhitespace_append (first second : JsString) :
    stripWhitespace (first ++ second) = stripWhitespace first ++ stripWhitespace second := by
  rw [stripWhitespace, List.filter_append]
  rfl

theorem stripWhitespace_eq_self {text : JsString}
    (h : ∀ unit ∈ text, unit.isWhitespace = false) : stripWhitespace text = text := by
  rw [stripWhitespace, List.filter_eq_self]
  intro unit hUnit
  rw [h unit hUnit]
  rfl

/-- Deletion takes an escape whole or not at all. -/
theorem stripWhitespace_escape (point : CodePoint) :
    stripWhitespace point.escape = if point.vanishes then [] else point.escape := by
  cases point with
  | single unit =>
      obtain ⟨letter, hLetter, hText⟩ | hText | ⟨hText, -⟩ := escape_single_cases unit
      · have hSpaces := (shortEscapes_letter _ hLetter).2
        have hKept : stripWhitespace [backslash, letter] = [backslash, letter] :=
          stripWhitespace_eq_self (by simp [hSpaces])
        simp [vanishes, hText, hKept]
      · have hKept : stripWhitespace (backslash :: letterU :: unit.hexDigits) =
            backslash :: letterU :: unit.hexDigits := by
          apply stripWhitespace_eq_self
          simp [hexDigits]
        simp [vanishes, hText, hKept]
      · cases hSpace : unit.isWhitespace <;> simp [vanishes, hText, hSpace, stripWhitespace]
  | pair lead trail =>
      have hLead := isWhitespace_surrogate (.inl lead.property)
      have hTrail := isWhitespace_surrogate (.inr trail.property)
      simp [vanishes, escape, stripWhitespace, hLead, hTrail]

/-- The content of a quoted string, up to the closing mark. -/
def quotedContent (points : List CodePoint) : JsString :=
  points.flatMap escape ++ [quotationMark]

/-- `QuoteJSONString`. -/
def quote (text : JsString) : JsString :=
  quotationMark :: quotedContent (codePoints text)

/-- The code points of a text that survive the deletion of whitespace. -/
def visible (text : JsString) : List CodePoint :=
  (codePoints text).filter fun point => !point.vanishes

theorem stripWhitespace_quote (text : JsString) :
    stripWhitespace (quote text) = quotationMark :: quotedContent (visible text) := by
  have hContent : ∀ points : List CodePoint, stripWhitespace (points.flatMap escape) =
      (points.filter fun point => !point.vanishes).flatMap escape := by
    intro points
    induction points with
    | nil => rfl
    | cons point points ih =>
        rw [List.flatMap_cons, stripWhitespace_append, stripWhitespace_escape, ih]
        cases hVanishes : point.vanishes <;> simp [hVanishes]
  have hMark : ∀ rest : JsString,
      stripWhitespace (quotationMark :: rest) = quotationMark :: stripWhitespace rest :=
    fun rest => stripWhitespace_append [quotationMark] rest
  rw [quote, hMark, quotedContent, stripWhitespace_append, hContent]
  rfl

/-- Deletion commutes with building a text from comma-separated parts. -/
theorem stripWhitespace_enclosed {left right : CodeUnit} (hLeft : left.isWhitespace = false)
    (hRight : right.isWhitespace = false) (parts : List JsString) :
    stripWhitespace (left :: separated comma parts ++ [right]) =
      left :: (separated comma (parts.map stripWhitespace) ++ [right]) := by
  have hParts : stripWhitespace (separated comma parts) =
      separated comma (parts.map stripWhitespace) := by
    apply filter_separated
    decide
  have hEnds : stripWhitespace [left] = [left] ∧ stripWhitespace [right] = [right] := by
    simp [stripWhitespace, hLeft, hRight]
  rw [List.cons_append, ← List.singleton_append, stripWhitespace_append, stripWhitespace_append,
    hParts, hEnds.1, hEnds.2]
  rfl

theorem readable_quotedContent : Readable quotedContent Set.univ :=
  readable_escape.closed escape_opens

end JsString

end Navin
