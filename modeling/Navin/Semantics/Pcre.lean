import Mathlib.Data.List.Forall2
import Mathlib.Logic.Function.Iterate

/-! Regular expressions as PCRE documents them, with the option `i` and no other: groups,
alternatives, repetitions, character classes, anchors, and escapes of characters that are
neither letters nor digits. A pattern with anything else is not parsed here. Whether there
is a match does not depend on which one is preferred. -/
namespace Pcre

/-- The characters that a character is equal to without regard to case. -/
class CaseTable where
  variants : Char → List Char

inductive Regex where
  | empty
  | literal (char : Char)
  | any
  | set (negated : Bool) (ranges : List (Char × Char))
  | start
  | stop
  | seq (first second : Regex)
  | alt (first second : Regex)
  | repeated (body : Regex) (min : Nat) (max : Option Nat)
deriving DecidableEq

section Parsing

def isAlphanumeric (char : Char) : Bool :=
  char.isAlpha || char.isDigit

/-- A number, and what follows it. -/
def number (chars : List Char) : Option (Nat × List Char) :=
  let digits := chars.takeWhile Char.isDigit
  if digits.isEmpty then none
  else some (digits.foldl (fun n digit => 10 * n + (digit.toNat - 48)) 0,
    chars.dropWhile Char.isDigit)

/-- What follows a brace, if it makes a quantifier of it: `n}`, `n,}` or `n,m}`. -/
def bounds (chars : List Char) : Option ((Nat × Option Nat) × List Char) := do
  let (min, rest) ← number chars
  match rest with
  | '\x7d' :: rest => some ((min, some min), rest)
  | ',' :: '\x7d' :: rest => some ((min, none), rest)
  | ',' :: rest =>
      let (max, rest) ← number rest
      match rest with
      | '\x7d' :: rest => some ((min, some max), rest)
      | _ => none
  | _ => none

/-- A quantifier, and what follows it. -/
def quantifier (chars : List Char) : Option ((Nat × Option Nat) × List Char) :=
  match chars with
  | [] => none
  | char :: rest =>
      if char = '*' then some ((0, none), rest)
      else if char = '+' then some ((1, none), rest)
      else if char = '?' then some ((0, some 1), rest)
      else if char = '\x7b' then bounds rest
      else none

/-- What is made of an item by the quantifier that may follow it. -/
def quantified (item : Regex) (chars : List Char) : Option (Regex × List Char) :=
  match quantifier chars with
  | none => some (item, chars)
  | some ((min, max), rest) =>
      if max.any (· < min) then none
      else match rest with
        | '+' :: _ => none
        | '?' :: rest => some (.repeated item min max, rest)
        | rest => some (.repeated item min max, rest)

/-- A character of a class. -/
def classChar (chars : List Char) : Option (Char × List Char) :=
  match chars with
  | '\\' :: char :: rest => if isAlphanumeric char then none else some (char, rest)
  | '\\' :: [] => none
  | '[' :: ':' :: _ => none
  | char :: rest => some (char, rest)
  | [] => none

/-- The characters and ranges of a class up to its bracket. A bracket in the first place
is a character. -/
def classRanges : Nat → (first : Bool) → List Char → Option (List (Char × Char) × List Char)
  | 0, _, _ => none
  | fuel + 1, first, chars =>
      if !first && chars.head? = some ']' then some ([], chars.tail)
      else do
        let (low, rest) ← classChar chars
        match rest with
        | '-' :: ']' :: rest => some ([(low, low), ('-', '-')], rest)
        | '-' :: rest =>
            let (high, rest) ← classChar rest
            if high < low then none
            else
              let (ranges, rest) ← classRanges fuel false rest
              some ((low, high) :: ranges, rest)
        | rest =>
            let (ranges, rest) ← classRanges fuel false rest
            some ((low, low) :: ranges, rest)

def characterClass (fuel : Nat) (chars : List Char) : Option (Regex × List Char) :=
  match chars with
  | '^' :: rest => (classRanges fuel true rest).map fun (ranges, rest) => (.set true ranges, rest)
  | _ => (classRanges fuel true chars).map fun (ranges, rest) => (.set false ranges, rest)

def escaped (chars : List Char) : Option (Regex × List Char) :=
  match chars with
  | [] => none
  | char :: rest => if isAlphanumeric char then none else some (.literal char, rest)

mutual

def alternatives : Nat → List Char → Option (Regex × List Char)
  | 0, _ => none
  | fuel + 1, chars => do
      let (first, rest) ← branch fuel chars
      match rest with
      | '|' :: rest =>
          let (second, rest) ← alternatives fuel rest
          some (.alt first second, rest)
      | rest => some (first, rest)

def branch : Nat → List Char → Option (Regex × List Char)
  | 0, _ => none
  | fuel + 1, chars =>
      if chars.head?.all fun char => char = '|' || char = ')' then some (.empty, chars)
      else do
        let (item, rest) ← atom fuel chars
        let (first, rest) ← quantified item rest
        let (second, rest) ← branch fuel rest
        some (.seq first second, rest)

def atom : Nat → List Char → Option (Regex × List Char)
  | 0, _ => none
  | _, [] => none
  | fuel + 1, char :: rest =>
      if char = '\\' then escaped rest
      else if char = '.' then some (.any, rest)
      else if char = '^' then some (.start, rest)
      else if char = '$' then some (.stop, rest)
      else if char = '[' then characterClass fuel rest
      else if char = '(' then
        if rest.head? = some '?' || rest.head? = some '*' then none
        else do
          let (body, rest) ← alternatives fuel rest
          match rest with
          | ')' :: rest => some (body, rest)
          | _ => none
      else if (quantifier (char :: rest)).isSome then none
      else some (.literal char, rest)

end

/-- A whole pattern. No character of it takes more than three calls. -/
def parse (pattern : List Char) : Option Regex :=
  match alternatives (3 * pattern.length + 3) pattern with
  | some (regex, []) => some regex
  | _ => none

end Parsing

section Matching

/-- A position in a text: what is before it, last character first, and what comes after. -/
abbrev Position : Type :=
  List Char × List Char

/-- After one character that is accepted. -/
def advance (accepts : Char → Bool) : Position → List Position
  | (before, char :: after) => if accepts char then [(char :: before, after)] else []
  | (_, []) => []

variable [CaseTable]

def SameCase (char other : Char) : Prop :=
  other ∈ CaseTable.variants char

instance (char other : Char) : Decidable (SameCase char other) :=
  inferInstanceAs (Decidable (_ ∈ _))

/-- Where the matches from a position end. -/
def ends : Regex → Position → List Position
  | .empty, position => [position]
  | .literal char, position => advance (fun other => SameCase char other) position
  | .any, position => advance (· ≠ '\n') position
  | .set negated ranges, position =>
      advance (fun char => (CaseTable.variants char).any (fun other =>
        ranges.any fun (low, high) => low ≤ other && other ≤ high) != negated) position
  | .start, position => if position.1 = [] then [position] else []
  | .stop, position => if position.2 = [] ∨ position.2 = ['\n'] then [position] else []
  | .seq first second, position => (ends first position).flatMap (ends second)
  | .alt first second, position => ends first position ++ ends second position
  | .repeated body min max, position =>
      -- a further round that consumes nothing would not lead anywhere new
      let times := (fun positions : List Position => positions.flatMap (ends body))
      (List.range ((max.map (· - min)).getD position.2.length + 1)).flatMap fun more =>
        Nat.iterate times (min + more) [position]

/-- There is a match somewhere in the text. -/
def Regex.search (regex : Regex) (text : List Char) : Bool :=
  (List.range (text.length + 1)).any fun i =>
    !(ends regex ((text.take i).reverse, text.drop i)).isEmpty

/-- The text holds the needle but for case. -/
def Contains (needle text : List Char) : Prop :=
  ∃ before middle after, text = before ++ middle ++ after ∧ List.Forall₂ SameCase needle middle

end Matching

section Literals

def metacharacters : List Char :=
  ['\\', '^', '$', '.', '[', '|', '(', ')', '?', '*', '+', '\x7b']

/-- A pattern in which every character stands for itself: the metacharacters are escaped. -/
inductive Quotes : List Char → List Char → Prop where
  | nil : Quotes [] []
  | plain {char : Char} {pattern needle : List Char} (h : char ∉ metacharacters)
      (rest : Quotes pattern needle) : Quotes (char :: pattern) (char :: needle)
  | escape {char : Char} {pattern needle : List Char} (h : isAlphanumeric char = false)
      (rest : Quotes pattern needle) : Quotes ('\\' :: char :: pattern) (char :: needle)

def literals (needle : List Char) : Regex :=
  needle.foldr (fun char regex => .seq (.literal char) regex) .empty

variable {pattern needle : List Char}

theorem Quotes.length_le (h : Quotes pattern needle) : needle.length ≤ pattern.length := by
  induction h with
  | nil => exact Nat.le_refl _
  | plain _ _ ih => exact Nat.succ_le_succ ih
  | escape _ _ ih => exact Nat.succ_le_succ (Nat.le_succ_of_le ih)

theorem not_metacharacter {char : Char} (h : char ∉ metacharacters) :
    char ≠ '\\' ∧ char ≠ '^' ∧ char ≠ '$' ∧ char ≠ '.' ∧ char ≠ '[' ∧ char ≠ '|' ∧
      char ≠ '(' ∧ char ≠ ')' ∧ char ≠ '?' ∧ char ≠ '*' ∧ char ≠ '+' ∧ char ≠ '\x7b' := by
  simpa only [metacharacters, List.mem_cons, List.not_mem_nil, or_false, not_or] using h

/-- No quantifier begins where a character stands for itself. -/
theorem Quotes.quantifier_eq_none (h : Quotes pattern needle) : quantifier pattern = none := by
  cases h with
  | nil => rfl
  | plain h _ =>
      obtain ⟨-, -, -, -, -, -, -, -, hQuestion, hStar, hPlus, hBrace⟩ := not_metacharacter h
      simp only [quantifier, hQuestion, hStar, hPlus, hBrace, if_false]
  | escape _ _ => simp [quantifier]

theorem Quotes.quantified_eq (h : Quotes pattern needle) (item : Regex) :
    quantified item pattern = some (item, pattern) := by
  simp only [quantified, h.quantifier_eq_none]

theorem atom_plain {char : Char} (h : char ∉ metacharacters) (fuel : Nat) (rest : List Char) :
    atom (fuel + 1) (char :: rest) = some (.literal char, rest) := by
  obtain ⟨hEscape, hStart, hStop, hAny, hSet, -, hGroup, -, hQuestion, hStar, hPlus, hBrace⟩ :=
    not_metacharacter h
  have hItem : quantifier (char :: rest) = none := by
    simp only [quantifier, hQuestion, hStar, hPlus, hBrace, if_false]
  simp only [atom, hEscape, hStart, hStop, hAny, hSet, hGroup, hItem, if_false,
    Option.isSome_none, Bool.false_eq_true]

theorem atom_escape {char : Char} (h : isAlphanumeric char = false) (fuel : Nat)
    (rest : List Char) : atom (fuel + 1) ('\\' :: char :: rest) = some (.literal char, rest) := by
  simp only [atom, escaped, h, if_true, Bool.false_eq_true, if_false]

theorem Quotes.branch_eq (h : Quotes pattern needle) {fuel : Nat}
    (hFuel : needle.length < fuel) : branch fuel pattern = some (literals needle, []) := by
  induction h generalizing fuel with
  | nil =>
      obtain ⟨fuel, rfl⟩ := Nat.exists_eq_add_one_of_ne_zero (Nat.ne_zero_of_lt hFuel)
      rw [branch]
      rfl
  | @plain char pattern needle h rest ih =>
      obtain ⟨fuel, rfl⟩ := Nat.exists_eq_add_one_of_ne_zero (Nat.ne_zero_of_lt hFuel)
      obtain ⟨fuel, rfl⟩ := Nat.exists_eq_add_one_of_ne_zero
        (Nat.ne_zero_of_lt (Nat.lt_of_succ_lt_succ hFuel))
      obtain ⟨-, -, -, -, -, hBar, -, hClose, -⟩ := not_metacharacter h
      rw [branch, if_neg (by simp [hBar, hClose]), atom_plain h]
      simp only [Option.bind_eq_bind, Option.bind_some, rest.quantified_eq,
        ih (Nat.lt_of_succ_lt_succ hFuel)]
      rfl
  | @escape char pattern needle h rest ih =>
      obtain ⟨fuel, rfl⟩ := Nat.exists_eq_add_one_of_ne_zero (Nat.ne_zero_of_lt hFuel)
      obtain ⟨fuel, rfl⟩ := Nat.exists_eq_add_one_of_ne_zero
        (Nat.ne_zero_of_lt (Nat.lt_of_succ_lt_succ hFuel))
      rw [branch, if_neg (by simp), atom_escape h]
      simp only [Option.bind_eq_bind, Option.bind_some, rest.quantified_eq,
        ih (Nat.lt_of_succ_lt_succ hFuel)]
      rfl

/-- Such a pattern is the sequence of its characters. -/
theorem Quotes.parse_eq (h : Quotes pattern needle) : parse pattern = some (literals needle) := by
  have hFuel : needle.length < 3 * pattern.length + 2 := by
    have hLength := h.length_le
    omega
  rw [parse, alternatives, h.branch_eq hFuel]
  rfl

variable [CaseTable]

theorem ends_literals (needle before after : List Char) :
    ends (literals needle) (before, after) ≠ [] ↔
      ∃ middle rest, after = middle ++ rest ∧ List.Forall₂ SameCase needle middle := by
  induction needle generalizing before after with
  | nil => exact ⟨fun _ => ⟨[], after, rfl, .nil⟩, fun _ => List.cons_ne_nil _ _⟩
  | cons char needle ih =>
      have hSeq : ends (literals (char :: needle)) (before, after) =
          (advance (fun other => SameCase char other) (before, after)).flatMap
            (ends (literals needle)) := rfl
      rw [hSeq]
      cases after with
      | nil =>
          refine ⟨fun h => absurd rfl h, ?_⟩
          rintro ⟨middle, rest, hText, hSame⟩
          cases hSame with
          | cons _ _ => cases hText
      | cons other after =>
          by_cases hOther : SameCase char other
          · have hStep : advance (fun other => SameCase char other) (before, other :: after) =
                [(other :: before, after)] := if_pos (decide_eq_true hOther)
            rw [hStep, List.flatMap_singleton, ih]
            constructor
            · rintro ⟨middle, rest, rfl, hSame⟩
              exact ⟨other :: middle, rest, rfl, .cons hOther hSame⟩
            · rintro ⟨middle, rest, hText, hSame⟩
              cases hSame with
              | cons _ hRest =>
                  obtain ⟨rfl, rfl⟩ := List.cons.inj hText
                  exact ⟨_, rest, rfl, hRest⟩
          · have hStep : advance (fun other => SameCase char other) (before, other :: after) = [] :=
              if_neg (by simpa using hOther)
            rw [hStep]
            refine ⟨fun h => absurd rfl h, ?_⟩
            rintro ⟨middle, rest, hText, hSame⟩
            cases hSame with
            | cons hFirst _ =>
                obtain ⟨rfl, -⟩ := List.cons.inj hText
                exact absurd hFirst hOther

/-- The sequence of its characters finds the needle anywhere in a text. -/
theorem search_literals (needle text : List Char) :
    (literals needle).search text = true ↔ Contains needle text := by
  have hAt (i : Nat) : (!(ends (literals needle) ((text.take i).reverse, text.drop i)).isEmpty) =
      true ↔ ∃ middle rest, text.drop i = middle ++ rest ∧ List.Forall₂ SameCase needle middle := by
    rw [Bool.not_eq_true', ← Bool.not_eq_true, List.isEmpty_iff]
    exact ends_literals needle _ _
  simp only [Regex.search, List.any_eq_true, List.mem_range, hAt]
  constructor
  · rintro ⟨i, -, middle, rest, hText, hSame⟩
    refine ⟨text.take i, middle, rest, ?_, hSame⟩
    rw [List.append_assoc, ← hText, List.take_append_drop]
  · rintro ⟨before, middle, after, rfl, hSame⟩
    refine ⟨before.length, by simp only [List.length_append]; omega, middle, after, ?_, hSame⟩
    rw [List.append_assoc, List.drop_left]

end Literals

end Pcre
