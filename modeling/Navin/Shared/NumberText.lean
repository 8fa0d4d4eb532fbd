import Mathlib.Algebra.Order.Field.Rat
import Mathlib.Data.List.TakeWhile
import Mathlib.Tactic.FieldSimp
import Mathlib.Tactic.Linarith
import Mathlib.Tactic.NormNum
import Mathlib.Tactic.Ring
import Navin.Shared.Json

/-! The text of a number denotes it: reading the decimal back gives its value, so
different numbers have different texts. -/
namespace Navin.JsNumber

/-- The number that a reduced decimal stands for. -/
def value (number : JsNumber) : ℚ :=
  number.significand * 10 ^ number.exponent

/-- Numbers compare as what they denote. -/
instance : LT JsNumber where
  lt first second := first.value < second.value

instance (first second : JsNumber) : Decidable (first < second) :=
  inferInstanceAs (Decidable (first.value < second.value))

theorem value_ne_of_exponent_lt {first second : JsNumber}
    (h : first.exponent < second.exponent) : first.value ≠ second.value := by
  intro hValue
  obtain ⟨gap, hGap⟩ : ∃ gap : Nat, second.exponent = first.exponent + (gap + 1) :=
    ⟨(second.exponent - first.exponent - 1).toNat, by omega⟩
  have hScaled : (first.significand : ℚ) = ((second.significand * 10 ^ (gap + 1) : Int) : ℚ) := by
    have hPower : (10 : ℚ) ^ second.exponent = 10 ^ first.exponent * 10 ^ (gap + 1) := by
      rw [hGap, zpow_add₀ (by norm_num)]
      norm_cast
    have hNonzero : (10 : ℚ) ^ first.exponent ≠ 0 := zpow_ne_zero _ (by norm_num)
    rw [value, value, hPower, mul_comm (10 ^ first.exponent), ← mul_assoc] at hValue
    push_cast
    exact mul_right_cancel₀ hNonzero hValue
  have hMultiple : first.significand = second.significand * 10 ^ (gap + 1) := by
    exact_mod_cast hScaled
  -- a multiple of ten is reduced only as zero, and then both are zero
  have hDivides : first.significand % 10 = 0 := by
    rw [hMultiple, pow_succ, ← mul_assoc]
    exact Int.mul_emod_left _ _
  rcases first.reduced with hFirst | ⟨hZero, hExponent⟩
  · exact hFirst hDivides
  · rcases second.reduced with hSecond | ⟨-, hSecond⟩
    · rw [hZero] at hMultiple
      have hNone : second.significand = 0 := by
        rcases mul_eq_zero.mp hMultiple.symm with hNone | hPower
        · exact hNone
        · exact absurd hPower (pow_ne_zero _ (by norm_num))
      rw [hNone] at hSecond
      exact hSecond rfl
    · omega

theorem value_injective : Function.Injective value := by
  intro first second hValue
  have hExponent : first.exponent = second.exponent := by
    rcases lt_trichotomy first.exponent second.exponent with hLess | hSame | hMore
    · exact absurd hValue (value_ne_of_exponent_lt hLess)
    · exact hSame
    · exact absurd hValue.symm (value_ne_of_exponent_lt hMore)
  have hSignificand : first.significand = second.significand := by
    rw [value, value, hExponent] at hValue
    exact_mod_cast mul_right_cancel₀ (zpow_ne_zero _ (by norm_num)) hValue
  cases first
  cases second
  simp_all

section Reader

/-- A run of digits, as a number. -/
def readDigits (digits : List Char) : ℚ :=
  Nat.ofDigitChars 10 digits 0

/-- Digits with at most one decimal point among them. -/
def readFixed (text : List Char) : ℚ :=
  let whole := text.takeWhile (· ≠ '.')
  let fraction := (text.dropWhile (· ≠ '.')).tail
  readDigits (whole ++ fraction) * 10 ^ (-fraction.length : Int)

/-- The power of ten after the `e`, if there is one. -/
def readScale : List Char → Int
  | '-' :: digits => -Nat.ofDigitChars 10 digits 0
  | '+' :: digits => Nat.ofDigitChars 10 digits 0
  | _ => 0

def readUnsigned (text : List Char) : ℚ :=
  readFixed (text.takeWhile (· ≠ 'e')) * 10 ^ readScale (text.dropWhile (· ≠ 'e')).tail

def read : List Char → ℚ
  | '-' :: text => -readUnsigned text
  | text => readUnsigned text

variable {whole fraction digits scale : List Char} {mark : Char}

private theorem takeWhile_ne_mark (h : mark ∉ whole) :
    (whole ++ mark :: fraction).takeWhile (· ≠ mark) = whole := by
  have hWhole : ∀ c ∈ whole, decide (c ≠ mark) = true :=
    fun c hc => decide_eq_true fun hMark => h (hMark ▸ hc)
  rw [List.takeWhile_append_of_pos hWhole, List.takeWhile_cons_of_neg (by simp), List.append_nil]

private theorem dropWhile_ne_mark (h : mark ∉ whole) :
    (whole ++ mark :: fraction).dropWhile (· ≠ mark) = mark :: fraction := by
  have hWhole : ∀ c ∈ whole, decide (c ≠ mark) = true :=
    fun c hc => decide_eq_true fun hMark => h (hMark ▸ hc)
  rw [List.dropWhile_append_of_pos hWhole, List.dropWhile_cons_of_neg (by simp)]

private theorem takeWhile_ne_of_notMem (h : mark ∉ whole) :
    whole.takeWhile (· ≠ mark) = whole :=
  List.takeWhile_eq_self_iff.mpr fun _ hc => decide_eq_true fun hMark => h (hMark ▸ hc)

private theorem dropWhile_ne_of_notMem (h : mark ∉ whole) :
    whole.dropWhile (· ≠ mark) = [] :=
  List.dropWhile_eq_nil_iff.mpr fun _ hc => decide_eq_true fun hMark => h (hMark ▸ hc)

theorem readFixed_whole (h : '.' ∉ whole) : readFixed whole = readDigits whole := by
  simp only [readFixed, takeWhile_ne_of_notMem h, dropWhile_ne_of_notMem h]
  simp

theorem readFixed_point (h : '.' ∉ whole) : readFixed (whole ++ '.' :: fraction) =
    readDigits (whole ++ fraction) * 10 ^ (-fraction.length : Int) := by
  simp only [readFixed, takeWhile_ne_mark h, dropWhile_ne_mark h, List.tail_cons]

theorem readUnsigned_plain (h : 'e' ∉ whole) : readUnsigned whole = readFixed whole := by
  simp only [readUnsigned, takeWhile_ne_of_notMem h, dropWhile_ne_of_notMem h]
  simp [readScale]

theorem readUnsigned_scaled (h : 'e' ∉ whole) :
    readUnsigned (whole ++ 'e' :: scale) = readFixed whole * 10 ^ readScale scale := by
  simp only [readUnsigned, takeWhile_ne_mark h, dropWhile_ne_mark h, List.tail_cons]

theorem readDigits_toDigits (n : Nat) : readDigits (Nat.toDigits 10 n) = n := by
  rw [readDigits, Nat.ofDigitChars_ten_toDigits]

theorem readDigits_zeros_append (count : Nat) :
    readDigits (List.replicate count '0' ++ digits) = readDigits digits := by
  rw [readDigits, Nat.ofDigitChars_append, Nat.ofDigitChars_replicate_zero, Nat.mul_zero]
  rfl

theorem readDigits_append_zeros (count : Nat) :
    readDigits (digits ++ List.replicate count '0') = readDigits digits * 10 ^ count := by
  rw [readDigits, Nat.ofDigitChars_append, Nat.ofDigitChars_replicate_zero, readDigits]
  push_cast
  exact mul_comm _ _

end Reader

section Shapes

variable {c : Char} {n : Nat}

theorem ne_of_mem_toDigits (h : c ∈ Nat.toDigits 10 n) : c ≠ '.' ∧ c ≠ 'e' ∧ c ≠ '-' := by
  have hDigit := Nat.isDigit_of_mem_toDigits (by decide) (by decide) h
  refine ⟨?_, ?_, ?_⟩ <;> rintro rfl <;> exact absurd hDigit (by decide)

/-- The ways to write the digits of a magnitude around a decimal point. -/
inductive Shape (digits : List Char) (exponent : Int) : List Char → Prop where
  | whole (zeros : Nat) (hExponent : exponent = zeros) :
      Shape digits exponent (digits ++ List.replicate zeros '0')
  | point (before after : List Char) (hDigits : before ++ after = digits)
      (hExponent : exponent = -after.length) : Shape digits exponent (before ++ '.' :: after)
  | small (zeros : Nat) (hExponent : exponent = -(zeros + digits.length : Nat)) :
      Shape digits exponent ('0' :: '.' :: (List.replicate zeros '0' ++ digits))
  | scientific (before after : List Char) (power : Int) (hDigits : before ++ after = digits)
      (hExponent : exponent = power - after.length) :
      Shape digits exponent (before ++ (if after.isEmpty then [] else '.' :: after) ++
        'e' :: (if 0 ≤ power then '+' else '-') :: Nat.toDigits 10 power.natAbs)

theorem toString_shape (number : JsNumber) : ∃ body,
    Shape (Nat.toDigits 10 number.significand.natAbs) number.exponent body ∧
    number.toString.toList = (if number.significand < 0 then ['-'] else []) ++ body := by
  have hDigits : (toString number.significand.natAbs).toList =
      Nat.toDigits 10 number.significand.natAbs := Nat.toList_repr
  have hPositive : 0 < (Nat.toDigits 10 number.significand.natAbs).length :=
    Nat.length_toDigits_pos
  have hSign : (if number.significand < 0 then "-" else "").toList =
      if number.significand < 0 then ['-'] else [] := by
    split_ifs <;> rfl
  simp only [JsNumber.toString, String.toList_append, hSign, ← String.length_toList]
  generalize toString number.significand.natAbs = text at hDigits ⊢
  rw [← hDigits] at hPositive ⊢
  generalize hPoint : number.exponent + (text.toList.length : Int) = point
  by_cases hWhole : (text.toList.length : Int) ≤ point ∧ point ≤ 21
  · refine ⟨_, .whole (point - text.toList.length).toNat (by omega), ?_⟩
    simp only [if_pos hWhole]
    simp
  by_cases hInside : 0 < point ∧ point ≤ 21
  · refine ⟨_, .point _ _ (List.take_append_drop point.toNat text.toList) ?_, ?_⟩
    · rw [List.length_drop]
      omega
    · simp only [if_neg hWhole, if_pos hInside]
      simp
  by_cases hSmall : -6 < point ∧ point ≤ 0
  · refine ⟨_, .small (-point).toNat (by omega), ?_⟩
    simp only [if_neg hWhole, if_neg hInside, if_pos hSmall]
    simp
  · refine ⟨_, .scientific _ _ (point - 1) (List.take_append_drop 1 text.toList) ?_, ?_⟩
    · rw [List.length_drop]
      omega
    · have hPower : (0 ≤ point - 1) = (0 < point) := propext (by omega)
      simp only [if_neg hWhole, if_neg hInside, if_neg hSmall, hPower]
      generalize text.toList.drop 1 = tail
      cases tail <;> split_ifs <;> simp_all

variable {exponent : Int} {body before after : List Char}

private theorem notMem_of_append (hDigits : before ++ after = Nat.toDigits 10 n) {mark : Char}
    (hMark : mark = '.' ∨ mark = 'e') : mark ∉ before ∧ mark ∉ after := by
  have hOthers : ∀ c ∈ before ++ after, c ≠ mark := by
    intro c hc
    rw [hDigits] at hc
    obtain ⟨hPoint, hScale, -⟩ := ne_of_mem_toDigits hc
    rcases hMark with rfl | rfl
    · exact hPoint
    · exact hScale
  exact ⟨fun h => hOthers mark (List.mem_append_left _ h) rfl,
    fun h => hOthers mark (List.mem_append_right _ h) rfl⟩

/-- Every shape is read back as the magnitude it was written for. -/
theorem Shape.readUnsigned_eq (hShape : Shape (Nat.toDigits 10 n) exponent body) :
    readUnsigned body = n * 10 ^ exponent := by
  have hTen : (10 : ℚ) ≠ 0 := by norm_num
  cases hShape with
  | whole zeros hExponent =>
      have hPlain : ∀ mark : Char, mark = '.' ∨ mark = 'e' →
          mark ∉ Nat.toDigits 10 n ++ List.replicate zeros '0' := by
        intro mark hMark hMem
        rcases List.mem_append.mp hMem with hDigit | hZero
        · exact (notMem_of_append (List.append_nil _) hMark).1 hDigit
        · obtain rfl := List.eq_of_mem_replicate hZero
          simp at hMark
      rw [readUnsigned_plain (hPlain _ (.inr rfl)), readFixed_whole (hPlain _ (.inl rfl)),
        readDigits_append_zeros, readDigits_toDigits, hExponent, zpow_natCast]
  | point before after hDigits hExponent =>
      have hScale := notMem_of_append hDigits (.inr rfl)
      rw [readUnsigned_plain (by simp [hScale]),
        readFixed_point (notMem_of_append hDigits (.inl rfl)).1, hDigits, readDigits_toDigits,
        hExponent]
  | small zeros hExponent =>
      have hScale := (notMem_of_append (List.append_nil (Nat.toDigits 10 n)) (.inr rfl)).1
      have hFixed := @readFixed_point ['0'] (List.replicate zeros '0' ++ Nat.toDigits 10 n)
        (by decide)
      rw [readUnsigned_plain (by simp [hScale])]
      rw [List.singleton_append] at hFixed
      rw [hFixed, ← List.append_assoc, ← List.replicate_one, List.replicate_append_replicate,
        readDigits_zeros_append, readDigits_toDigits, hExponent, List.length_append,
        List.length_replicate]
  | scientific before after power hDigits hExponent =>
      obtain ⟨hScale, hScale'⟩ := notMem_of_append hDigits (.inr rfl)
      have hMantissa : readFixed (before ++ if after.isEmpty then [] else '.' :: after) =
          n * 10 ^ (-after.length : Int) := by
        cases after with
        | nil =>
            rw [List.append_nil] at hDigits
            rw [List.isEmpty_nil, if_pos rfl, List.append_nil, hDigits, readFixed_whole,
              readDigits_toDigits]
            · simp
            · exact hDigits ▸ (notMem_of_append (List.append_nil _) (.inl rfl)).1
        | cons digit rest =>
            rw [List.isEmpty_cons, if_neg (by decide),
              readFixed_point (notMem_of_append hDigits (.inl rfl)).1, hDigits,
              readDigits_toDigits]
      have hPower : readScale ((if 0 ≤ power then '+' else '-') ::
          Nat.toDigits 10 power.natAbs) = power := by
        split_ifs with hSign <;> rw [readScale, Nat.ofDigitChars_ten_toDigits] <;> omega
      rw [readUnsigned_scaled, hMantissa, hPower, mul_assoc, ← zpow_add₀ hTen, hExponent]
      · ring_nf
      · cases after <;> simp_all

/-- Only these characters occur in the text of a number. -/
def isNumeric (c : Char) : Bool :=
  c.isDigit || c == '.' || c == 'e' || c == '+' || c == '-'

theorem isNumeric_of_mem_toDigits (h : c ∈ Nat.toDigits 10 n) : isNumeric c = true := by
  rw [isNumeric, Nat.isDigit_of_mem_toDigits (by decide) (by decide) h]
  rfl

theorem Shape.isNumeric_of_mem (hShape : Shape (Nat.toDigits 10 n) exponent body) :
    ∀ c ∈ body, isNumeric c = true := by
  have hPart : ∀ before after : List Char, before ++ after = Nat.toDigits 10 n →
      (∀ c ∈ before, isNumeric c = true) ∧ ∀ c ∈ after, isNumeric c = true := by
    intro before after hDigits
    exact ⟨fun c hc => isNumeric_of_mem_toDigits (hDigits ▸ List.mem_append_left _ hc),
      fun c hc => isNumeric_of_mem_toDigits (hDigits ▸ List.mem_append_right _ hc)⟩
  have hZero : isNumeric '0' = true := by decide
  intro c hc
  cases hShape with
  | whole zeros =>
      rcases List.mem_append.mp hc with hDigit | hZeros
      · exact isNumeric_of_mem_toDigits hDigit
      · rw [List.eq_of_mem_replicate hZeros, hZero]
  | point before after hDigits =>
      rcases List.mem_append.mp hc with hBefore | hAfter
      · exact (hPart before after hDigits).1 c hBefore
      · rcases List.mem_cons.mp hAfter with rfl | hAfter
        · decide
        · exact (hPart before after hDigits).2 c hAfter
  | small zeros =>
      simp only [List.mem_cons, List.mem_append] at hc
      rcases hc with rfl | rfl | hZeros | hDigit
      · exact hZero
      · decide
      · rw [List.eq_of_mem_replicate hZeros, hZero]
      · exact isNumeric_of_mem_toDigits hDigit
  | scientific before after power hDigits =>
      simp only [List.mem_cons, List.mem_append] at hc
      rcases hc with (hBefore | hAfter) | rfl | rfl | hDigit
      · exact (hPart before after hDigits).1 c hBefore
      · split_ifs at hAfter
        · cases hAfter
        · rcases List.mem_cons.mp hAfter with rfl | hAfter
          · decide
          · exact (hPart before after hDigits).2 c hAfter
      · decide
      · split_ifs <;> decide
      · exact isNumeric_of_mem_toDigits hDigit

theorem Shape.head_ne (hShape : Shape (Nat.toDigits 10 n) exponent body) :
    ∀ rest, body ≠ '-' :: rest := by
  rintro rest rfl
  have hDigit : '-' ∉ Nat.toDigits 10 n := fun h => (ne_of_mem_toDigits h).2.2 rfl
  generalize hBody : '-' :: rest = text at hShape
  cases hShape with
  | whole zeros =>
      have hMem : '-' ∈ Nat.toDigits 10 n ++ List.replicate zeros '0' :=
        hBody ▸ List.mem_cons_self
      rcases List.mem_append.mp hMem with hMem | hMem
      · exact hDigit hMem
      · exact absurd (List.eq_of_mem_replicate hMem) (by decide)
  | point before after hDigits =>
      cases before with
      | nil => cases hBody
      | cons c before =>
          rw [← hDigits] at hDigit
          exact hDigit ((List.cons.inj hBody).1 ▸ List.mem_cons_self)
  | small zeros => cases hBody
  | scientific before after power hDigits =>
      cases before with
      | nil => cases after <;> cases hBody
      | cons c before =>
          rw [← hDigits] at hDigit
          exact hDigit ((List.cons.inj hBody).1 ▸ List.mem_cons_self)

theorem read_toString (number : JsNumber) : read number.toString.toList = number.value := by
  obtain ⟨body, hShape, hText⟩ := toString_shape number
  have hRead := hShape.readUnsigned_eq
  rw [hText, value]
  split_ifs with hSign
  · rw [List.singleton_append, read, hRead]
    have hMagnitude : ((number.significand.natAbs : Int) : ℚ) = -number.significand := by
      rw [Int.ofNat_natAbs_of_nonpos (le_of_lt hSign), Int.cast_neg]
    rw [Int.cast_natCast] at hMagnitude
    rw [hMagnitude]
    ring
  · have hPlain : read body = readUnsigned body := by
      unfold read
      split
      · exact absurd rfl (hShape.head_ne _)
      · rfl
    rw [List.nil_append, hPlain, hRead]
    have hMagnitude : ((number.significand.natAbs : Int) : ℚ) = number.significand := by
      rw [Int.natAbs_of_nonneg (by omega)]
    rw [Int.cast_natCast] at hMagnitude
    rw [hMagnitude]

theorem toString_ne_nil (number : JsNumber) : number.toString.toList ≠ [] := by
  obtain ⟨body, hShape, hText⟩ := toString_shape number
  have hBody : body ≠ [] := by
    cases hShape with
    | whole zeros =>
        have hDigits : Nat.toDigits 10 number.significand.natAbs ≠ [] :=
          List.ne_nil_of_length_pos Nat.length_toDigits_pos
        exact List.append_ne_nil_of_left_ne_nil hDigits _
    | point before after => exact List.append_ne_nil_of_right_ne_nil _ (List.cons_ne_nil _ _)
    | small zeros => exact List.cons_ne_nil _ _
    | scientific before after power =>
        exact List.append_ne_nil_of_right_ne_nil _ (List.cons_ne_nil _ _)
  rw [hText]
  exact List.append_ne_nil_of_right_ne_nil _ hBody

theorem toString_injective : Function.Injective JsNumber.toString := by
  intro first second hText
  apply value_injective
  rw [← read_toString, ← read_toString, hText]

theorem isNumeric_of_mem_toString (number : JsNumber) :
    ∀ c ∈ number.toString.toList, isNumeric c = true := by
  obtain ⟨body, hShape, hText⟩ := toString_shape number
  intro c hc
  rw [hText] at hc
  rcases List.mem_append.mp hc with hSign | hBody
  · split_ifs at hSign
    · rw [List.mem_singleton.mp hSign]
      decide
    · cases hSign
  · exact hShape.isNumeric_of_mem c hBody

end Shapes

end Navin.JsNumber
