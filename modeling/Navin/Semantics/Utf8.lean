import Mathlib.Algebra.GroupWithZero.Nat
import Mathlib.Data.List.Basic
import Mathlib.Data.Nat.Basic

/-! UTF-8: the bytes of a text, and the text of bytes, where what is ill-formed is replaced
as decoders on the web replace it. -/
namespace Utf8

abbrev Byte := Fin 256

instance bytes_neZero : NeZero 256 := ⟨by decide⟩

/-- The bytes of one character, by its size. -/
def encodeChar (c : Char) : List Byte :=
  let n := c.toNat
  if n < 0x80 then [Fin.ofNat _ n]
  else if n < 0x800 then [Fin.ofNat _ (0xC0 + n / 64), Fin.ofNat _ (0x80 + n % 64)]
  else if n < 0x10000 then
    [Fin.ofNat _ (0xE0 + n / 4096), Fin.ofNat _ (0x80 + n / 64 % 64), Fin.ofNat _ (0x80 + n % 64)]
  else
    [Fin.ofNat _ (0xF0 + n / 262144), Fin.ofNat _ (0x80 + n / 4096 % 64),
      Fin.ofNat _ (0x80 + n / 64 % 64), Fin.ofNat _ (0x80 + n % 64)]

def encode (text : List Char) : List Byte :=
  text.flatMap encodeChar

/-- A character of which some bytes have been read: how many are missing, the bits that have
been read, and the range of the next byte. -/
structure Pending where
  missing : Nat
  bits : Nat
  lower : Nat
  upper : Nat
deriving DecidableEq

def replacement : Char := '\uFFFD'

/-- What a first byte is, or what it begins. -/
def lead (byte : Byte) : Char ⊕ Pending :=
  if byte.val < 0x80 then .inl (Char.ofNat byte.val)
  else if 0xC2 ≤ byte.val ∧ byte.val ≤ 0xDF then .inr ⟨1, byte.val % 32, 0x80, 0xBF⟩
  else if 0xE0 ≤ byte.val ∧ byte.val ≤ 0xEF then
    .inr ⟨2, byte.val % 16, if byte.val = 0xE0 then 0xA0 else 0x80,
      if byte.val = 0xED then 0x9F else 0xBF⟩
  else if 0xF0 ≤ byte.val ∧ byte.val ≤ 0xF4 then
    .inr ⟨3, byte.val % 8, if byte.val = 0xF0 then 0x90 else 0x80,
      if byte.val = 0xF4 then 0x8F else 0xBF⟩
  else .inl replacement

/-- A byte out of range ends the character before it, and is read as a first byte. -/
def decode : Option Pending → List Byte → List Char
  | none, [] => []
  | some _, [] => [replacement]
  | none, byte :: rest =>
      match lead byte with
      | .inl c => c :: decode none rest
      | .inr pending => decode (some pending) rest
  | some pending, byte :: rest =>
      if pending.lower ≤ byte.val ∧ byte.val ≤ pending.upper then
        let bits := 64 * pending.bits + byte.val % 64
        if pending.missing = 1 then Char.ofNat bits :: decode none rest
        else decode (some ⟨pending.missing - 1, bits, 0x80, 0xBF⟩) rest
      else
        match lead byte with
        | .inl c => replacement :: c :: decode none rest
        | .inr next => replacement :: decode (some next) rest

section RoundTrip

theorem lead_one {n : Nat} (h : n < 0x80) : lead (Fin.ofNat _ n) = .inl (Char.ofNat n) := by
  have hVal : (Fin.ofNat 256 n).val = n := Nat.mod_eq_of_lt (by omega)
  rw [lead, hVal, if_pos h]

theorem lead_two {n : Nat} (h : 2 ≤ n) (h' : n < 32) :
    lead (Fin.ofNat _ (0xC0 + n)) = .inr ⟨1, n, 0x80, 0xBF⟩ := by
  have hAll : ∀ n : Fin 32, 2 ≤ n.val →
      lead (Fin.ofNat _ (0xC0 + n.val)) = .inr ⟨1, n.val, 0x80, 0xBF⟩ := by decide
  exact hAll ⟨n, h'⟩ h

theorem lead_three {n : Nat} (h : n < 16) : lead (Fin.ofNat _ (0xE0 + n)) =
    .inr ⟨2, n, if n = 0 then 0xA0 else 0x80, if n = 13 then 0x9F else 0xBF⟩ := by
  have hAll : ∀ n : Fin 16, lead (Fin.ofNat _ (0xE0 + n.val)) =
      .inr ⟨2, n.val, if n.val = 0 then 0xA0 else 0x80, if n.val = 13 then 0x9F else 0xBF⟩ := by
    decide
  exact hAll ⟨n, h⟩

theorem lead_four {n : Nat} (h : n < 5) : lead (Fin.ofNat _ (0xF0 + n)) =
    .inr ⟨3, n, if n = 0 then 0x90 else 0x80, if n = 4 then 0x8F else 0xBF⟩ := by
  have hAll : ∀ n : Fin 5, lead (Fin.ofNat _ (0xF0 + n.val)) =
      .inr ⟨3, n.val, if n.val = 0 then 0x90 else 0x80, if n.val = 4 then 0x8F else 0xBF⟩ := by
    decide
  exact hAll ⟨n, h⟩

/-- A byte in range goes on, or completes the character. -/
theorem decode_next {missing bits lower upper n : Nat} (hByte : n < 64)
    (hRange : lower ≤ 0x80 + n ∧ 0x80 + n ≤ upper) (rest : List Byte) :
    decode (some ⟨missing, bits, lower, upper⟩) (Fin.ofNat _ (0x80 + n) :: rest) =
      if missing = 1 then Char.ofNat (64 * bits + n) :: decode none rest
      else decode (some ⟨missing - 1, 64 * bits + n, 0x80, 0xBF⟩) rest := by
  have hVal : (Fin.ofNat 256 (0x80 + n)).val = 0x80 + n := Nat.mod_eq_of_lt (by omega)
  have hBits : (0x80 + n) % 64 = n := by omega
  rw [decode, hVal, if_pos hRange, hBits]

/-- The bytes of a character are read as that character, whatever follows. -/
theorem decode_encodeChar (c : Char) (rest : List Byte) :
    decode none (encodeChar c ++ rest) = c :: decode none rest := by
  have hValid : c.toNat < 0xD800 ∨ 0xDFFF < c.toNat ∧ c.toNat < 0x110000 := c.valid
  have hChar : Char.ofNat c.toNat = c := Char.ofNat_toNat c
  rw [encodeChar]
  generalize c.toNat = n at hValid hChar
  split_ifs with hOne hTwo hThree
  · rw [List.singleton_append, decode, lead_one hOne, hChar]
  · have hBits : 64 * (n / 64) + n % 64 = n := by omega
    simp only [List.cons_append, List.nil_append]
    rw [decode, lead_two (by omega) (by omega)]
    simp only
    rw [decode_next (by omega) (by omega), if_pos rfl, hBits, hChar]
  · have hBits : 64 * (64 * (n / 4096) + n / 64 % 64) + n % 64 = n := by omega
    simp only [List.cons_append, List.nil_append]
    rw [decode, lead_three (by omega)]
    simp only
    rw [decode_next (by omega) (by split_ifs <;> omega), if_neg (by decide),
      decode_next (by omega) (by omega), if_pos rfl, hBits, hChar]
  · have hBits : 64 * (64 * (64 * (n / 262144) + n / 4096 % 64) + n / 64 % 64) + n % 64 = n := by
      omega
    simp only [List.cons_append, List.nil_append]
    rw [decode, lead_four (by omega)]
    simp only
    rw [decode_next (by omega) (by split_ifs <;> omega), if_neg (by decide),
      decode_next (by omega) (by omega), if_neg (by decide), decode_next (by omega) (by omega),
      if_pos rfl, hBits, hChar]

theorem decode_encode (text : List Char) : decode none (encode text) = text := by
  induction text with
  | nil => rfl
  | cons c rest ih => rw [encode, List.flatMap_cons, decode_encodeChar, ← encode, ih]

end RoundTrip

end Utf8
