import Navin.Semantics.Utf8
import Navin.Shared.Domain
import Navin.Shared.JsString

/-! How a TOTP secret is stored: encrypted, as three fields in hex. Reading the hex is
lenient, so that more is accepted than is ever written. -/
namespace Navin.TwoFactor

open Utf8 (Byte)

section Hex

/-- The value of a hexadecimal digit of either case. -/
def hexValue (unit : CodeUnit) : Option (Fin 16) :=
  if 0x30 ≤ unit.val ∧ unit.val ≤ 0x39 then some (Fin.ofNat _ (unit.val - 0x30))
  else if 0x41 ≤ unit.val ∧ unit.val ≤ 0x46 then some (Fin.ofNat _ (unit.val - 0x37))
  else if 0x61 ≤ unit.val ∧ unit.val ≤ 0x66 then some (Fin.ofNat _ (unit.val - 0x57))
  else none

/-- `Buffer.from(text, 'hex')`. It stops at the first pair that is not hex, and a last
digit without another is left out. -/
def bufferFromHex : JsString → List Byte
  | high :: low :: rest =>
      match hexValue high, hexValue low with
      | some high, some low => Fin.ofNat _ (16 * high.val + low.val) :: bufferFromHex rest
      | _, _ => []
  | _ => []

/-- `buffer.toString('hex')`. -/
def bufferToHex (bytes : List Byte) : JsString :=
  bytes.flatMap fun byte =>
    [CodeUnit.hexDigit (Fin.ofNat _ (byte.val / 16)), CodeUnit.hexDigit (Fin.ofNat _ byte.val)]

def IsHexDigit (unit : CodeUnit) : Prop :=
  (hexValue unit).isSome = true
deriving Decidable

/-- A text of hexadecimal digits. -/
def IsHex (text : JsString) : Prop :=
  ∀ unit ∈ text, IsHexDigit unit

instance (text : JsString) : Decidable (IsHex text) :=
  inferInstanceAs (Decidable (∀ unit ∈ text, IsHexDigit unit))

def BeginsWithPair (text : JsString) : Prop :=
  ∃ high low rest, text = high :: low :: rest ∧ IsHexDigit high ∧ IsHexDigit low

/-- The text begins with so many pairs of digits, and no further pair comes next. -/
def HexPairs (pairs : Nat) (text : JsString) : Prop :=
  ∃ digits rest, text = digits ++ rest ∧ digits.length = 2 * pairs ∧ IsHex digits ∧
    ¬BeginsWithPair rest

theorem hexValue_hexDigit : ∀ digit, hexValue (CodeUnit.hexDigit digit) = some digit := by
  decide

theorem hexDigit_ne_colon : ∀ digit, CodeUnit.hexDigit digit ≠ CodeUnit.colon := by
  decide

theorem bufferFromHex_bufferToHex (bytes : List Byte) :
    bufferFromHex (bufferToHex bytes) = bytes := by
  induction bytes with
  | nil => rfl
  | cons byte rest ih =>
      have hByte : (Fin.ofNat 256 (16 * (Fin.ofNat 16 (byte.val / 16)).val +
          (Fin.ofNat 16 byte.val).val) : Byte) = byte := by
        apply Fin.ext
        have hSmall := byte.isLt
        simp only [Fin.val_ofNat]
        omega
      rw [bufferToHex, List.flatMap_cons, ← bufferToHex, List.cons_append, List.cons_append,
        List.nil_append, bufferFromHex, hexValue_hexDigit, hexValue_hexDigit]
      simp only [hByte, ih]

theorem colon_not_mem_bufferToHex (bytes : List Byte) : CodeUnit.colon ∉ bufferToHex bytes := by
  intro hMem
  obtain ⟨byte, -, hUnit⟩ := List.mem_flatMap.mp hMem
  rcases List.mem_pair.mp hUnit with h | h
  · exact hexDigit_ne_colon _ h.symm
  · exact hexDigit_ne_colon _ h.symm

theorem isHex_bufferToHex (bytes : List Byte) : IsHex (bufferToHex bytes) := by
  intro unit hUnit
  obtain ⟨byte, -, hDigit⟩ := List.mem_flatMap.mp hUnit
  rcases List.mem_pair.mp hDigit with rfl | rfl <;> rw [IsHexDigit, hexValue_hexDigit] <;> rfl

theorem length_bufferToHex (bytes : List Byte) :
    (bufferToHex bytes).length = 2 * bytes.length := by
  induction bytes with
  | nil => rfl
  | cons byte rest ih =>
      rw [bufferToHex, List.flatMap_cons, ← bufferToHex, List.length_append, ih]
      simp only [List.length_cons, List.length_nil]
      omega

theorem hexPairs_of_not_pair {text : JsString} (h : ¬BeginsWithPair text) (pairs : Nat) :
    HexPairs pairs text ↔ pairs = 0 := by
  constructor
  · rintro ⟨digits, rest, rfl, hLength, hDigits, -⟩
    match digits, hLength with
    | [], hLength => exact (Nat.mul_eq_zero.mp hLength.symm).resolve_left (by decide)
    | [_], hLength =>
        simp only [List.length_singleton] at hLength
        omega
    | high :: low :: digits, _ =>
        exact (h ⟨high, low, digits ++ rest, rfl, hDigits high (by simp), hDigits low (by simp)⟩).elim
  · rintro rfl
    exact ⟨[], text, rfl, rfl, nofun, h⟩

theorem hexPairs_cons {high low : CodeUnit} (hHigh : IsHexDigit high) (hLow : IsHexDigit low)
    (rest : JsString) (pairs : Nat) :
    HexPairs pairs (high :: low :: rest) ↔ ∃ more, pairs = more + 1 ∧ HexPairs more rest := by
  constructor
  · rintro ⟨digits, tail, hText, hLength, hDigits, hTail⟩
    match digits, hLength with
    | [], _ => exact (hTail ⟨high, low, rest, hText.symm, hHigh, hLow⟩).elim
    | [_], hLength =>
        simp only [List.length_singleton] at hLength
        omega
    | _ :: _ :: digits, hLength =>
        obtain ⟨rfl, rfl, rfl⟩ : high = _ ∧ low = _ ∧ rest = digits ++ tail := by
          simpa using hText
        simp only [List.length_cons] at hLength
        refine ⟨pairs - 1, by omega, digits, tail, rfl, by omega, ?_, hTail⟩
        exact fun unit hUnit => hDigits unit (List.mem_cons_of_mem _ (List.mem_cons_of_mem _ hUnit))
  · rintro ⟨more, rfl, digits, tail, rfl, hLength, hDigits, hTail⟩
    refine ⟨high :: low :: digits, tail, rfl, ?_, ?_, hTail⟩
    · simp only [List.length_cons]
      omega
    · exact List.forall_mem_cons.mpr ⟨hHigh, List.forall_mem_cons.mpr ⟨hLow, hDigits⟩⟩

/-- What is read is as long as the run of pairs at the beginning. -/
theorem length_bufferFromHex (text : JsString) (pairs : Nat) :
    (bufferFromHex text).length = pairs ↔ HexPairs pairs text := by
  fun_induction bufferFromHex text generalizing pairs with
  | case1 high low rest highValue lowValue hHigh hLow ih =>
      have hPair : IsHexDigit high ∧ IsHexDigit low := by simp [IsHexDigit, hHigh, hLow]
      rw [hexPairs_cons hPair.1 hPair.2, List.length_cons]
      constructor
      · rintro rfl
        exact ⟨_, rfl, (ih _).mp rfl⟩
      · rintro ⟨more, rfl, hMore⟩
        rw [(ih more).mpr hMore]
  | case2 high low rest hOther =>
      have hPair : ¬BeginsWithPair (high :: low :: rest) := by
        rintro ⟨_, _, _, hText, hHigh, hLow⟩
        cases hText
        obtain ⟨highValue, hHigh⟩ := Option.isSome_iff_exists.mp hHigh
        obtain ⟨lowValue, hLow⟩ := Option.isSome_iff_exists.mp hLow
        exact hOther _ _ hHigh hLow
      rw [hexPairs_of_not_pair hPair, List.length_nil, eq_comm]
  | case3 text hShort =>
      have hPair : ¬BeginsWithPair text := by
        rintro ⟨high, low, rest, hText, -⟩
        exact hShort high low rest hText
      rw [hexPairs_of_not_pair hPair, List.length_nil, eq_comm]

end Hex

section Codec

def ivBytes : Nat := 12

def tagBytes : Nat := 16

abbrev Key : Type :=
  { bytes : List Byte // bytes.length = 32 }

abbrev Iv : Type :=
  { bytes : List Byte // bytes.length = ivBytes }

/-- AES-256-GCM: a ciphertext with its tag, and the plaintext of these, unless the tag does
not authenticate it. -/
class Aes256Gcm where
  encrypt : Key → List Byte → List Byte → List Byte × List Byte
  decrypt : Key → List Byte → (ciphertext tag : List Byte) → Option (List Byte)

/-- `createHash('sha256').update(text).digest()`. -/
class Sha256Bytes where
  digest : String → Key

/-- The environment has been validated: a configured key is 64 hexadecimal digits. -/
structure TotpEnv where
  encryptionKey : Option { text : JsString // IsHex text ∧ text.length = 64 }
  jwtSecret : String

theorem length_key {text : JsString} (h : IsHex text ∧ text.length = 64) :
    (bufferFromHex text).length = 32 :=
  (length_bufferFromHex text 32).mpr ⟨text, [], (List.append_nil _).symm, h.2, h.1, nofun⟩

variable [Aes256Gcm] [Sha256Bytes]

def getEncryptionKey (env : TotpEnv) : Key :=
  match env.encryptionKey with
  | some text => ⟨bufferFromHex text.val, length_key text.property⟩
  | none => Sha256Bytes.digest env.jwtSecret

/-- What `decryptSecret` throws: the error of the application, or the one of the cipher. -/
inductive DecryptError where
  | app (error : AppError)
  | unauthenticated
deriving DecidableEq

def invalidSecretFormat : DecryptError :=
  .app ⟨500, "Invalid encrypted secret format", "ERR_AUTH_2FA_INVALID_SECRET_FORMAT", []⟩

/-- The initialisation vector is random. -/
def encryptSecret (env : TotpEnv) (iv : Iv) (plaintext : String) : JsString :=
  let (encrypted, tag) := Aes256Gcm.encrypt (getEncryptionKey env) iv.val
    (Utf8.encode plaintext.toList)
  List.intercalate [CodeUnit.colon] [bufferToHex iv.val, bufferToHex tag, bufferToHex encrypted]

def decryptSecret (env : TotpEnv) (payload : JsString) : Except DecryptError JsString :=
  match payload.splitOn CodeUnit.colon with
  | [ivHex, tagHex, ctHex] =>
      let iv := bufferFromHex ivHex
      let tag := bufferFromHex tagHex
      if iv.length = ivBytes ∧ tag.length = tagBytes then
        match Aes256Gcm.decrypt (getEncryptionKey env) iv (bufferFromHex ctHex) tag with
        | some plaintext => .ok (utf16 (String.ofList (Utf8.decode none plaintext)))
        | none => .error .unauthenticated
      else .error invalidSecretFormat
  | _ => .error invalidSecretFormat

end Codec

section Accepted

/-- A payload as it is written: three fields in hex, of the right sizes. -/
def IsPayload (payload : JsString) : Prop :=
  ∃ ivHex tagHex ctHex, payload.splitOn CodeUnit.colon = [ivHex, tagHex, ctHex] ∧
    (IsHex ivHex ∧ ivHex.length = 24) ∧ (IsHex tagHex ∧ tagHex.length = 32) ∧
      IsHex ctHex ∧ ctHex.length % 2 = 0

/-- A payload as it is accepted: three fields, the first two of which begin with exactly so
many pairs of digits as there are bytes in a vector and in a tag. -/
def BeginsAsPayload (payload : JsString) : Prop :=
  ∃ ivHex tagHex ctHex, payload.splitOn CodeUnit.colon = [ivHex, tagHex, ctHex] ∧
    HexPairs ivBytes ivHex ∧ HexPairs tagBytes tagHex

variable [Aes256Gcm] [Sha256Bytes]

/-- Decryption inverts encryption and rejects everything else. -/
def DecryptInverts : Prop :=
  ∀ (key : Key) (iv plaintext ciphertext tag : List Byte),
    Aes256Gcm.decrypt key iv ciphertext tag = some plaintext ↔
      Aes256Gcm.encrypt key iv plaintext = (ciphertext, tag)

def TagsSized : Prop :=
  ∀ (key : Key) (iv plaintext : List Byte),
    (Aes256Gcm.encrypt key iv plaintext).2.length = tagBytes

theorem splitOn_encryptSecret (env : TotpEnv) (iv : Iv) (plaintext : String) :
    (encryptSecret env iv plaintext).splitOn CodeUnit.colon =
      let sealed := Aes256Gcm.encrypt (getEncryptionKey env) iv.val (Utf8.encode plaintext.toList)
      [bufferToHex iv.val, bufferToHex sealed.2, bufferToHex sealed.1] := by
  refine List.splitOn_intercalate CodeUnit.colon ?_ (List.cons_ne_nil _ _)
  intro field hField
  simp only [List.mem_cons, List.not_mem_nil, or_false] at hField
  rcases hField with rfl | rfl | rfl <;> exact colon_not_mem_bufferToHex _

/-- What is written is a payload. -/
theorem isPayload_encryptSecret (hTags : TagsSized) (env : TotpEnv) (iv : Iv)
    (plaintext : String) : IsPayload (encryptSecret env iv plaintext) := by
  refine ⟨_, _, _, splitOn_encryptSecret env iv plaintext, ⟨isHex_bufferToHex _, ?_⟩,
    ⟨isHex_bufferToHex _, ?_⟩, isHex_bufferToHex _, ?_⟩
  · rw [length_bufferToHex, iv.property, ivBytes]
  · rw [length_bufferToHex, hTags, tagBytes]
  · rw [length_bufferToHex]
    exact Nat.mul_mod_right _ _

theorem decryptSecret_encryptSecret (hInverts : DecryptInverts) (hTags : TagsSized)
    (env : TotpEnv) (iv : Iv) (plaintext : String) :
    decryptSecret env (encryptSecret env iv plaintext) = .ok (utf16 plaintext) := by
  have hSealed := (hInverts (getEncryptionKey env) iv.val (Utf8.encode plaintext.toList) _ _).mpr
    (Prod.mk.eta.symm)
  rw [decryptSecret, splitOn_encryptSecret]
  simp only [bufferFromHex_bufferToHex]
  rw [if_pos ⟨iv.property, hTags _ _ _⟩, hSealed]
  simp only [Utf8.decode_encode, String.ofList_toList]

/-- The error for the format says that the fields do not begin as they should. -/
theorem decryptSecret_format_iff (env : TotpEnv) (payload : JsString) :
    decryptSecret env payload = .error invalidSecretFormat ↔ ¬BeginsAsPayload payload := by
  rw [decryptSecret, BeginsAsPayload]
  split
  · rename_i ivHex tagHex ctHex hFields
    rw [hFields]
    have hSizes : (∃ first second third, [ivHex, tagHex, ctHex] = [first, second, third] ∧
        HexPairs ivBytes first ∧ HexPairs tagBytes second) ↔
          (bufferFromHex ivHex).length = ivBytes ∧ (bufferFromHex tagHex).length = tagBytes := by
      rw [length_bufferFromHex, length_bufferFromHex]
      constructor
      · rintro ⟨first, second, third, hSame, hPairs⟩
        cases hSame
        exact hPairs
      · exact fun hPairs => ⟨ivHex, tagHex, ctHex, rfl, hPairs⟩
    rw [hSizes]
    simp only
    split_ifs with hLengths
    · refine iff_of_false ?_ (not_not_intro hLengths)
      split <;> simp [invalidSecretFormat]
    · exact iff_of_true rfl hLengths
  · rename_i hOther
    refine iff_of_true rfl ?_
    rintro ⟨ivHex, tagHex, ctHex, hFields, -⟩
    exact hOther ivHex tagHex ctHex hFields

/-- Secrets are read back as they were stored, and the error for the format is for the
payloads that do not begin as they should. -/
theorem secretCodec (hInverts : DecryptInverts) (hTags : TagsSized) :
    (∀ env iv plaintext,
      decryptSecret env (encryptSecret env iv plaintext) = .ok (utf16 plaintext)) ∧
    ∀ env payload,
      decryptSecret env payload = .error invalidSecretFormat ↔ ¬BeginsAsPayload payload :=
  ⟨decryptSecret_encryptSecret hInverts hTags, decryptSecret_format_iff⟩

end Accepted

section Samples

private def sampleKey : List Byte :=
  (List.range 32).map (Fin.ofNat 256)

private def sampleEnv : TotpEnv where
  encryptionKey := some ⟨bufferToHex sampleKey, isHex_bufferToHex _, length_bufferToHex _⟩
  jwtSecret := ""

private def sampleIv : Iv :=
  ⟨bufferFromHex (utf16 "000102030405060708090a0b"), by decide⟩

private def sampleTag : List Byte :=
  bufferFromHex (utf16 "97269c18c94022330c5805d736ac4de8")

private def sampleCiphertext : List Byte :=
  bufferFromHex (utf16 "0d40854c9cd6864bc809c7c082b9203d")

private def sampleSecret : String := "JBSWY3DPEHPK3PXP"

/-- The key and the vector of the sample. -/
private def IsSample (key : Key) (iv : List Byte) : Prop :=
  key.val = sampleKey ∧ iv = sampleIv.val
deriving Decidable

private def samplePlaintext : List Byte :=
  Utf8.encode sampleSecret.toList

/-- The cipher as it is on the sample. What else is encrypted is left as it is, with a tag
of zeros. -/
@[reducible] private def sampleAes : Aes256Gcm where
  encrypt key iv plaintext :=
    if IsSample key iv ∧ plaintext = samplePlaintext then (sampleCiphertext, sampleTag)
    else (plaintext, List.replicate tagBytes 0)
  decrypt key iv ciphertext tag :=
    if tag = List.replicate tagBytes 0 then
      if IsSample key iv ∧ ciphertext = samplePlaintext then none else some ciphertext
    else if IsSample key iv ∧ ciphertext = sampleCiphertext ∧ tag = sampleTag then
      some samplePlaintext
    else none

@[reducible] private def sampleSha : Sha256Bytes where
  digest _ := ⟨List.replicate 32 0, by decide⟩

private theorem sampleAes_inverts : @DecryptInverts sampleAes := by
  have hTag : sampleTag ≠ List.replicate tagBytes 0 := by decide
  intro key iv plaintext ciphertext tag
  change (if tag = List.replicate tagBytes 0 then
      if IsSample key iv ∧ ciphertext = samplePlaintext then none else some ciphertext
    else if IsSample key iv ∧ ciphertext = sampleCiphertext ∧ tag = sampleTag then
      some samplePlaintext
    else none) = some plaintext ↔
    (if IsSample key iv ∧ plaintext = samplePlaintext then (sampleCiphertext, sampleTag)
      else (plaintext, List.replicate tagBytes 0)) = (ciphertext, tag)
  by_cases hZeros : tag = List.replicate tagBytes 0
  · subst hZeros
    rw [if_pos rfl]
    split_ifs with hCipher hPlain hPlain
    · simp [hTag]
    · simp only [false_iff, Prod.mk.injEq, and_true]
      rintro rfl
      exact hPlain hCipher
    · simp only [Option.some.injEq, Prod.mk.injEq, hTag, and_false, iff_false]
      rintro rfl
      exact hCipher hPlain
    · simp [eq_comm]
  · rw [if_neg hZeros]
    split_ifs with hCipher hPlain hPlain
    · simp [hCipher.2, hPlain.2]
    · simp only [Option.some.injEq, Prod.mk.injEq, Ne.symm hZeros, and_false, iff_false]
      rintro rfl
      exact hPlain ⟨hCipher.1, rfl⟩
    · simp only [Prod.mk.injEq, false_iff, not_and]
      rintro rfl rfl
      exact hCipher ⟨hPlain.1, rfl, rfl⟩
    · simp [Ne.symm hZeros]

private theorem sampleAes_tags : @TagsSized sampleAes := by
  intro key iv plaintext
  have hSize : sampleTag.length = tagBytes := by decide
  change (if IsSample key iv ∧ plaintext = samplePlaintext then (sampleCiphertext, sampleTag)
    else (plaintext, List.replicate tagBytes 0)).2.length = tagBytes
  split
  · exact hSize
  · exact List.length_replicate

/-- A secret that is stored and read back. -/
theorem secretCodec_sample :
    @encryptSecret sampleAes sampleSha sampleEnv sampleIv sampleSecret =
      utf16 ("000102030405060708090a0b:97269c18c94022330c5805d736ac4de8:" ++
        "0d40854c9cd6864bc809c7c082b9203d") ∧
    @decryptSecret sampleAes sampleSha sampleEnv
      (@encryptSecret sampleAes sampleSha sampleEnv sampleIv sampleSecret) =
        .ok (utf16 sampleSecret) :=
  ⟨by decide +kernel,
    (@secretCodec sampleAes sampleSha sampleAes_inverts sampleAes_tags).1 sampleEnv sampleIv
      sampleSecret⟩

/-- A vector with two more letters at its end, which are no digits. -/
private def lenientPayload : JsString :=
  utf16 ("000102030405060708090a0bzz:97269c18c94022330c5805d736ac4de8:" ++
    "0d40854c9cd6864bc809c7c082b9203d")

/-- A payload that is not as it is written is decrypted all the same. -/
theorem decryptSecret_lenient :
    ¬∀ env payload, @decryptSecret sampleAes sampleSha env payload = .error invalidSecretFormat ↔
      ¬IsPayload payload := by
  intro hClaim
  have hFields : lenientPayload.splitOn CodeUnit.colon =
      [utf16 "000102030405060708090a0bzz", utf16 "97269c18c94022330c5805d736ac4de8",
        utf16 "0d40854c9cd6864bc809c7c082b9203d"] := by decide +kernel
  have hNone : ¬IsPayload lenientPayload := by
    rintro ⟨ivHex, tagHex, ctHex, hSplit, ⟨-, hLength⟩, -⟩
    rw [hFields] at hSplit
    obtain rfl := (List.cons.inj hSplit).1
    revert hLength
    decide
  have hRead : @decryptSecret sampleAes sampleSha sampleEnv lenientPayload =
      .ok (utf16 sampleSecret) := by
    unfold decryptSecret
    rw [hFields]
    decide +kernel
  rw [(hClaim sampleEnv lenientPayload).mpr hNone] at hRead
  cases hRead

end Samples

end Navin.TwoFactor
