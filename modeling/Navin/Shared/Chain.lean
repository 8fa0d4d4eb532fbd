import Mathlib.Algebra.GroupWithZero.Nat
import Navin.Shared.Crypto
import Navin.Shared.Domain

/-! The typed mirror of the chain interface: what the contract's types admit as
text, and what its errors mean to the backend. -/
namespace Navin

/-- Up to 32 characters of `[a-zA-Z0-9_]`, and at least one. -/
def isSymbol (text : String) : Bool :=
  (0 < text.toList.length && text.toList.length ≤ 32) &&
    text.toList.all fun c => c.isAlphanum || c == '_'

/-- The port rejects a digest that is not 32 bytes of lowercase hex. -/
def isBytes32Hex (text : String) : Bool :=
  text.toList.length == 64 && text.toList.all (lowerHexDigits.contains ·)

/-- The text of a strkey: a letter for its kind and 55 base-32 digits. -/
def isStrkey (kinds : List Char) (text : String) : Bool :=
  match text.toList with
  | [] => false
  | kind :: digits =>
      kinds.contains kind && digits.length == 55 &&
        digits.all fun c => c.isUpper || '2' ≤ c && c ≤ '7'

def isAddress (text : String) : Bool :=
  isStrkey ['G', 'C'] text

def isContractAddress (text : String) : Bool :=
  isStrkey ['C'] text

/-- A positive decimal numeral within the range of an `i128`. -/
def isPositiveI128 (text : String) : Bool :=
  match text.toList with
  | [] => false
  | first :: rest =>
      ('1' ≤ first && first ≤ '9') && rest.all (·.isDigit) &&
        (first :: rest).foldl (fun n c => 10 * n + (c.toNat - '0'.toNat)) 0 < 2 ^ 127

def isU32 (n : Nat) : Bool :=
  n < 2 ^ 32

def chainSpecVersion : String := "1.0.0-draft"

/-- `CHAIN_ERROR_MAP`, by the discriminants of the contract: name, code, status. -/
def chainErrorMap : List (Nat × String × String × Nat) :=
  [(1, "NotAuthorized", "ERR_CHAIN_UNAUTHORIZED", 403),
    (2, "InvalidHash", "ERR_CHAIN_INVALID_HASH", 422),
    (3, "AlreadyAnchored", "ERR_CHAIN_ALREADY_ANCHORED", 409),
    (4, "EscrowExists", "ERR_CHAIN_ESCROW_EXISTS", 409),
    (5, "EscrowNotFound", "ERR_CHAIN_ESCROW_NOT_FOUND", 404),
    (6, "EscrowAlreadyReleased", "ERR_CHAIN_ESCROW_ALREADY_RELEASED", 409),
    (7, "InvalidAmount", "ERR_CHAIN_INVALID_AMOUNT", 422),
    (8, "InvalidProof", "ERR_CHAIN_INVALID_PROOF", 422)]

def chainErrorToAppError (contractCode : Nat) : AppError :=
  match chainErrorMap.lookup contractCode with
  | none =>
      ⟨502, "Unknown chain contract error " ++ toString contractCode ++
        " (spec " ++ chainSpecVersion ++ ")", "ERR_CHAIN_UNKNOWN", [toString contractCode]⟩
  | some (name, code, status) =>
      ⟨status, "Chain contract error: " ++ name, code, [toString contractCode]⟩

/-- The length of a string in UTF-8. -/
def utf8Length (text : String) : Nat :=
  (text.toList.map Char.utf8Size).sum

private theorem lowerHexDigits_utf8Size : ∀ c ∈ lowerHexDigits, c.utf8Size = 1 :=
  List.all_iff_forall_prop.mp (by decide +kernel)

/-- A digest in hex takes one byte a digit. -/
theorem utf8Length_of_isBytes32Hex {text : String} (h : isBytes32Hex text) :
    utf8Length text = 64 := by
  simp only [isBytes32Hex, Bool.and_eq_true, beq_iff_eq, List.all_eq_true,
    List.contains_iff_mem] at h
  have hOnes : text.toList.map Char.utf8Size = text.toList.map fun _ => 1 :=
    List.map_congr_left fun c hc => lowerHexDigits_utf8Size c (h.2 c hc)
  simp [utf8Length, hOnes, h.1]

/-- Characters below the surrogates' range are one code unit each. -/
theorem length_utf16Units {text : String} (h : ∀ c ∈ text.toList, c.toNat < 0x10000) :
    (utf16Units text).length = text.toList.length := by
  have hOnes : ∀ c ∈ text.toList, (if c.toNat < 0x10000 then [c.toNat]
      else [0xD800 + (c.toNat - 0x10000) / 0x400, 0xDC00 + (c.toNat - 0x10000) % 0x400]) =
        [c.toNat] :=
    fun c hc => if_pos (h c hc)
  rw [utf16Units, List.flatMap_congr hOnes]
  simp

private theorem toNat_lt_of_isAlphanum {c : Char} (h : c.isAlphanum || c == '_') :
    c.toNat < 0x10000 := by
  have hRanges : c.isAlphanum = (decide (c.val ≥ 'A'.val ∧ c.val ≤ 'Z'.val) ||
      c.val ≥ 'a'.val && c.val ≤ 'z'.val || c.val ≥ '0'.val && c.val ≤ '9'.val) := rfl
  simp only [hRanges, Bool.or_eq_true, Bool.and_eq_true, decide_eq_true_eq, beq_iff_eq, ge_iff_le,
    UInt32.le_iff_toNat_le] at h
  rcases h with ((h | h) | h) | rfl
  · exact Nat.lt_of_le_of_lt h.2 (by decide)
  · exact Nat.lt_of_le_of_lt h.2 (by decide)
  · exact Nat.lt_of_le_of_lt h.2 (by decide)
  · decide

/-- A name made of a plain prefix and a symbol is at most 32 longer than the prefix. -/
theorem length_utf16Units_append {start symbol : String}
    (hStart : ∀ c ∈ start.toList, c.toNat < 0x10000) (h : isSymbol symbol) :
    (utf16Units (start ++ symbol)).length ≤ start.toList.length + 32 := by
  simp only [isSymbol, Bool.and_eq_true, decide_eq_true_eq, List.all_eq_true] at h
  have hPlain : ∀ c ∈ (start ++ symbol).toList, c.toNat < 0x10000 := by
    intro c hc
    rw [String.toList_append, List.mem_append] at hc
    rcases hc with hc | hc
    · exact hStart c hc
    · exact toNat_lt_of_isAlphanum (h.2 c hc)
  rw [length_utf16Units hPlain, String.toList_append, List.length_append]
  exact Nat.add_le_add_left h.1.2 _

end Navin
