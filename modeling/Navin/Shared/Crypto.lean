import Navin.Shared.Json

/-! The deterministic hashing scheme of ledger payloads. SHA-256 is a parameter;
everything up to the hashed text is computed. -/
namespace Navin

/-- `createHash('sha256').update(text).digest('hex')`. -/
class Sha256 where
  hexDigest : String → String

/-- SHA-256 as far as the listed texts tell; any other text gets the digest of
the empty one. Concrete runs list the texts they hash. -/
@[reducible] def tabulatedSha256 (table : List (String × String)) : Sha256 :=
  ⟨fun text => (table.lookup text).getD
    "e3b0c44298fc1c149afbf4c8996fb92427ae41e4649b934ca495991b7852b855"⟩

/-- UTF-16 code units, which the default sort order compares. -/
def utf16Units (text : String) : List Nat :=
  text.toList.flatMap fun c =>
    if c.toNat < 0x10000 then [c.toNat]
    else [0xD800 + (c.toNat - 0x10000) / 0x400, 0xDC00 + (c.toNat - 0x10000) % 0x400]

def lexicographic : List Nat → List Nat → Bool
  | [], _ => true
  | _ :: _, [] => false
  | a :: as, b :: bs => a < b || a == b && lexicographic as bs

/-- The integer an array-index key denotes: canonical numerals below `2^32 - 1`. -/
def arrayIndex? (key : String) : Option Nat :=
  let digits := key.toList
  let value := digits.foldl (fun n c => 10 * n + (c.toNat - '0'.toNat)) 0
  if digits ≠ [] ∧ (digits.all Char.isDigit ∧ toString value = key) ∧ value < 4294967295
  then some value else none

/-- How a fresh object enumerates keys that were assigned in sorted order:
array indices come first, numerically, and the other keys keep their order. -/
def enumeratedBefore (first second : String) : Bool :=
  match arrayIndex? first, arrayIndex? second with
  | some m, some n => m ≤ n
  | some _, none => true
  | none, some _ => false
  | none, none => lexicographic (utf16Units first) (utf16Units second)

mutual

def normalizeForDeterministicJson : Value → Value
  | .date value => .string value.toISOString
  | .array items => .array (normalizeItems items)
  | .object properties =>
      .object ((normalizeProperties properties).insertionSort fun first second =>
        enumeratedBefore first.1 second.1)
  | primitive => primitive

def normalizeItems : List Value → List Value
  | [] => []
  | item :: rest => normalizeForDeterministicJson item :: normalizeItems rest

/-- Undefined properties are omitted. -/
def normalizeProperties : List (String × Option Value) → List (String × Option Value)
  | [] => []
  | (_, none) :: rest => normalizeProperties rest
  | (key, some value) :: rest =>
      (key, some (normalizeForDeterministicJson value)) :: normalizeProperties rest

end

/-- The characters `\s` matches. -/
def isWhitespace (c : Char) : Bool :=
  (9 ≤ c.toNat && c.toNat ≤ 13) || c.toNat == 0x20 || c.toNat == 0xA0 || c.toNat == 0x1680 ||
    (0x2000 ≤ c.toNat && c.toNat ≤ 0x200A) || c.toNat == 0x2028 || c.toNat == 0x2029 ||
    c.toNat == 0x202F || c.toNat == 0x205F || c.toNat == 0x3000 || c.toNat == 0xFEFF

/-- `serialized.replace(/\s+/g, '')`. -/
def stripWhitespace (text : String) : String :=
  String.ofList (text.toList.filter fun c => !isWhitespace c)

/-- The exact text whose hash is taken. -/
def compactJson (payload : Value) : String :=
  stripWhitespace (Json.stringify (normalizeForDeterministicJson payload))

def generateDataHash [Sha256] (payload : Value) : String :=
  Sha256.hexDigest (compactJson payload)

/-- The canonical payload of a shipment or ledger event. Every caller passes a
`Date`, so the fallback to the epoch is never taken. -/
def buildCanonicalShipmentPayload (shipmentId event : String) (actor : Option String)
    (timestamp : Date) (metadata : Value) : Value :=
  .object
    [("actor", some (actor.elim .null .string)),
     ("event", some (.string event)),
     ("metadata", some metadata),
     ("shipmentId", some (.string shipmentId)),
     ("timestamp", some (.string timestamp.toISOString)),
     ("v", some (.number (.digit 1)))]

example : compactJson (.object [("b", some (.array [.bool true, .string "x y"])),
    ("10", some .null), ("c", none), ("9", some (.number (.digit 7)))]) =
      "\x7b\"9\":7,\"10\":null,\"b\":[true,\"xy\"]\x7d" := by decide

end Navin
