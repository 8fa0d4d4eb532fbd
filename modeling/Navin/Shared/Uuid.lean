import Navin.Shared.ObjectId

/-! Version 4 UUIDs, as the blocklist recognises them. -/
namespace Navin

/-- What the pattern of a version 4 UUID allows at a position, ignoring case. -/
def uuidAllows (index : Nat) (c : Char) : Bool :=
  if [8, 13, 18, 23].contains index then c == '-'
  else if index = 14 then c == '4'
  else if index = 19 then "89ab".toList.contains c.toLower
  else lowerHexDigits.contains c.toLower

/-- `UUID_V4_REGEX.test`. -/
def isUuidV4 (text : String) : Bool :=
  text.toList.length == 36 && text.toList.zipIdx.all fun (c, index) => uuidAllows index c

example : isUuidV4 "00000000-0000-4000-8000-00000000000A" = true := by decide

/-- Drawn UUIDs are printed in lower case. -/
def isDrawnUuid (text : String) : Bool :=
  isUuidV4 text && text.toLower == text

end Navin
