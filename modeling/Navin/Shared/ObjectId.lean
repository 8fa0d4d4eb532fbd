import Mathlib.Algebra.GroupWithZero.Nat
import Mathlib.Data.Bool.AllAny
import Mathlib.Logic.Basic
import Mathlib.Logic.Function.Basic

/-! Document identifiers. The database prints them as lowercase hexadecimal,
while requests carry arbitrary strings. A string reaches a query only through
the driver's cast. -/
namespace Navin

def lowerHexDigits : List Char := "0123456789abcdef".toList

/-- The printed form of an identifier: 24 lowercase hexadecimal digits. -/
def isPrintedId (digits : List Char) : Bool :=
  digits.length == 24 && digits.all (lowerHexDigits.contains ·)

structure ObjectId where
  digits : List Char
  printed : isPrintedId digits = true
deriving DecidableEq

namespace ObjectId

/-- Numerals below sixteen are digits. -/
instance digits_neZero : NeZero 16 := ⟨by decide⟩

/-- The identifier that repeats one digit. -/
def repeated (digit : Fin 16) : ObjectId :=
  ⟨List.replicate 24 (lowerHexDigits.get digit), by
    simp only [isPrintedId, List.length_replicate, Bool.and_eq_true, List.all_eq_true,
      List.mem_replicate]
    exact ⟨rfl, fun c hc => hc.2 ▸ List.contains_iff_mem.mpr (List.get_mem _ _)⟩⟩

/-- `_id.toString()`. -/
protected def toString (id : ObjectId) : String :=
  String.ofList id.digits

/-- The driver's cast of a string. Both letter cases are accepted and the
identifier does not remember which one was used. -/
def cast? (text : String) : Option ObjectId :=
  let digits := text.toList.map Char.toLower
  if h : isPrintedId digits = true then some ⟨digits, h⟩ else none

private theorem toLower_of_mem_lowerHexDigits : ∀ c ∈ lowerHexDigits, c.toLower = c :=
  List.all_iff_forall_prop.mp (by decide)

private theorem map_toLower (id : ObjectId) : id.digits.map Char.toLower = id.digits := by
  have hPrinted := id.printed
  simp only [isPrintedId, Bool.and_eq_true, List.all_eq_true, List.contains_iff_mem] at hPrinted
  calc id.digits.map Char.toLower
      = id.digits.map fun c => c :=
        List.map_congr_left fun c hc => toLower_of_mem_lowerHexDigits c (hPrinted.2 c hc)
    _ = id.digits := List.map_id' _

/-- Casting what was printed gives the identifier back. -/
@[simp] theorem cast?_toString (id : ObjectId) : cast? id.toString = some id := by
  simp [cast?, ObjectId.toString, map_toLower, id.printed]

theorem toString_ne_empty (id : ObjectId) : id.toString ≠ "" := by
  intro h
  have hCast := cast?_toString id
  rw [h] at hCast
  cases hCast

theorem toString_injective : Function.Injective ObjectId.toString := by
  intro first second h
  have hCast := congrArg cast? h
  simpa using hCast

end ObjectId

end Navin
