import Navin.Semantics.Csv
import Navin.Shared.JsString

/-! The export of shipments as comma separated values. -/
namespace Navin

open Readability

instance : Csv.Alphabet CodeUnit where
  quote := 0x22
  comma := 0x2C
  cr := 0x0D
  lf := 0x0A
  distinct := by decide

/-- `Record<string, unknown>`. A property that is null or undefined has no value. -/
abbrev UnknownRecord (V : Type) : Type :=
  String → Option V

def csvHeaders : List String :=
  ["_id", "trackingNumber", "origin", "destination", "status", "createdAt", "updatedAt"]

section Export

variable {V : Type} (toString : V → JsString)

/-- `String(v ?? '')`. -/
def csvText (v : Option V) : JsString :=
  (v.map toString).getD []

/-- `"${String(v ?? '').replace(/"/g, '""')}"`. -/
def csvEscape (v : Option V) : JsString :=
  0x22 :: (csvText toString v).flatMap (fun unit => if unit = 0x22 then [0x22, 0x22] else [unit]) ++
    [0x22]

/-- Joins with `,` within rows and with `\n` between them. -/
def shipmentsToCSV (shipments : List (UnknownRecord V)) : JsString :=
  let rows := shipments.map fun shipment =>
    separated 0x2C (csvHeaders.map fun header => csvEscape toString (shipment header))
  separated 0x0A (separated 0x2C (csvHeaders.map utf16) :: rows)

theorem csvHeaders_plain : ∀ header ∈ csvHeaders, ∀ unit ∈ utf16 header,
    Csv.special unit = false := by
  have hAll : (csvHeaders.all fun header =>
      (utf16 header).all fun unit => !Csv.special unit) = true := by
    decide
  intro header hHeader unit hUnit
  have hPlain := List.all_eq_true.mp (List.all_eq_true.mp hAll header hHeader) unit hUnit
  rwa [Bool.not_eq_true'] at hPlain

theorem writesRecord_headers :
    Csv.WritesRecord (separated 0x2C (csvHeaders.map utf16)) (csvHeaders.map utf16) := by
  refine ⟨by decide, csvHeaders.map utf16, by decide, rfl, ?_⟩
  refine List.forall₂_same.mpr fun field hField => .inr ⟨rfl, ?_⟩
  obtain ⟨header, hHeader, rfl⟩ := List.mem_map.mp hField
  exact csvHeaders_plain header hHeader

theorem writesRecord_row (shipment : UnknownRecord V) :
    Csv.WritesRecord
      (separated 0x2C (csvHeaders.map fun header => csvEscape toString (shipment header)))
      (csvHeaders.map fun header => csvText toString (shipment header)) := by
  refine ⟨List.cons_ne_nil _ _, csvHeaders.map fun header => csvEscape toString (shipment header),
    List.cons_ne_nil _ _, rfl, ?_⟩
  refine List.forall₂_map_left_iff.mpr (List.forall₂_map_right_iff.mpr ?_)
  exact List.forall₂_same.mpr fun header _ => .inl rfl

/-- Whatever the fields hold, the records that are read are the headers and the shipments,
in order. -/
theorem parse_shipmentsToCSV (shipments : List (UnknownRecord V)) :
    Csv.parse (shipmentsToCSV toString shipments) =
      some (csvHeaders.map utf16 :: shipments.map fun shipment =>
        csvHeaders.map fun header => csvText toString (shipment header)) := by
  refine Csv.parse_separated (.cons writesRecord_headers ?_) (List.cons_ne_nil _ _)
  refine List.forall₂_map_left_iff.mpr (List.forall₂_map_right_iff.mpr ?_)
  exact List.forall₂_same.mpr fun shipment _ => writesRecord_row toString shipment

end Export

example : Csv.parse (utf16 "id,note\r\n1,\"say \"\"hi\"\",\n\"") =
    some [[utf16 "id", utf16 "note"], [utf16 "1", utf16 "say \"hi\",\n"]] := by
  decide

end Navin
