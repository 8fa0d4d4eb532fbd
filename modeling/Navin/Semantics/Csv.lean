import Mathlib.Data.List.Forall2
import Navin.Semantics.Readability

/-! Comma separated values, read as RFC 4180 has them: a field is enclosed in quotes, with
those inside doubled, or holds none of the special symbols, and records end with LF or
CRLF, which the last one may lack. -/
namespace Csv

open Readability

/-- The special symbols of an alphabet. -/
class Alphabet (α : Type) where
  quote : α
  comma : α
  cr : α
  lf : α
  distinct : [quote, comma, cr, lf].Nodup

export Alphabet (quote comma cr lf)

section Symbols

variable {α : Type} [Alphabet α]

theorem comma_ne_quote : (comma : α) ≠ quote := by
  have h := Alphabet.distinct (α := α)
  simp only [List.nodup_cons, List.mem_cons, not_or] at h
  exact Ne.symm h.1.1

theorem lf_ne_quote : (lf : α) ≠ quote := by
  have h := Alphabet.distinct (α := α)
  simp only [List.nodup_cons, List.mem_cons, not_or] at h
  exact Ne.symm h.1.2.2.1

theorem lf_ne_comma : (lf : α) ≠ comma := by
  have h := Alphabet.distinct (α := α)
  simp only [List.nodup_cons, List.mem_cons, not_or] at h
  exact Ne.symm h.2.1.2.1

end Symbols

inductive Mode where
  | fresh
  | plain
  | quoted
  | closing
  | returned
deriving DecidableEq

/-- What has been read: the records, the fields of the record that is being read, and the
symbols of its field. -/
structure Reader (α : Type) where
  mode : Mode := .fresh
  field : List α := []
  record : List (List α) := []
  records : List (List (List α)) := []
deriving DecidableEq

variable {α : Type}

namespace Reader

variable (reader : Reader α)

def add (symbol : α) (mode : Mode) : Reader α :=
  { reader with mode, field := reader.field ++ [symbol] }

def endField : Reader α :=
  { reader with mode := .fresh, field := [], record := reader.record ++ [reader.field] }

def endRecord : Reader α where
  records := reader.records ++ [reader.record ++ [reader.field]]

variable [Alphabet α] [DecidableEq α]

/-- A symbol that ends a field. -/
def separate (symbol : α) : Option (Reader α) :=
  if symbol = comma then some reader.endField
  else if symbol = lf then some reader.endRecord
  else if symbol = cr then some { reader with mode := .returned }
  else none

def step (symbol : α) : Option (Reader α) :=
  match reader.mode with
  | .fresh =>
      if symbol = quote then some { reader with mode := .quoted }
      else reader.separate symbol <|> some (reader.add symbol .plain)
  | .plain =>
      if symbol = quote then none
      else reader.separate symbol <|> some (reader.add symbol .plain)
  | .quoted =>
      if symbol = quote then some { reader with mode := .closing }
      else some (reader.add symbol .quoted)
  | .closing =>
      if symbol = quote then some (reader.add quote .quoted) else reader.separate symbol
  | .returned => if symbol = lf then some reader.endRecord else none

def read (text : List α) : Option (Reader α) :=
  text.foldlM (fun reader symbol => reader.step symbol) reader

/-- The end of the text. After a line break nothing remains. -/
def finish : Option (List (List (List α))) :=
  match reader.mode with
  | .quoted => none
  | .returned => none
  | .fresh =>
      if reader.record.isEmpty then some reader.records else some reader.endRecord.records
  | _ => some reader.endRecord.records

end Reader

variable [Alphabet α] [DecidableEq α]

/-- The records of a text. -/
def parse (text : List α) : Option (List (List (List α))) :=
  (Reader.read {} text).bind (·.finish)

section Writing

def special (symbol : α) : Bool :=
  symbol = quote || symbol = comma || symbol = cr || symbol = lf

/-- A field with its quotes doubled. -/
def doubled (field : List α) : List α :=
  field.flatMap fun symbol => if symbol = quote then [quote, quote] else [symbol]

def enclosed (field : List α) : List α :=
  quote :: doubled field ++ [quote]

/-- The texts that a field may be written as. -/
def Writes (text field : List α) : Prop :=
  text = enclosed field ∨ text = field ∧ ∀ symbol ∈ field, special symbol = false

/-- The texts that a record may be written as. One that is empty cannot be told from the end
of the file. -/
def WritesRecord (text : List α) (record : List (List α)) : Prop :=
  text ≠ [] ∧ ∃ texts ≠ [], text = separated comma texts ∧ List.Forall₂ Writes texts record

end Writing

theorem ne_of_not_special {symbol : α} (h : special symbol = false) :
    symbol ≠ quote ∧ symbol ≠ comma ∧ symbol ≠ lf ∧ symbol ≠ cr := by
  simp only [special, Bool.or_eq_false_iff, decide_eq_false_iff_not] at h
  exact ⟨h.1.1.1, h.1.1.2, h.2, h.1.2⟩

section Fields

variable {record : List (List α)} {records : List (List (List α))}

theorem read_cons (reader : Reader α) (symbol : α) (text : List α) :
    reader.read (symbol :: text) = (reader.step symbol).bind (·.read text) := rfl

theorem read_append (reader : Reader α) (text rest : List α) :
    reader.read (text ++ rest) = (reader.read text).bind (·.read rest) := by
  simp only [Reader.read, List.foldlM_append]
  rfl

/-- Within quotes every symbol is read for itself. -/
theorem read_quoted (field done : List α) :
    Reader.read ⟨.quoted, done, record, records⟩ (doubled field ++ [quote]) =
      some ⟨.closing, done ++ field, record, records⟩ := by
  induction field generalizing done with
  | nil => simp [doubled, Reader.read, Reader.step]
  | cons symbol rest ih =>
      have hRest : Reader.read ⟨.quoted, done ++ [symbol], record, records⟩
          (doubled rest ++ [quote]) = some ⟨.closing, done ++ symbol :: rest, record, records⟩ := by
        rw [ih, List.append_assoc, List.singleton_append]
      by_cases hQuote : symbol = quote
      · subst hQuote
        simpa [doubled, read_cons, Reader.step, Reader.add] using hRest
      · simpa [doubled, read_cons, Reader.step, Reader.add, hQuote] using hRest

theorem read_enclosed (field : List α) :
    Reader.read ⟨.fresh, [], record, records⟩ (enclosed field) =
      some ⟨.closing, field, record, records⟩ := by
  rw [enclosed, List.cons_append, read_cons, Reader.step, if_pos rfl]
  exact read_quoted field []

theorem step_plain {reader : Reader α} {symbol : α} (h : special symbol = false)
    (hMode : reader.mode = .fresh ∨ reader.mode = .plain) :
    reader.step symbol = some (reader.add symbol .plain) := by
  obtain ⟨hQuote, hComma, hLf, hCr⟩ := ne_of_not_special h
  rcases hMode with hMode | hMode <;>
    simp [Reader.step, hMode, Reader.separate, hQuote, hComma, hLf, hCr]

theorem read_plain {field : List α} (h : ∀ symbol ∈ field, special symbol = false)
    (done : List α) :
    Reader.read ⟨.plain, done, record, records⟩ field =
      some ⟨.plain, done ++ field, record, records⟩ := by
  induction field generalizing done with
  | nil => simp [Reader.read]
  | cons symbol rest ih =>
      obtain ⟨hSymbol, hRest⟩ := List.forall_mem_cons.mp h
      rw [read_cons, step_plain hSymbol (.inr rfl)]
      refine (ih hRest (done ++ [symbol])).trans ?_
      rw [List.append_assoc, List.singleton_append]

/-- How a written field is read. -/
theorem read_written {text field : List α} (h : Writes text field) :
    ∃ mode, Reader.read ⟨.fresh, [], record, records⟩ text = some ⟨mode, field, record, records⟩ ∧
      (mode = .fresh ∧ text = [] ∨ mode = .plain ∨ mode = .closing) := by
  rcases h with rfl | ⟨rfl, hPlain⟩
  · exact ⟨.closing, read_enclosed field, .inr (.inr rfl)⟩
  · cases text with
    | nil => exact ⟨.fresh, rfl, .inl ⟨rfl, rfl⟩⟩
    | cons symbol rest =>
        obtain ⟨hSymbol, hRest⟩ := List.forall_mem_cons.mp hPlain
        refine ⟨.plain, ?_, .inr (.inl rfl)⟩
        rw [read_cons, step_plain hSymbol (.inl rfl)]
        exact read_plain hRest [symbol]

end Fields

section Records

/-- A reader that may have come to the end of its field. -/
def Reader.AtEnd (reader : Reader α) : Prop :=
  reader.mode = .fresh ∨ reader.mode = .plain ∨ reader.mode = .closing

theorem step_comma {reader : Reader α} (h : reader.AtEnd) :
    reader.step comma = some reader.endField := by
  rcases h with h | h | h <;> simp [Reader.step, h, Reader.separate, comma_ne_quote]

theorem step_lf {reader : Reader α} (h : reader.AtEnd) :
    reader.step lf = some reader.endRecord := by
  rcases h with h | h | h <;> simp [Reader.step, h, Reader.separate, lf_ne_quote, lf_ne_comma]

/-- A written record is read up to the end of its last field. -/
theorem read_record {texts record : List (List α)} (h : List.Forall₂ Writes texts record)
    (hSome : texts ≠ []) (done : List (List α)) (records : List (List (List α))) :
    ∃ reader : Reader α,
      Reader.read ⟨.fresh, [], done, records⟩ (separated comma texts) = some reader ∧
        reader.AtEnd ∧ reader.endRecord.records = records ++ [done ++ record] ∧
          (done ≠ [] ∨ separated comma texts ≠ [] →
            reader.finish = some (records ++ [done ++ record])) := by
  induction h generalizing done with
  | nil => exact absurd rfl hSome
  | @cons text field texts record hField hRest ih =>
      obtain ⟨mode, hRead, hMode⟩ := @read_written _ _ _ done records _ _ hField
      have hEnd : Reader.AtEnd (⟨mode, field, done, records⟩ : Reader α) :=
        hMode.imp And.left id
      cases hRest with
      | nil =>
          refine ⟨_, hRead, hEnd, rfl, fun hNonempty => ?_⟩
          rcases hMode with ⟨rfl, rfl⟩ | rfl | rfl
          · have hDone : done ≠ [] := hNonempty.resolve_right (· rfl)
            simp [Reader.finish, hDone, Reader.endRecord]
          · rfl
          · rfl
      | cons hNext hOthers =>
          obtain ⟨reader, hReader, hAtEnd, hRecords, hFinish⟩ :=
            ih (List.cons_ne_nil _ _) (done ++ [field])
          simp only [List.append_assoc, List.singleton_append] at hRecords hFinish
          refine ⟨reader, ?_, hAtEnd, hRecords, fun _ => hFinish (.inl (by simp))⟩
          rw [separated_cons_cons, read_append, hRead, Option.bind_some, read_cons,
            step_comma hEnd]
          exact hReader

theorem read_records {texts : List (List α)} {records : List (List (List α))}
    (h : List.Forall₂ WritesRecord texts records) (hSome : texts ≠ [])
    (done : List (List (List α))) :
    ∃ reader : Reader α,
      Reader.read ⟨.fresh, [], [], done⟩ (separated lf texts) = some reader ∧
        reader.finish = some (done ++ records) := by
  induction h generalizing done with
  | nil => exact absurd rfl hSome
  | @cons text record texts records hRecord hRest ih =>
      obtain ⟨hNonempty, fields, hFields, rfl, hWrites⟩ := hRecord
      obtain ⟨reader, hReader, hAtEnd, hRecords, hFinish⟩ := read_record hWrites hFields [] done
      cases hRest with
      | nil => exact ⟨reader, hReader, hFinish (.inr hNonempty)⟩
      | cons hNext hOthers =>
          obtain ⟨last, hLast, hAll⟩ := ih (List.cons_ne_nil _ _) (done ++ [record])
          refine ⟨last, ?_, by rw [hAll, List.append_assoc, List.singleton_append]⟩
          rw [separated_cons_cons, read_append, hReader, Option.bind_some, read_cons,
            step_lf hAtEnd, Option.bind_some, ← hLast]
          refine congrArg (Reader.read · _) ?_
          simp only [Reader.endRecord, Reader.mk.injEq, true_and]
          exact hRecords

/-- What is written, record by record with LF between them, is what is read. -/
theorem parse_separated {texts : List (List α)} {records : List (List (List α))}
    (h : List.Forall₂ WritesRecord texts records) (hSome : texts ≠ []) :
    parse (separated lf texts) = some records := by
  obtain ⟨reader, hReader, hFinish⟩ := read_records h hSome []
  rw [parse]
  exact (congrArg (Option.bind · _) hReader).trans hFinish

end Records

end Csv
