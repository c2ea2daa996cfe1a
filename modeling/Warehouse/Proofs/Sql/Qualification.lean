import Warehouse.Proofs.Sql.Quotation

/-! # Reading a qualified table name

A quoted table name stands alone or behind its quoted schema and a dot. Dots and marks may also
occur inside of either name, but there the marks are doubled, so the first name ends at its own
closing mark and what follows it tells the two forms apart. The reader takes exactly the texts
that qualifying writes (`QuoteStyle.readQualified?_eq_some_iff`), and gives back the table and
the schema (`QuoteStyle.readQualified?_qualify`). -/

namespace Warehouse.QuoteStyle

/-- Reads a text as a quoted table name, alone or behind a quoted schema and a dot. A schema
that is there is not empty. -/
def readQualified? (style : QuoteStyle) (text : String) : Option (Option String × String) := do
  let (first, rest) ← style.readName? text
  match rest.toList with
  | [] => some (none, first)
  | c :: behind =>
      let (table, left) ← style.readName? (String.ofList behind)
      if c = '.' ∧ first ≠ "" ∧ left = "" then some (some first, table) else none

/-- A schema that is not there or empty is not written. -/
def writtenSchema (schema : Option String) : Option String := schema.filter (· ≠ "")

variable {style : QuoteStyle} {text table first rest schema : String}

theorem getD_writtenSchema (schema : Option String) :
    (writtenSchema schema).getD "" = schema.getD "" := by
  cases schema with
  | none => rfl
  | some schema => by_cases empty : schema = "" <;> simp [writtenSchema, Option.filter, empty]

theorem writtenSchema_ne_empty (schema : Option String) : writtenSchema schema ≠ some "" := by
  intro empty
  have kept := Option.filter_eq_some_iff.mp empty
  exact of_decide_eq_true kept.2 rfl

theorem qualify_of_ne_empty (present : schema ≠ "") :
    style.qualify schema table =
      style.quoteName schema ++ ("." ++ style.quoteName table) := by
  rw [qualify, if_neg present, String.append_assoc]

/-- A name that stands alone is read to the end. -/
theorem readName?_quoteName (style : QuoteStyle) (name : String) :
    style.readName? (style.quoteName name) = some (name, "") :=
  style.readName?_eq_some_iff.mpr ⟨String.append_empty.symm, by simp⟩

theorem readQualified?_of_alone (read : style.readName? text = some (table, "")) :
    style.readQualified? text = some (none, table) := by
  simp [readQualified?, read]

/-- A name with a dot and another name behind it is read as a schema and its table. -/
theorem readQualified?_of_schema (present : schema ≠ "")
    (read : style.readName? text = some (schema, "." ++ style.quoteName table)) :
    style.readQualified? text = some (some schema, table) := by
  have split : ("." ++ style.quoteName table).toList = '.' :: (style.quoteName table).toList := by
    simp
  simp [readQualified?, read, split, readName?_quoteName, present]

/-- A text that is read as a qualified name was written as one. -/
theorem eq_qualify_of_readQualified? {schema : Option String}
    (read : style.readQualified? text = some (schema, table)) :
    text = style.qualify (schema.getD "") table ∧ schema ≠ some "" := by
  obtain ⟨⟨first, rest⟩, front, read⟩ := Option.bind_eq_some_iff.mp read
  have written := (style.readName?_eq_some_iff.mp front).1
  cases split : rest.toList with
  | nil =>
      simp only [split, Option.some.injEq, Prod.mk.injEq] at read
      obtain ⟨rfl, rfl⟩ := read
      refine ⟨?_, (Option.some_ne_none _).symm⟩
      rw [written, String.toList_eq_nil_iff.mp split, String.append_empty]
      rfl
  | cons c behind =>
      simp only [split] at read
      obtain ⟨⟨second, left⟩, back, read⟩ := Option.bind_eq_some_iff.mp read
      obtain ⟨⟨dot, present, ended⟩, same⟩ := Option.ite_none_right_eq_some.mp read
      simp only [Option.some.injEq, Prod.mk.injEq] at same
      obtain ⟨rfl, rfl⟩ := same
      have further := (style.readName?_eq_some_iff.mp back).1
      have joined : rest = "." ++ style.quoteName second := by
        rw [show left = "" from ended, String.append_empty] at further
        rw [← String.toList_inj, split, dot, ← further]
        simp
      refine ⟨?_, fun empty => present (Option.some.inj empty)⟩
      rw [written, joined]
      exact (qualify_of_ne_empty present).symm

/-- A qualified name is read, as long as closing marks are not dots. -/
theorem readQualified?_of_qualify (apart : style.closing ≠ '.') {schema : Option String}
    (present : schema ≠ some "") :
    style.readQualified? (style.qualify (schema.getD "") table) = some (schema, table) := by
  cases schema with
  | none => exact readQualified?_of_alone (readName?_quoteName style table)
  | some schema =>
      have filled : schema ≠ "" := fun empty => present (congrArg some empty)
      have dot : ("." ++ style.quoteName table).toList.head? ≠ some style.closing := by
        intro mark
        exact apart (Option.some.inj (mark.symm.trans (by simp)))
      exact readQualified?_of_schema filled
        (style.readName?_eq_some_iff.mpr ⟨qualify_of_ne_empty filled, dot⟩)

/-- **A text is read as a qualified name exactly if it is the qualified name** of the table
with the schema, or of the table alone where there is none. -/
theorem readQualified?_eq_some_iff (apart : style.closing ≠ '.') {schema : Option String} :
    style.readQualified? text = some (schema, table) ↔
      text = style.qualify (schema.getD "") table ∧ schema ≠ some "" := by
  constructor
  · exact eq_qualify_of_readQualified?
  · intro ⟨written, present⟩
    rw [written]
    exact readQualified?_of_qualify apart present

theorem closing_named_ne_dot (tag : String) : (named tag).closing ≠ '.' := by
  simp only [named]
  split <;> decide

/-- **A qualified name is decoded**, whatever characters table and schema hold. In the style of
every dialect tag the reader gives back the table, and the schema unless there is none or an
empty one. It accepts nothing but qualified names, and two of these are the same text exactly
if the tables agree and the schemas agree up to none and the empty one. -/
theorem readQualified?_qualify (tag : String) :
    (∀ (schema : Option String) (table : String),
      (named tag).readQualified? ((named tag).qualify (schema.getD "") table) =
        some (writtenSchema schema, table)) ∧
    (∀ (text table : String) (schema : Option String),
      (named tag).readQualified? text = some (schema, table) ↔
        text = (named tag).qualify (schema.getD "") table ∧ schema ≠ some "") ∧
    ∀ (schema other : Option String) (table another : String),
      (named tag).qualify (schema.getD "") table = (named tag).qualify (other.getD "") another ↔
        table = another ∧ writtenSchema schema = writtenSchema other := by
  have accepts (text table : String) (schema : Option String) :
      (named tag).readQualified? text = some (schema, table) ↔
        text = (named tag).qualify (schema.getD "") table ∧ schema ≠ some "" :=
    readQualified?_eq_some_iff (closing_named_ne_dot tag)
  have decoded (schema : Option String) (table : String) :
      (named tag).readQualified? ((named tag).qualify (schema.getD "") table) =
        some (writtenSchema schema, table) := by
    rw [accepts, getD_writtenSchema]
    exact ⟨rfl, writtenSchema_ne_empty schema⟩
  refine ⟨decoded, accepts, ?_⟩
  intro schema other table another
  constructor
  · intro same
    have read := decoded schema table
    rw [same, decoded other another, Option.some.injEq, Prod.mk.injEq] at read
    exact ⟨read.2.symm, read.1.symm⟩
  · intro ⟨tables, schemas⟩
    rw [tables, ← getD_writtenSchema schema, schemas, getD_writtenSchema]

/-- The dot and the marks inside of the schema do not end it. -/
example : (named "synapse").readQualified? "[a]].[b].[c]" = some (some "a].[b", "c") := by decide

end Warehouse.QuoteStyle
