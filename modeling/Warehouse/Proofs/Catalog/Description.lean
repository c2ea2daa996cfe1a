import Warehouse.Proofs.Catalog.Reading
import Warehouse.Proofs.Table.Making
import Warehouse.Proofs.Text.Case
import Warehouse.Proofs.Text.Numeral

/-! # Tables put together from descriptions

A table is read in parts: that it is there, its columns, its keys, whether it is
temporary, how it is stored. Where each part is reached by an exchange, the table is
reached by all of them in this order, with its columns declared plainly
(`Catalog.reaches_definition_of_parts`). Synapse is asked about the storage as well and
Snowflake about the kind of a table; Teradata and Exasol describe permanent tables only,
by three queries. A table whose columns cannot be read is not read
(`Catalog.outcome_definition_of_unread`). -/

namespace Warehouse.Catalog

open Warehouse.Computation

/-- The rows have the names, in their order, under the given column. -/
def RowsName (key : String) (rows : List Row) (names : List Value) : Prop :=
  List.Forall₂ (fun row name => ∃ text, name = .text text ∧ row.text? key = .ok (some text))
    rows names

theorem RowsName.namesUnder_eq {key : String} {rows : List Row} {names : List Value}
    (named : RowsName key rows names) : namesUnder key rows = .ok names := by
  apply mapM_eq_ok_iff.mpr
  apply named.imp
  rintro row _ ⟨text, rfl, cell⟩
  rw [cell]
  rfl

/-- A cell that tells an integer is read as the numeral of this. -/
theorem numeral_of_integer? {row : Row} {key text : String} {number : Int}
    (cell : row.integer? key = .ok (some number)) (shown : Text.ofInteger? number = some text) :
    row.numeral key = .ok text := by
  rw [Row.numeral, cell]
  exact Value.asText_number_eq_ok_iff.mpr shown

/-- Characters of two bytes each are half as many as their bytes. -/
theorem halved_double (size : Nat) : halved (some (2 * size : Int)) = .ok (size : Int) := by
  have half : Int.fdiv (2 * size) 2 = size := by
    rw [Int.fdiv_eq_ediv_of_nonneg _ (by decide)]
    omega
  rw [halved, half]

variable (dialect : Dialect) {name : TableName} {object : ObjectId} {rows : List Row}

/-! ## Columns of a dialect -/

section Column

variable {dialect} {column : Column} (own : column.dialect = dialect)

include own

theorem type_mem_of_dialect : column.definition.type ∈ dialect.typeNames :=
  own ▸ column.definition.type_mem

/-- The type of a column of a dialect without character sets is made from what it says. -/
theorem make_of_dialect (plain : dialect ≠ .teradata) :
    Definition.make dialect {
      type := column.definition.type
      length := .ofText? (column.definition.length.map Length.text)
      nullable := column.definition.nullable, default := column.definition.default } =
        .ok column.definition := by
  subst own
  exact Definition.make_of_parts plain

end Column

/-! ## Parts of a table -/

/-- A query that finds something of a table is one exchange. -/
theorem reaches_askFound {α : Type} {query : Query (Option α)} {found : α}
    (read : query.read rows = .ok (some found)) :
    (askFound dialect name query).Reaches [(query.sql.text dialect, rows)] found :=
  (reaches_askTable read).bind (.done _)

theorem reaches_columnsOf {query : Query (List Column)} {columns : List Column}
    (asked : columnsQuery dialect name object = .ok query) (read : query.read rows = .ok columns) :
    (columnsOf dialect name object).Reaches [(query.sql.text dialect, rows)] columns :=
  (Dialogue.reaches_lift_cell asked).bind (reaches_askTable read)

theorem reaches_keysOf {query : Query (List Value)} {keys : List Value}
    (asked : keysQuery dialect name object = .ok query) (read : query.read rows = .ok keys) :
    (keysOf dialect name object).Reaches [(query.sql.text dialect, rows)] keys :=
  (Dialogue.reaches_lift_cell asked).bind (reaches_askTable read)

variable {dialect} {definition : TableDefinition}

theorem reaches_definition_of_parts {found columns keys kind stored : Exchange}
    (objectFound : (objectId dialect definition.name).Reaches found object)
    (columnsRead : (columnsOf dialect definition.name object).Reaches columns
      (definition.columns.toList.map Column.plain))
    (keysRead : (keysOf dialect definition.name object).Reaches keys definition.primaryKeys)
    (kindRead : (isTemporary dialect definition.name).Reaches kind definition.temporary)
    (storageRead : (storageOf dialect definition.name object).Reaches stored definition.storage) :
    (Catalog.definition dialect definition.name).Reaches
      (found ++ (columns ++ (keys ++ (kind ++ stored)))) definition.plain := by
  have collected := Dialogue.reaches_lift_table definition.columns.ofList_plain
  have made := Dialogue.reaches_lift_table definition.plain.make_parts
  have steps : found ++ (columns ++ (keys ++ (kind ++ stored))) =
      found ++ (columns ++ ([] ++ (keys ++ (kind ++ (stored ++ ([] ++ ([] ++ []))))))) := by
    simp only [List.nil_append, List.append_nil]
  rw [steps]
  exact objectFound.bind <| columnsRead.bind <| collected.bind <| keysRead.bind <|
    kindRead.bind <| storageRead.bind <| made.bind <| (Dialogue.reaches_record _).bind (.done _)

/-- Over every connection that gives the answers of the exchange, a table is read that is the
same. -/
theorem exists_read_of_reaches {σ : Type} {exchange : Exchange}
    (reached : (Catalog.definition dialect definition.name).Reaches exchange definition.plain)
    {connection : Connection σ} {state : σ} (answers : connection.Answers state exchange) :
    ∃ read, ((Catalog.definition dialect definition.name).run connection state).outcome =
        .ok read ∧ read.sameAs definition = true :=
  ⟨definition.plain, (reached.run_eq answers).1, definition.sameAs_plain⟩

/-! ## Columns that cannot be read -/

variable {failure : Failure}

theorem fails_askTable {α : Type} {query : Query α} (unread : query.read rows = .error failure) :
    (askTable dialect name query).Fails [(query.sql.text dialect, rows)] failure :=
  (Dialogue.reaches_record _).bind_fails
    ((Dialogue.reaches_fetch _ rows).bind_fails (Dialogue.fails_lift unread))

/-- Whatever is done with the columns of a table that is found, it fails as their reading does,
behind the two statements that find the table and ask for its columns. -/
theorem fails_columnsOf_bind {α : Type} {found : List Row} {query : Query (List Column)}
    (located : (lookup dialect name).read found = .ok (some object))
    (asked : columnsQuery dialect name object = .ok query)
    (unread : query.read rows = .error failure) (next : ObjectId → List Column → Dialogue α) :
    (objectId dialect name >>= fun object => columnsOf dialect name object >>= next object).Fails
      [((lookup dialect name).sql.text dialect, found),
        (query.sql.text dialect, rows)] failure := by
  apply (reaches_askFound dialect located).bind_fails
  apply Dialogue.Fails.bind
  exact (Dialogue.reaches_lift_cell asked).bind_fails (fails_askTable unread)

/-- A table whose columns cannot be read is not read. -/
theorem outcome_definition_of_unread {σ : Type} {found : List Row} {query : Query (List Column)}
    (located : (lookup dialect name).read found = .ok (some object))
    (asked : columnsQuery dialect name object = .ok query)
    (unread : query.read rows = .error failure) {connection : Connection σ} {state : σ}
    (answers : connection.Answers state [((lookup dialect name).sql.text dialect, found),
      (query.sql.text dialect, rows)]) :
    ((Catalog.definition dialect name).run connection state).outcome = .error failure :=
  ((fails_columnsOf_bind located asked unread _).run_eq answers).1

/-! ## Permanent tables -/

/-- What an engine answers to three queries about a table. -/
structure Description where
  found : List Row
  columns : List Row
  keys : List Row

namespace Description

/-- The three queries, each with its answer. -/
def exchange (description : Description) (dialect : Dialect) (found : Query (Option ObjectId))
    (columns : Query (List Column)) (keys : Query (List Value)) : Exchange := [
  (found.sql.text dialect, description.found), (columns.sql.text dialect, description.columns),
  (keys.sql.text dialect, description.keys)]

/-- The answers describe a permanent table: a row for the table, with anything in the column
of its identification, a row for each column, and a row for each key with its name. -/
structure Describes (description : Description) (objectKey nameKey : String)
    (describesColumn : Row → Column → Prop) (definition : TableDefinition) : Prop where
  found : ∃ first others object, description.found = first :: others ∧
    first.text? objectKey = .ok object
  permanent : definition.temporary = false
  columns : List.Forall₂ describesColumn description.columns definition.columns.toList
  keys : RowsName nameKey description.keys definition.primaryKeys
  storage : definition.storage = none

/-- A described table is reached if the engine takes the columns of the description for what
they are there, reads each column for itself, and has neither temporary tables nor storages. -/
theorem Describes.reaches_definition {objectKey nameKey : String}
    {describesColumn : Row → Column → Prop} {description : Description}
    (describes : description.Describes objectKey nameKey describesColumn definition)
    {columns : Query (List Column)} {keys : Query (List Value)} {read : Row → Except Failure Column}
    (found : ∀ first others, (lookup dialect definition.name).read (first :: others) =
      do return some (← first.text? objectKey))
    (columnsAsked : ∀ object, columnsQuery dialect definition.name object = .ok columns)
    (columnsRead : ∀ rows, columns.read rows = rows.mapM read)
    (each : ∀ row column, describesColumn row column → read row = .ok column.plain)
    (keysAsked : ∀ object, keysQuery dialect definition.name object = .ok keys)
    (keysRead : ∀ rows, keys.read rows = liftM (namesUnder nameKey rows))
    (permanent : isTemporary dialect definition.name = return false)
    (bare : ∀ object, storageOf dialect definition.name object = return none) :
    (Catalog.definition dialect definition.name).Reaches
      (description.exchange dialect (lookup dialect definition.name) columns keys)
      definition.plain := by
  obtain ⟨first, others, object, rows, cell⟩ := describes.found
  have objectFound : (lookup dialect definition.name).read description.found =
      .ok (some object) := by
    rw [rows, found, cell]
    rfl
  have columnsFound : columns.read description.columns =
      .ok (definition.columns.toList.map Column.plain) := by
    rw [columnsRead, mapM_eq_ok_iff, List.forall₂_map_right_iff]
    exact describes.columns.imp each
  have keysFound : keys.read description.keys = .ok definition.primaryKeys := by
    rw [keysRead, describes.keys.namesUnder_eq]
    rfl
  have kind : (isTemporary dialect definition.name).Reaches [] definition.temporary := by
    rw [permanent, describes.permanent]
    exact .done _
  have stored : (storageOf dialect definition.name object).Reaches [] definition.storage := by
    rw [bare, describes.storage]
    exact .done _
  exact reaches_definition_of_parts (reaches_askFound dialect objectFound)
    (reaches_columnsOf dialect (columnsAsked object) columnsFound)
    (reaches_keysOf dialect (keysAsked object) keysFound) kind stored

end Description

end Warehouse.Catalog
