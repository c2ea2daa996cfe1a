import Warehouse.Catalog.Table
import Warehouse.Proofs.Datatype.Making
import Warehouse.Proofs.Dialogue.Exchange
import Warehouse.Proofs.Dialogue.Guarantee

/-! # Tables as they are read

Whatever rows a catalog answers with, a table that is read from it has columns of its
own dialect and is temporary only where the dialect has temporary tables, in Synapse
exactly when its name carries the mark of a session table. -/

namespace Warehouse

open Warehouse.Computation

/-- A column has the dialect for which its type was made. -/
theorem Column.dialect_of_ofName {dialect : Dialect} {spec : Definition.Spec} {name : Value}
    {definition : Definition} {column : Column}
    (made : (liftM (Definition.make dialect spec) : Except Failure Definition) = .ok definition)
    (named : Column.ofName .plain name definition = .ok column) : column.dialect = dialect := by
  obtain ⟨-, -, same⟩ := Column.ofName_eq_ok_iff.mp named
  rw [Column.dialect, same]
  exact Definition.dialect_of_make (lift_type_eq_ok_iff.mp made)

namespace Catalog

/-! ## Columns -/

theorem Synapse.dialect_of_column {row : Row} {result : Column}
    (read : Synapse.column row = .ok result) : result.dialect = .synapse := by
  simp only [Synapse.column, bind_eq_ok_iff] at read
  obtain ⟨_, -, _, -, _, -, _, -, _, -, _, -, definition, made, named⟩ := read
  exact Column.dialect_of_ofName made named

theorem Teradata.dialect_of_column {name : TableName} {row : Row} {result : Column}
    (read : Teradata.column name row = .ok result) : result.dialect = .teradata := by
  simp only [Teradata.column, bind_eq_ok_iff] at read
  obtain ⟨_, -, _, -, _, -, _, -, _, -, _, -, _, -, _, -, definition, made, named⟩ := read
  exact Column.dialect_of_ofName made named

theorem Exasol.dialect_of_column {row : Row} {result : Column}
    (read : Exasol.column row = .ok result) : result.dialect = .exasol := by
  simp only [Exasol.column, bind_eq_ok_iff] at read
  obtain ⟨_, -, _, -, _, -, _, -, _, -, _, -, definition, made, named⟩ := read
  exact Column.dialect_of_ofName made named

theorem Snowflake.dialect_of_column {row : Row} {result : Column}
    (read : Snowflake.column row = .ok result) : result.dialect = .snowflake := by
  simp only [Snowflake.column, bind_eq_ok_iff] at read
  obtain ⟨_, -, _, -, _, -, _, -, _, -, definition, made, named⟩ := read
  exact Column.dialect_of_ofName made named

theorem Snowflake.dialect_of_column? {row : Row} {result : Option Column}
    (read : Snowflake.column? row = .ok result) : ∀ column ∈ result, column.dialect = .snowflake := by
  obtain ⟨describes, -, read⟩ := bind_eq_ok_iff.mp read
  split at read
  · obtain ⟨column, found, rfl⟩ := bind_pure_eq_ok_iff.mp read
    rintro _ ⟨⟩
    exact Snowflake.dialect_of_column found
  · rw [← pure_eq_ok_iff.mp read]
    simp

/-- The columns that a dialect reads are of this dialect. -/
theorem dialect_of_columnsQuery {dialect : Dialect} {name : TableName} {object : ObjectId}
    {query : Query (List Column)} (asked : columnsQuery dialect name object = .ok query)
    {rows : List Row} {columns : List Column} (read : query.read rows = .ok columns) :
    ∀ column ∈ columns, column.dialect = dialect := by
  cases dialect with
  | synapse =>
      obtain ⟨number, -, rfl⟩ := bind_pure_eq_ok_iff.mp asked
      exact forall_of_mapM_eq_ok (fun _ _ => Synapse.dialect_of_column) read
  | teradata =>
      cases asked
      exact forall_of_mapM_eq_ok (fun _ _ => Teradata.dialect_of_column) read
  | exasol =>
      cases asked
      exact forall_of_mapM_eq_ok (fun _ _ => Exasol.dialect_of_column) read
  | snowflake =>
      cases asked
      obtain ⟨found, reads, rfl⟩ := bind_pure_eq_ok_iff.mp read
      intro column member
      obtain ⟨result, present, here⟩ := List.mem_filterMap.mp member
      exact forall_of_mapM_eq_ok (fun _ _ => Snowflake.dialect_of_column?) reads result present
        column here

end Catalog

/-! ## Tables -/

theorem TableDefinition.eq_of_make {name : TableName} {temporary : Bool} {columns : Columns}
    {keys : List Value} {storage : Option Storage} {checkNullable : Bool}
    {definition : TableDefinition}
    (made : TableDefinition.make name temporary columns keys storage checkNullable =
      .ok definition) :
    definition.name = name ∧ definition.temporary = temporary ∧ definition.columns = columns ∧
      definition.primaryKeys = keys ∧ definition.storage = storage := by
  unfold TableDefinition.make at made
  split at made
  · cases made
  · cases made
    exact ⟨rfl, rfl, rfl, rfl, rfl⟩

/-- A table that a dialect can have: its columns are of the dialect, and it is temporary
only where there are temporary tables, in Synapse exactly when its name says so. -/
structure TableDefinition.Fits (dialect : Dialect) (definition : TableDefinition) : Prop where
  dialect_of_mem : ∀ column ∈ definition.columns.toList, column.dialect = dialect
  temporary_iff_mark : dialect = .synapse →
    definition.temporary = hasSessionMark definition.name.table
  not_temporary : dialect = .exasol → definition.temporary = false

namespace Catalog

/-- Whether a table is temporary is settled by its name in Synapse, and never so in
Exasol. -/
theorem guarantees_isTemporary (dialect : Dialect) (name : TableName) :
    (isTemporary dialect name).Guarantees (fun _ => True) fun temporary =>
      (dialect = .synapse → temporary = hasSessionMark name.table) ∧
        (dialect = .exasol → temporary = false) := by
  cases dialect with
  | snowflake => exact Dialogue.guarantees_of_forall (by simp)
  | synapse | teradata | exasol => simp [isTemporary]

@[simp] theorem guarantees_askTable {α : Type} {dialect : Dialect} {name : TableName}
    {query : Query α} {asked : String → Prop} {reached : α → Prop} :
    (askTable dialect name query).Guarantees asked reached ↔
      asked (query.sql.text dialect) ∧
        ∀ rows result, query.read rows = .ok result → reached result := by
  simp only [askTable, Dialogue.guarantees_bind, Dialogue.guarantees_record,
    Dialogue.guarantees_fetch, Dialogue.guarantees_lift]

/-- A query about a table is one exchange, which ends with what is read from its answer. -/
theorem reaches_askTable {α : Type} {dialect : Dialect} {name : TableName} {query : Query α}
    {rows : List Row} {result : α} (read : query.read rows = .ok result) :
    (askTable dialect name query).Reaches [(query.sql.text dialect, rows)] result :=
  (Dialogue.reaches_record _).bind
    ((Dialogue.reaches_fetch _ rows).bind (Dialogue.reaches_lift read))

theorem guarantees_columnsOf (dialect : Dialect) (name : TableName) (object : ObjectId) :
    (columnsOf dialect name object).Guarantees (fun _ => True) fun columns =>
      ∀ column ∈ columns, column.dialect = dialect := by
  simp only [columnsOf, Dialogue.guarantees_bind, Dialogue.guarantees_lift_cell,
    guarantees_askTable, true_and]
  intro query asked rows columns read
  exact dialect_of_columnsQuery asked read

/-- Every table that is read is one that the dialect can have, under the name for which
was asked. -/
theorem guarantees_definition (dialect : Dialect) (name : TableName) :
    (definition dialect name).Guarantees (fun _ => True) fun definition =>
      definition.name = name ∧ definition.Fits dialect := by
  simp only [definition, Dialogue.guarantees_bind, Dialogue.guarantees_lift_table,
    Dialogue.guarantees_record, Dialogue.guarantees_pure]
  refine Dialogue.guarantees_of_forall fun object => ?_
  refine (guarantees_columnsOf dialect name object).mono (fun _ => id) fun found own => ?_
  intro columns collected
  refine Dialogue.guarantees_of_forall fun keys => ?_
  refine (guarantees_isTemporary dialect name).mono (fun _ => id) fun temporary told => ?_
  refine Dialogue.guarantees_of_forall fun storage => ?_
  intro definition made
  obtain ⟨sameName, sameTemporary, sameColumns, -, -⟩ := TableDefinition.eq_of_make made
  refine ⟨sameName, ?_, ?_, ?_⟩
  · rw [sameColumns, Columns.ofList_eq_ok_iff.mp collected]
    exact own
  · rw [sameTemporary, sameName]
    exact told.1
  · rw [sameTemporary]
    exact told.2

end Catalog

end Warehouse
