import Warehouse.Session.Step

/-! # Questions composed of queries

Every question about a table is put together from a few queries, one report and one record.
What sequences inherit from their parts therefore holds of all questions about a table once
it holds of these (`Session.TableQuestion.holds_ask`). -/

namespace Warehouse

variable {α β : Type}

/-- A property of dialogues, whatever they result in. -/
abbrev Dialogue.Property := (α : Type) → Dialogue α → Prop

/-- The property holds where nothing is asked or written, and sequences inherit it from their
parts. -/
structure Dialogue.Property.Inherited (holds : Dialogue.Property) : Prop where
  ofExcept : ∀ {α} (computation : Except Failure α), holds α (.ofExcept computation)
  bind : ∀ {α β} {dialogue : Dialogue α} {next : α → Dialogue β},
    holds α dialogue → (∀ result, holds β (next result)) → holds β (dialogue >>= next)

namespace Dialogue.Property.Inherited

variable {holds : Dialogue.Property} (inherited : holds.Inherited)

include inherited

theorem pure (result : α) : holds α (Pure.pure result) := inherited.ofExcept (.ok result)

theorem map {dialogue : Dialogue α} (early : holds α dialogue) (change : α → β) :
    holds β (change <$> dialogue) := by
  rw [← bind_pure_comp]
  exact inherited.bind early fun _ => inherited.pure _

end Dialogue.Property.Inherited

namespace Catalog

variable {holds : Dialogue.Property} {dialect : Dialect} {name : TableName}

/-- The property holds of all queries about a table, of the report that it is missing and of
the record that it has been read. -/
structure HoldsOfQueries (holds : Dialogue.Property) (dialect : Dialect) (name : TableName) :
    Prop where
  lookup : holds _ (askTable dialect name (lookup dialect name))
  temporary : holds _ (askTable dialect name (Snowflake.temporary name))
  count : holds _ (askTable dialect name (countQuery dialect name))
  columns : ∀ {object query}, columnsQuery dialect name object = .ok query →
    holds _ (askTable dialect name query)
  keys : ∀ {object query}, keysQuery dialect name object = .ok query →
    holds _ (askTable dialect name query)
  distribution : ∀ {object query}, Synapse.distribution name object = .ok query →
    holds _ (askTable dialect name query)
  index : ∀ {object query}, Synapse.index name object = .ok query →
    holds _ (askTable dialect name query)
  missing : ∀ {α}, holds α (reportMissing dialect name)
  loaded : ∀ definition, holds _ (.record (loadedEntry dialect definition))

variable (inherited : holds.Inherited) (queries : HoldsOfQueries holds dialect name)

section

include inherited

/-- A query that may not come about inherits what holds of it whenever it does. -/
theorem holds_askTable_of {asking : Except CellFault (Query α)}
    (asked : ∀ query, asking = .ok query → holds α (askTable dialect name query)) :
    holds α (do askTable dialect name (← asking)) := by
  cases asking with
  | error fault => exact inherited.ofExcept (.error (.cell fault))
  | ok query => exact asked query rfl

theorem holds_askFound {query : Query (Option α)} (asked : holds _ (askTable dialect name query))
    (missing : holds α (reportMissing dialect name)) :
    holds α (askFound dialect name query) := by
  apply inherited.bind asked
  intro found
  cases found with
  | none => exact missing
  | some object => exact inherited.pure object

include queries

theorem holds_objectId_bind {next : ObjectId → Dialogue α}
    (behind : ∀ object, holds α (next object)) : holds α (objectId dialect name >>= next) :=
  inherited.bind (holds_askFound inherited queries.lookup queries.missing) behind

theorem holds_columnsOf (object : ObjectId) : holds _ (columnsOf dialect name object) :=
  holds_askTable_of inherited fun _ => queries.columns

theorem holds_keysOf (object : ObjectId) : holds _ (keysOf dialect name object) :=
  holds_askTable_of inherited fun _ => queries.keys

theorem holds_isTemporary : holds _ (isTemporary dialect name) := by
  cases dialect with
  | synapse | teradata | exasol => exact inherited.pure _
  | snowflake => exact holds_askFound inherited queries.temporary queries.missing

theorem holds_storageOf (object : ObjectId) : holds _ (storageOf dialect name object) := by
  cases dialect with
  | teradata | exasol | snowflake => exact inherited.pure _
  | synapse =>
      apply inherited.bind (holds_askTable_of inherited fun _ => queries.distribution)
      intro distribution
      apply inherited.bind (holds_askTable_of inherited fun _ => queries.index)
      intro index
      exact inherited.pure _

theorem holds_definition : holds _ (definition dialect name) := by
  apply holds_objectId_bind inherited queries
  intro object
  apply inherited.bind (holds_columnsOf inherited queries object)
  intro found
  apply inherited.bind (inherited.ofExcept _)
  intro columns
  apply inherited.bind (holds_keysOf inherited queries object)
  intro keys
  apply inherited.bind (holds_isTemporary inherited queries)
  intro temporary
  apply inherited.bind (holds_storageOf inherited queries object)
  intro storage
  apply inherited.bind (inherited.ofExcept _)
  intro definition
  exact inherited.bind (queries.loaded definition) fun _ => inherited.pure _

end

end Catalog

open Catalog

/-- What sequences inherit from their parts holds of all questions about a table if it holds
of the queries about it. The storage is asked for in the words of Synapse everywhere. -/
theorem Session.TableQuestion.holds_ask {holds : Dialogue.Property} {name : TableName}
    (inherited : holds.Inherited) (queries : ∀ dialect, HoldsOfQueries holds dialect name)
    (dialect : Dialect) (question : TableQuestion) :
    holds _ (question.ask dialect name) := by
  have here := queries dialect
  have synapse := queries .synapse
  cases question with
  | objectId => exact inherited.map (holds_askFound inherited here.lookup here.missing) _
  | isTemporary => exact inherited.map (holds_isTemporary inherited here) _
  | definition => exact inherited.map (holds_definition inherited here) _
  | rowCount => exact inherited.map here.count _
  | columnNames =>
      refine inherited.map (holds_objectId_bind inherited here fun object => ?_) _
      exact inherited.bind (holds_columnsOf inherited here object) fun _ => inherited.pure _
  | columns =>
      refine inherited.map (holds_objectId_bind inherited here fun object => ?_) _
      exact inherited.bind (holds_columnsOf inherited here object) fun _ => inherited.ofExcept _
  | primaryKeys =>
      refine inherited.map (holds_objectId_bind inherited here fun object => ?_) _
      exact holds_keysOf inherited here object
  | distribution =>
      refine inherited.map (holds_objectId_bind inherited synapse fun object => ?_) _
      exact holds_askTable_of inherited fun _ => synapse.distribution
  | index =>
      refine inherited.map (holds_objectId_bind inherited synapse fun object => ?_) _
      exact holds_askTable_of inherited fun _ => synapse.index

end Warehouse
