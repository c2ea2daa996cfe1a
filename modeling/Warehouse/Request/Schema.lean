import Warehouse.Log.Entry
import Warehouse.Request.Fault
import Warehouse.Sql

/-! # Requests about schemas

A schema is created and dropped by one statement each. What the other engines
call a schema is a database in Teradata, which can besides be created with a
size, dropped and emptied under that name. Only Exasol and Snowflake drop a
schema together with what is in it, and do so unless told otherwise. -/

namespace Warehouse

/-- A request for a statement about a schema. A drop without a word about what is
in the schema follows the habit of the dialect. The three requests about
databases exist in Teradata alone. -/
inductive SchemaRequest where
  | create (name : String)
  | drop (name : String) (cascade : Option Bool)
  | createDatabase (name permanent spool : String)
  | dropDatabase (name : String)
  | emptyDatabase (name : String)
deriving DecidableEq, Repr

/-- The space that a database gets if nothing is said, permanent and for spool. -/
def standardSpace : String := "1e9"

/-- The dialect drops a schema together with what is in it if nothing is said. -/
def Dialect.dropsWithContent : Dialect → Bool
  | .synapse | .teradata => false
  | .exasol | .snowflake => true

namespace SchemaRequest

/-- The name that a request is about. -/
def name : SchemaRequest → String
  | create name | drop name _ | createDatabase name _ _ | dropDatabase name
  | emptyDatabase name => name

/-- The request is about a database by that word. -/
def isAboutDatabase : SchemaRequest → Bool
  | createDatabase _ _ _ | dropDatabase _ | emptyDatabase _ => true
  | create _ | drop _ _ => false

/-- The request wants a schema dropped together with what is in it. -/
def cascades (dialect : Dialect) : SchemaRequest → Bool
  | drop _ cascade => cascade.getD dialect.dropsWithContent
  | _ => false

/-- The faults that are found before the name is looked at. Teradata refuses to
drop a database with its content whatever its name. -/
def earlyFaults (dialect : Dialect) (request : SchemaRequest) : List RequestFault :=
  if request.isAboutDatabase ∧ dialect ≠ .teradata then [.noDatabases dialect]
  else if dialect = .teradata ∧ request.cascades dialect then [.cascadeUnsupported dialect]
  else []

/-- The faults that are found once the name has been admitted. -/
def lateFaults (dialect : Dialect) (request : SchemaRequest) : List RequestFault :=
  if dialect = .synapse ∧ request.cascades dialect then [.cascadeUnsupported dialect] else []

/-- All faults of a request, in the order in which they are reported. -/
def faults (dialect : Dialect) (request : SchemaRequest) : List RequestFault :=
  request.earlyFaults dialect ++ dialect.nameFaults .schema request.name ++
    request.lateFaults dialect

/-- The statement that creates a database with the given spaces. -/
def databaseSql (name permanent spool : String) : Sql :=
  [.plain "CREATE DATABASE ", .name name,
    .plain (" AS PERMANENT = " ++ permanent ++ ", SPOOL = " ++ spool ++ ";")]

/-- The statement for a request without faults. -/
def sql (dialect : Dialect) (request : SchemaRequest) : Sql :=
  match request with
  | create name =>
      if dialect = .teradata then databaseSql name standardSpace standardSpace
      else [.plain "CREATE SCHEMA ", .name name]
  | drop name _ =>
      if dialect = .teradata then [.plain "DROP DATABASE ", .name name]
      else [.plain "DROP SCHEMA ", .name name] ++
        (if request.cascades dialect then [.plain " CASCADE"] else [])
  | createDatabase name permanent spool => databaseSql name permanent spool
  | dropDatabase name => [.plain "DROP DATABASE ", .name name]
  | emptyDatabase name => [.plain "DELETE DATABASE ", .name name, .plain " ALL"]

/-- The statement for a request, or its first fault. -/
def compile (dialect : Dialect) (request : SchemaRequest) : Except RequestFault Sql :=
  match request.faults dialect with
  | [] => .ok (request.sql dialect)
  | fault :: _ => .error fault

/-- The records that a request writes: one once its name has been admitted, even
if the request is refused after that. -/
def entries (dialect : Dialect) (request : SchemaRequest) : List Log.Entry :=
  if request.earlyFaults dialect = [] ∧ dialect.nameFaults .schema request.name = [] then
    [{ level := .debug
       logger := "table_backend_utils.database.builders.base"
       event := "schema_query_builder.validated"
       fields := [("dialect", .text dialect.name), ("schema", .text request.name)] }]
  else []

end SchemaRequest

end Warehouse
