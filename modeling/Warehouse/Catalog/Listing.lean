import Warehouse.Catalog.Query

/-! # Lists of names from a catalog

A catalog lists the tables and views of a schema and the users and roles of a
database. Users and roles can be restricted to those whose names hold a given
text; the wildcards of a pattern keep their meaning in it. The order is that of
the catalog. -/

namespace Warehouse

/-- What is to be listed. -/
inductive Listing where
  | tables (schema : String)
  | views (schema : String)
  | users (like : Option String)
  | roles (like : Option String)
deriving DecidableEq, Repr

namespace Listing

/-- A condition on a name, if there is a text that it has to hold. -/
def pattern (opening : String) : Option String → Sql
  | none => []
  | some like => [.plain opening, .literal ("%" ++ like ++ "%")]

/-- The statement for Synapse. -/
def synapseSql : Listing → Sql
  | tables schema => [
      .plain "SELECT [name] FROM sys.tables WHERE [schema_id] = SCHEMA_ID(N",
      .literal schema, .plain ")"]
  | views schema => [
      .plain "SELECT [name] FROM sys.views WHERE [schema_id] = SCHEMA_ID(N",
      .literal schema, .plain ")"]
  | users like =>
      .plain "SELECT [name] FROM sys.database_principals WHERE [type] IN ('S', 'U', 'E', 'X')" ::
        pattern " AND [name] LIKE N" like
  | roles like =>
      .plain "SELECT [name] FROM sys.database_principals WHERE [type] = 'R'" ::
        pattern " AND [name] LIKE N" like

/-- The statement for Teradata, with the kinds of tables and views that count. -/
def teradataSql : Listing → Sql
  | tables database => [
      .plain "SELECT \"TableName\" FROM \"DBC\".\"TablesV\" WHERE \"DatabaseName\" = ",
      .literal database, .plain " AND \"TableKind\" IN ('T', 'O')"]
  | views database => [
      .plain "SELECT \"TableName\" FROM \"DBC\".\"TablesV\" WHERE \"DatabaseName\" = ",
      .literal database, .plain " AND \"TableKind\" IN ('V')"]
  | users like =>
      .plain "SELECT \"UserName\" FROM \"DBC\".\"UsersV\"" ::
        pattern " WHERE \"UserName\" LIKE " like
  | roles like =>
      .plain "SELECT \"RoleName\" FROM \"DBC\".\"RoleInfoV\"" ::
        pattern " WHERE \"RoleName\" LIKE " like

/-- The statement for Exasol. -/
def exasolSql : Listing → Sql
  | tables schema => [
      .plain "SELECT \"TABLE_NAME\" FROM \"SYS\".\"EXA_ALL_TABLES\" WHERE \"TABLE_SCHEMA\" = ",
      .literal schema]
  | views schema => [
      .plain "SELECT \"VIEW_NAME\" FROM \"SYS\".\"EXA_ALL_VIEWS\" WHERE \"VIEW_SCHEMA\" = ",
      .literal schema]
  | users like =>
      .plain "SELECT \"USER_NAME\" FROM \"SYS\".\"EXA_ALL_USERS\"" ::
        pattern " WHERE \"USER_NAME\" LIKE " like
  | roles like =>
      .plain "SELECT \"ROLE_NAME\" FROM \"SYS\".\"EXA_ALL_ROLES\"" ::
        pattern " WHERE \"ROLE_NAME\" LIKE " like

/-- The statement for Snowflake. -/
def snowflakeSql : Listing → Sql
  | tables schema => [.plain "SHOW TABLES IN SCHEMA ", .name schema]
  | views schema => [.plain "SHOW VIEWS IN SCHEMA ", .name schema]
  | users like => .plain "SHOW USERS" :: pattern " LIKE " like
  | roles like => .plain "SHOW ROLES" :: pattern " LIKE " like

/-- The column in which the names are found. -/
def nameColumn (dialect : Dialect) (listing : Listing) : String :=
  match dialect, listing with
  | .synapse, _ | .snowflake, _ => "name"
  | .teradata, tables _ | .teradata, views _ => "TableName"
  | .teradata, users _ => "UserName"
  | .teradata, roles _ => "RoleName"
  | .exasol, tables _ => "TABLE_NAME"
  | .exasol, views _ => "VIEW_NAME"
  | .exasol, users _ => "USER_NAME"
  | .exasol, roles _ => "ROLE_NAME"

/-- The query for a list of names. -/
def query (dialect : Dialect) (listing : Listing) : Query (List (Option String)) where
  sql := match dialect with
    | .synapse => listing.synapseSql
    | .teradata => listing.teradataSql
    | .exasol => listing.exasolSql
    | .snowflake => listing.snowflakeSql
  read rows := rows.mapM (·.text? (listing.nameColumn dialect))

/-- The record of a statement for a list of names. -/
def queryEntry (dialect : Dialect) (statement : String) : Log.Entry where
  level := .debug
  logger := "table_backend_utils.database.reflection.base"
  event := "database_reflection.query"
  fields := [("dialect", .text dialect.name), ("sql", .text statement)]

/-- Asks the connection for a list of names. -/
def names (dialect : Dialect) (listing : Listing) : Dialogue (List (Option String)) := do
  let query := listing.query dialect
  let statement := query.sql.text dialect
  Dialogue.record (queryEntry dialect statement)
  let rows ← Dialogue.fetch statement
  query.read rows

end Listing

end Warehouse
