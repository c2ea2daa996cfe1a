import Warehouse.Catalog.Listing
import Warehouse.Catalog.Table
import Warehouse.Proofs.Sql.Template

/-! # The statements that catalogs are read by

The statements about tables and the lists of names, each as a template that shows how
an engine reads it. Only the number of a Synapse table is part of a template, and only
of those that are about a table of this number. -/

namespace Warehouse

/-- Plain texts, each with the fixed name that stands behind it, in front of fixed
pieces. -/
def Sql.words (texts : List (String × String)) (rest : Sql) : Sql :=
  texts.flatMap (fun (text, identifier) => [.plain text, .name identifier]) ++ rest

namespace Catalog

/-- What a statement about a table is to find out. -/
inductive Purpose where
  | object
  | columns
  | keys
  | temporary
  | distribution
  | index
  | count
deriving DecidableEq, Repr

/-- The statements for Synapse about a table that the given views describe. -/
def Synapse.template (views : String) : Purpose → Option Template
  | .object => some [
      .run ["SELECT OBJECT_ID(N"], .literal .object, .run [") AS ", .name "object_id"]]
  | .columns => some [
      .run (Sql.words [
        ("SELECT c.", "name"), (" AS ", "column_name"), (", t.", "name"), (" AS ", "type_name"),
        (", c.", "max_length"), (", c.", "precision"), (", c.", "scale"), (", c.", "is_nullable"),
        (", dc.", "definition"), (" AS ", "default_value"),
        (" FROM " ++ views ++ ".columns c JOIN " ++ views ++ ".types t ON c.", "user_type_id"),
        (" = t.", "user_type_id"),
        (" LEFT JOIN " ++ views ++ ".default_constraints dc ON dc.", "object_id"),
        (" = c.", "default_object_id"), (" WHERE c.", "object_id")] []),
      .numbered " = " " ORDER BY c.", .run [.name "column_id"]]
  | .keys => some [
      .run (Sql.words [
        ("SELECT c.", "name"), (" AS ", "column_name"),
        (" FROM " ++ views ++ ".indexes i JOIN " ++ views ++ ".index_columns ic ON ic.",
          "object_id"),
        (" = i.", "object_id"), (" AND ic.", "index_id"), (" = i.", "index_id"),
        (" JOIN " ++ views ++ ".columns c ON c.", "object_id"), (" = ic.", "object_id"),
        (" AND c.", "column_id"), (" = ic.", "column_id"), (" WHERE i.", "object_id")] []),
      .numbered " = " " AND i.",
      .run [.name "is_primary_key", " = 1 ORDER BY ic.", .name "key_ordinal"]]
  | .distribution => some [
      .run (Sql.words [
        ("SELECT dp.", "distribution_policy_desc"), (" AS ", "distribution_name"),
        (", c.", "name"), (" AS ", "column_name"),
        (" FROM " ++ views ++ ".pdw_table_distribution_properties dp LEFT JOIN " ++ views ++
          ".pdw_column_distribution_properties cdp ON cdp.", "object_id"),
        (" = dp.", "object_id"), (" AND cdp.", "distribution_ordinal"),
        (" = 1 LEFT JOIN " ++ views ++ ".columns c ON c.", "object_id"), (" = cdp.", "object_id"),
        (" AND c.", "column_id"), (" = cdp.", "column_id"), (" WHERE dp.", "object_id")] []),
      .numbered " = " "", .run []]
  | .index => some [
      .run (Sql.words [
        ("SELECT i.", "type_desc"), (" AS ", "index_type"), (", c.", "name"),
        (" AS ", "column_name"),
        (" FROM " ++ views ++ ".indexes i LEFT JOIN " ++ views ++ ".index_columns ic ON ic.",
          "object_id"),
        (" = i.", "object_id"), (" AND ic.", "index_id"), (" = i.", "index_id"),
        (" AND ic.", "key_ordinal"),
        (" > 0 LEFT JOIN " ++ views ++ ".columns c ON c.", "object_id"), (" = ic.", "object_id"),
        (" AND c.", "column_id"), (" = ic.", "column_id"), (" WHERE i.", "object_id")] []),
      .numbered " = " " AND i.",
      .run [.name "index_id", " IN (0, 1) ORDER BY ic.", .name "key_ordinal"]]
  | .count => some [
      .run ["SELECT COUNT_BIG(*) AS ", .name "count", " FROM "],
      .name .schema, .run ["."], .name .table]
  | .temporary => none

/-- The statements for Teradata. -/
def Teradata.template : Purpose → Option Template
  | .object => some [
      .run (Sql.words [
        ("SELECT t.", "TVMId"), (" AS ", "object_id"), (" FROM ", "DBC"), (".", "TVM"),
        (" t JOIN ", "DBC"), (".", "Dbase"), (" d ON d.", "DatabaseId"), (" = t.", "DatabaseId"),
        (" WHERE d.", "DatabaseName")] [" = "]),
      .literal .schema, .run [" AND t.", .name "TVMName", " = "], .literal .table]
  | .columns => some [
      .run (Sql.words [
        ("SELECT ", "ColumnName"), (", ", "ColumnType"), (", ", "ColumnLength"),
        (", ", "DecimalTotalDigits"), (", ", "DecimalFractionalDigits"), (", ", "Nullable"),
        (", ", "DefaultValue"), (", ", "CharType"), (" FROM ", "DBC"), (".", "ColumnsV"),
        (" WHERE ", "DatabaseName")] [" = "]),
      .literal .schema, .run [" AND ", .name "TableName", " = "], .literal .table,
      .run [" ORDER BY ", .name "ColumnId"]]
  | .keys => some [
      .run (Sql.words [
        ("SELECT ", "ColumnName"), (" FROM ", "DBC"), (".", "IndicesV"),
        (" WHERE ", "DatabaseName")] [" = "]),
      .literal .schema, .run [" AND ", .name "TableName", " = "], .literal .table,
      .run [" AND ", .name "IndexType", " IN (", .literal "K", ", ", .literal "P", ", ",
        .literal "Q", ") AND ", .name "UniqueFlag", " = ", .literal "Y", " ORDER BY ",
        .name "ColumnPosition"]]
  | .count => some [
      .run ["SELECT COUNT(*) AS ", .name "count", " FROM "],
      .name .schema, .run ["."], .name .table]
  | .temporary | .distribution | .index => none

/-- The statements for Exasol. -/
def Exasol.template : Purpose → Option Template
  | .object => some [
      .run (Sql.words [
        ("SELECT ", "TABLE_OBJECT_ID"), (" FROM ", "SYS"), (".", "EXA_ALL_TABLES"),
        (" WHERE ", "TABLE_SCHEMA")] [" = "]),
      .literal .schema, .run [" AND ", .name "TABLE_NAME", " = "], .literal .table]
  | .columns => some [
      .run (Sql.words [
        ("SELECT ", "COLUMN_NAME"), (", ", "COLUMN_TYPE"), (", ", "COLUMN_IS_NULLABLE"),
        (", ", "COLUMN_DEFAULT"), (" FROM ", "SYS"), (".", "EXA_ALL_COLUMNS"),
        (" WHERE ", "COLUMN_SCHEMA")] [" = "]),
      .literal .schema, .run [" AND ", .name "COLUMN_TABLE", " = "], .literal .table,
      .run [" ORDER BY ", .name "COLUMN_ORDINAL_POSITION"]]
  | .keys => some [
      .run (Sql.words [
        ("SELECT ", "COLUMN_NAME"), (" FROM ", "SYS"), (".", "EXA_ALL_CONSTRAINT_COLUMNS"),
        (" WHERE ", "CONSTRAINT_SCHEMA")] [" = "]),
      .literal .schema, .run [" AND ", .name "CONSTRAINT_TABLE", " = "], .literal .table,
      .run [" AND ", .name "CONSTRAINT_TYPE", " = ", .literal "PRIMARY KEY", " ORDER BY ",
        .name "ORDINAL_POSITION"]]
  | .count => some [
      .run ["SELECT COUNT(*) AS ", .name "count", " FROM "],
      .name .schema, .run ["."], .name .table]
  | .temporary | .distribution | .index => none

/-- The statements for Snowflake. -/
def Snowflake.template : Purpose → Option Template
  | .object | .temporary => some [
      .run ["SHOW TABLES LIKE "], .literal .table, .run [" IN SCHEMA "], .name .schema]
  | .columns => some [.run ["DESC TABLE "], .name .schema, .run ["."], .name .table]
  | .keys => some [
      .run ["SHOW PRIMARY KEYS IN TABLE "], .name .schema, .run ["."], .name .table]
  | .count => some [
      .run ["SELECT COUNT(*) AS ", .name "count", " FROM "],
      .name .schema, .run ["."], .name .table]
  | .distribution | .index => none

/-- The views in which tables are described, of the session or of the database. -/
def Synapse.viewsFor (marked : Bool) : String := if marked then "tempdb.sys" else "sys"

/-- The statement of a dialect with a purpose, where it has one. In Synapse it depends on
whether the table is one of the session. -/
def template (dialect : Dialect) (marked : Bool) (purpose : Purpose) : Option Template :=
  match dialect with
  | .synapse => Synapse.template (Synapse.viewsFor marked) purpose
  | .teradata => Teradata.template purpose
  | .exasol => Exasol.template purpose
  | .snowflake => Snowflake.template purpose

/-- Every statement about a table begins as a query and can be read. -/
theorem readable_template (dialect : Dialect) (marked : Bool) (purpose : Purpose) :
    ∀ found ∈ template dialect marked purpose,
      found.startsAsQuery = true ∧ Sql.Alternates dialect.quoteStyle (found.fill .blank) := by
  cases dialect <;> cases purpose <;> cases marked <;> decide +kernel

end Catalog

/-! ## Lists of names -/

namespace Listing

/-- What is listed, and whether a text restricts it. -/
inductive Kind where
  | tables
  | views
  | users (restricted : Bool)
  | roles (restricted : Bool)
deriving DecidableEq, Repr

/-- The kind of a list. -/
def kind : Listing → Kind
  | tables _ => .tables
  | views _ => .views
  | users like => .users like.isSome
  | roles like => .roles like.isSome

/-- The template of a list of all names, or of those that are like a pattern. -/
def ofNames (restricted : Bool) (all like : Sql) : Template :=
  if restricted then [.run like, .literal .pattern] else [.run all]

/-- The start of a statement about the principals of Synapse. -/
def principals (selection : Sql) : Sql :=
  Sql.words [("SELECT ", "name"), (" FROM sys.database_principals WHERE ", "type")] selection

/-- The statement of a dialect for a list of the kind. -/
def template (dialect : Dialect) (kind : Kind) : Template :=
  match dialect, kind with
  | .synapse, .tables => [
      .run (Sql.words [
        ("SELECT ", "name"), (" FROM sys.tables WHERE ", "schema_id")] [" = SCHEMA_ID(N"]),
      .literal .schema, .run [")"]]
  | .synapse, .views => [
      .run (Sql.words [
        ("SELECT ", "name"), (" FROM sys.views WHERE ", "schema_id")] [" = SCHEMA_ID(N"]),
      .literal .schema, .run [")"]]
  | .synapse, .users restricted =>
      ofNames restricted
        (principals [" IN (", .literal "S", ", ", .literal "U", ", ", .literal "E", ", ",
          .literal "X", ")"])
        (principals [" IN (", .literal "S", ", ", .literal "U", ", ", .literal "E", ", ",
          .literal "X", ") AND ", .name "name", " LIKE N"])
  | .synapse, .roles restricted =>
      ofNames restricted (principals [" = ", .literal "R"])
        (principals [" = ", .literal "R", " AND ", .name "name", " LIKE N"])
  | .teradata, .tables => [
      .run (Sql.words [
        ("SELECT ", "TableName"), (" FROM ", "DBC"), (".", "TablesV"),
        (" WHERE ", "DatabaseName")] [" = "]),
      .literal .schema,
      .run [" AND ", .name "TableKind", " IN (", .literal "T", ", ", .literal "O", ")"]]
  | .teradata, .views => [
      .run (Sql.words [
        ("SELECT ", "TableName"), (" FROM ", "DBC"), (".", "TablesV"),
        (" WHERE ", "DatabaseName")] [" = "]),
      .literal .schema, .run [" AND ", .name "TableKind", " IN (", .literal "V", ")"]]
  | .teradata, .users restricted =>
      let users := [("SELECT ", "UserName"), (" FROM ", "DBC"), (".", "UsersV")]
      ofNames restricted (Sql.words users [])
        (Sql.words users [" WHERE ", .name "UserName", " LIKE "])
  | .teradata, .roles restricted =>
      let roles := [("SELECT ", "RoleName"), (" FROM ", "DBC"), (".", "RoleInfoV")]
      ofNames restricted (Sql.words roles [])
        (Sql.words roles [" WHERE ", .name "RoleName", " LIKE "])
  | .exasol, .tables => [
      .run (Sql.words [
        ("SELECT ", "TABLE_NAME"), (" FROM ", "SYS"), (".", "EXA_ALL_TABLES"),
        (" WHERE ", "TABLE_SCHEMA")] [" = "]),
      .literal .schema]
  | .exasol, .views => [
      .run (Sql.words [
        ("SELECT ", "VIEW_NAME"), (" FROM ", "SYS"), (".", "EXA_ALL_VIEWS"),
        (" WHERE ", "VIEW_SCHEMA")] [" = "]),
      .literal .schema]
  | .exasol, .users restricted =>
      let users := [("SELECT ", "USER_NAME"), (" FROM ", "SYS"), (".", "EXA_ALL_USERS")]
      ofNames restricted (Sql.words users [])
        (Sql.words users [" WHERE ", .name "USER_NAME", " LIKE "])
  | .exasol, .roles restricted =>
      let roles := [("SELECT ", "ROLE_NAME"), (" FROM ", "SYS"), (".", "EXA_ALL_ROLES")]
      ofNames restricted (Sql.words roles [])
        (Sql.words roles [" WHERE ", .name "ROLE_NAME", " LIKE "])
  | .snowflake, .tables => [.run ["SHOW TABLES IN SCHEMA "], .name .schema]
  | .snowflake, .views => [.run ["SHOW VIEWS IN SCHEMA "], .name .schema]
  | .snowflake, .users restricted => ofNames restricted ["SHOW USERS"] ["SHOW USERS LIKE "]
  | .snowflake, .roles restricted => ofNames restricted ["SHOW ROLES"] ["SHOW ROLES LIKE "]

/-- Every statement for a list begins as a query and can be read. -/
theorem readable_template (dialect : Dialect) (kind : Kind) :
    (template dialect kind).startsAsQuery = true ∧
      Sql.Alternates dialect.quoteStyle ((template dialect kind).fill .blank) := by
  rcases kind with _ | _ | ⟨_ | _⟩ | ⟨_ | _⟩ <;> cases dialect <;> decide

end Listing

end Warehouse
