import Warehouse.Dialect

/-! # Type names

The column types that each dialect knows, in the normal form in which they are
compared: capitals, words separated by single spaces. -/

namespace Warehouse.Dialect

/-- The type names of a dialect. -/
def typeNames : Dialect → List String
  | synapse => [
      "BIGINT", "INT", "SMALLINT", "TINYINT", "BIT", "DECIMAL", "NUMERIC", "MONEY",
      "SMALLMONEY", "FLOAT", "REAL", "DATE", "TIME", "DATETIME", "DATETIME2",
      "DATETIMEOFFSET", "SMALLDATETIME", "CHAR", "VARCHAR", "NCHAR", "NVARCHAR", "BINARY",
      "VARBINARY", "UNIQUEIDENTIFIER"]
  | teradata => [
      "BYTEINT", "SMALLINT", "INTEGER", "BIGINT", "DECIMAL", "NUMERIC", "NUMBER", "FLOAT",
      "REAL", "DOUBLE PRECISION", "DATE", "TIME", "TIMESTAMP", "TIME WITH TIME ZONE",
      "TIMESTAMP WITH TIME ZONE", "BYTE", "VARBYTE", "BLOB", "CHAR", "CHARACTER", "VARCHAR",
      "CLOB"]
  | exasol => [
      "BOOLEAN", "BOOL", "CHAR", "CHARACTER", "NCHAR", "VARCHAR", "VARCHAR2", "NVARCHAR",
      "NVARCHAR2", "CHAR VARYING", "CHARACTER VARYING", "CLOB", "LONG VARCHAR", "DECIMAL",
      "DEC", "NUMERIC", "NUMBER", "INT", "INTEGER", "BIGINT", "SMALLINT", "TINYINT",
      "SHORTINT", "DOUBLE", "DOUBLE PRECISION", "FLOAT", "REAL", "DATE", "TIMESTAMP",
      "TIMESTAMP WITH LOCAL TIME ZONE", "INTERVAL YEAR TO MONTH", "INTERVAL DAY TO SECOND",
      "GEOMETRY", "HASHTYPE"]
  | snowflake => [
      "NUMBER", "DECIMAL", "NUMERIC", "INT", "INTEGER", "BIGINT", "SMALLINT", "TINYINT",
      "BYTEINT", "FLOAT", "FLOAT4", "FLOAT8", "DOUBLE", "DOUBLE PRECISION", "REAL",
      "VARCHAR", "CHAR", "CHARACTER", "STRING", "TEXT", "BINARY", "VARBINARY", "BOOLEAN",
      "DATE", "DATETIME", "TIME", "TIMESTAMP", "TIMESTAMP_LTZ", "TIMESTAMP_NTZ",
      "TIMESTAMP_TZ", "VARIANT", "OBJECT", "ARRAY", "GEOGRAPHY", "GEOMETRY"]

/-- The types whose values are text, which in Teradata carry a character set. -/
def characterTypes : List String := ["CHAR", "CHARACTER", "VARCHAR", "CLOB"]

/-- The type carries a character set. -/
def takesCharacterSet (dialect : Dialect) (type : String) : Bool :=
  dialect = teradata && characterTypes.contains type

end Warehouse.Dialect
