import Warehouse.Request.Schema
import Warehouse.Request.Table
import Warehouse.Settings.DefaultDialect

/-! # The statement of a request

A request that comes with a dialect tag, or leaves the dialect to the settings, is
answered by the text of its statement. The connection is not asked anything; log
records are written on the way. -/

namespace Warehouse

/-- The text of the statement for a table request. A request with a fault writes no
record. -/
def TableRequest.statement (dialect : Dialect) (request : TableRequest) : Dialogue String := do
  let sql ← (request.compile dialect : Except RequestFault Sql)
  Dialogue.records (request.entries dialect)
  return sql.text dialect

/-- The text of the statement for a schema request. -/
def SchemaRequest.statement (dialect : Dialect) (request : SchemaRequest) : Dialogue String := do
  Dialogue.records (request.entries dialect)
  let sql ← (request.compile dialect : Except RequestFault Sql)
  return sql.text dialect

/-- The text of the statement for a table request that may itself have failed to
come about. The dialect is settled first. -/
def tableStatement (settings : Except Failure Settings) (tag : Value)
    (request : Except Failure TableRequest) : Dialogue String := do
  let dialect ← Dialect.choose settings tag
  let request ← request
  request.statement dialect

/-- The text of the statement for a schema request, once the dialect is settled. -/
def schemaStatement (settings : Except Failure Settings) (tag : Value)
    (request : SchemaRequest) : Dialogue String := do
  request.statement (← Dialect.choose settings tag)

end Warehouse
