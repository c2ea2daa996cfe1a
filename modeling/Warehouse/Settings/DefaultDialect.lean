import Warehouse.Access
import Warehouse.Dialogue
import Warehouse.Settings.Basic

/-! # The dialect that is meant

A dialect is named by a tag or left to the settings, which are looked at only in
the second case. -/

namespace Warehouse

namespace Dialect

/-- The record of a dialect that is taken from the settings. -/
def defaultEntry (dialect : Dialect) : Log.Entry where
  level := .debug
  logger := "table_backend_utils.factory"
  event := "factory.default_dialect"
  fields := [("dialect", .text dialect.name)]

/-- The dialect of the settings, if there are any. -/
def default (settings : Except Failure Settings) : Dialogue Dialect := do
  let settings ← settings
  Dialogue.record (defaultEntry settings.dialect)
  return settings.dialect

/-- The dialect that a tag names, or that of the settings without a tag. -/
def choose (settings : Except Failure Settings) (tag : Value) : Dialogue Dialect :=
  match tag with
  | .null => default settings
  | tag => ofTag tag

end Dialect

end Warehouse
