import Warehouse.Fields
import Warehouse.Text.Case

/-! # Redaction of sensitive fields

Before a record leaves the library, the values under sensitive keys are replaced
by a fixed text. A key is sensitive if its first line holds one of four words,
without regard to letter case. Maps inside maps are searched; lists are passed on
as they are. -/

namespace Warehouse.Log

/-- The words that make a key sensitive. -/
def sensitiveWords : List String := ["password", "token", "secret", "credential"]

/-- The key holds a sensitive word in its first line. -/
def isSensitive (key : String) : Bool :=
  let firstLine := key.toList.takeWhile (· ≠ '\n')
  sensitiveWords.any fun word => Text.holdsWordCaseless word firstLine

/-- What stands in the place of a sensitive value. -/
def redacted : Value := .text "[REDACTED]"

mutual

/-- A value with the sensitive values inside it replaced. -/
def redactValue : Value → Value
  | .map entries => .map (redact entries)
  | value => value

/-- The entries of a map with the sensitive values replaced, at any depth. -/
def redact : Fields → Fields
  | [] => []
  | (key, value) :: rest =>
      (key, if isSensitive key then redacted else redactValue value) :: redact rest

end

/-- Redaction keeps the keys and their order. -/
theorem map_fst_redact : (entries : Fields) →
    (redact entries).map Prod.fst = entries.map Prod.fst
  | [] => by simp [redact]
  | (key, value) :: rest => by simp [redact, map_fst_redact rest]

end Warehouse.Log
