import Warehouse.Log.Redaction

/-! # Log records

A record has a level, the name of the logger that wrote it, an event and fields.
What is written out is one map of fields: those bound to the logger, those of the
event, and on top of them event, level and logger. The time of a record is not
part of it. Writing is left to a sink, which gets along with every record that can be
written out. -/

namespace Warehouse.Log

/-- The urgency of a record. -/
inductive Level where
  | debug
  | info
  | warning
  | error
  | critical
deriving DecidableEq, Repr

namespace Level

/-- The levels from the least urgent on. -/
def all : List Level := [debug, info, warning, error, critical]

/-- The rank of a level among the levels. -/
def rank : Level → Nat
  | debug => 0
  | info => 1
  | warning => 2
  | error => 3
  | critical => 4

/-- The name of a level in capitals. -/
def name : Level → String
  | debug => "DEBUG"
  | info => "INFO"
  | warning => "WARNING"
  | error => "ERROR"
  | critical => "CRITICAL"

/-- The level of the given name in capitals. -/
def ofName? (text : String) : Option Level := all.find? (·.name = text)

/-- The word for a level inside a record. -/
def word : Level → String
  | debug => "debug"
  | info => "info"
  | warning => "warning"
  | error => "error"
  | critical => "critical"

/-- The level at which a logging call of the given word writes. -/
def ofWord? (text : String) : Option Level :=
  if text = "warn" then some warning else all.find? (·.word = text)

/-- A logger set to a threshold writes the records of this level. -/
def passes (threshold level : Level) : Bool := threshold.rank ≤ level.rank

end Level

/-- A record before it is written out. -/
structure Entry where
  level : Level
  logger : String
  event : String
  fields : Fields
deriving DecidableEq

/-- The map of fields that is written out for a record. -/
def Entry.written (entry : Entry) : Fields :=
  let own := [("event", Value.text entry.event), ("level", .text entry.level.word),
    ("logger", .text entry.logger)]
  redact ((entry.fields.override own).filter (·.1 ≠ "timestamp"))

/-- The record can be written out: no number in its fields has too many digits. -/
def Entry.isRenderable (entry : Entry) : Bool := (Value.map entry.written).asText?.isSome

/-- What becomes of the records of a logger. Under a threshold a record is written, which
is told by true, or left out, or its attempt ends with a message. -/
structure Sink where
  write : Level → Entry → Except String Bool

/-- The sink leaves out the records below the threshold, and writes the others if they can
be written out. -/
structure Sink.Faithful (sink : Sink) : Prop where
  silent : ∀ {threshold entry}, threshold.passes entry.level = false →
    sink.write threshold entry = .ok false
  written : ∀ {threshold entry}, threshold.passes entry.level = true →
    entry.isRenderable = true → sink.write threshold entry = .ok true

/-- The sink that fails for the records which cannot be written out. -/
def Sink.strict : Sink where
  write threshold entry :=
    if !threshold.passes entry.level then .ok false
    else if entry.isRenderable then .ok true
    else .error "a number has too many digits"

theorem Sink.faithful_strict : Sink.strict.Faithful where
  silent below := by simp [strict, below]
  written above renderable := by simp [strict, above, renderable]

end Warehouse.Log
