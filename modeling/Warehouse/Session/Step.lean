import Warehouse.Catalog.Listing
import Warehouse.Catalog.Table
import Warehouse.Request.Statement

/-! # Sessions

A session is a list of steps over one connection. A step sends a statement, reads
a table or a list of names, or builds a statement from a request or from the table
that was read last; a statement that was built can be carried out at once. -/

namespace Warehouse.Session

/-- What is asked about a table. The last two are known of Synapse tables only. -/
inductive TableQuestion where
  | objectId
  | isTemporary
  | columnNames
  | columns
  | primaryKeys
  | definition
  | rowCount
  | distribution
  | index
deriving DecidableEq, Repr

/-- The task of a step. -/
inductive Task where
  | execute (statement : String)
  | fetch (statement : String)
  | read (name : TableName) (question : TableQuestion)
  | list (listing : Listing)
  | build (request : Except Failure TableRequest) (carriedOut : Bool)
  | createLast (withKeys carriedOut : Bool)
  | compareLast (definition : Except Failure TableDefinition)

/-- A task and the tag of the dialect in which it is done. -/
structure Step where
  tag : Value
  task : Task

/-- What a step answers. -/
inductive Answer where
  | nothing
  | text (text : Option String)
  | flag (flag : Bool)
  | number (number : Int)
  | names (names : List Value)
  | rows (rows : List Row)
  | columns (columns : Columns)
  | distribution (distribution : Distribution)
  | index (index : Index)
  | table (table : TableDefinition)

/-- Reads what is asked about a table. -/
def TableQuestion.ask (dialect : Dialect) (name : TableName) :
    TableQuestion → Dialogue Answer
  | objectId => Answer.text <$> Catalog.objectId dialect name
  | isTemporary => Answer.flag <$> Catalog.isTemporary dialect name
  | columnNames => Answer.names <$> Catalog.columnNames dialect name
  | columns => Answer.columns <$> Catalog.columns dialect name
  | primaryKeys => Answer.names <$> Catalog.primaryKeys dialect name
  | definition => Answer.table <$> Catalog.definition dialect name
  | rowCount => Answer.number <$> Catalog.rowCount dialect name
  | distribution => Answer.distribution <$> Catalog.distribution name
  | index => Answer.index <$> Catalog.index name

/-- Carries out a statement if that is wanted, and answers with its text. -/
def deliver (carriedOut : Bool) (statement : String) : Dialogue Answer := do
  if carriedOut then Dialogue.execute statement
  return .text (some statement)

/-- The dialogue of a step under given settings. Without a table that was read last
there is nothing to create or to compare. -/
def Step.dialogue (settings : Except Failure Settings) (last : Option TableDefinition)
    (step : Step) : Dialogue Answer :=
  match step.task with
  | .execute statement => do
      Dialogue.execute statement
      return .nothing
  | .fetch statement => Answer.rows <$> Dialogue.fetch statement
  | .read name question => do
      question.ask (← Dialect.choose settings step.tag) name
  | .list listing => do
      let names ← listing.names (← Dialect.choose settings step.tag)
      return .names (names.map Value.ofText?)
  | .build request carriedOut => do
      deliver carriedOut (← tableStatement settings step.tag request)
  | .createLast withKeys carriedOut =>
      match last with
      | none => return .nothing
      | some definition => do
          let request := TableRequest.ofDefinition definition withKeys
          deliver carriedOut (← tableStatement settings step.tag (.ok request))
  | .compareLast definition => do
      let definition ← definition
      match last with
      | none => return .nothing
      | some last => return .flag (last.sameAs definition)

/-- The table that was read last, after a step. -/
def lastAfter (last : Option TableDefinition) : Except Failure Answer → Option TableDefinition
  | .ok (.table table) => some table
  | _ => last

/-- Carries out steps one after the other. A failure ends its step only. -/
def run {σ : Type} (connection : Connection σ) (settings : Except Failure Settings)
    (last : Option TableDefinition) (state : σ) : List Step → List (Run σ Answer)
  | [] => []
  | step :: rest =>
      let done := (step.dialogue settings last).run connection state
      done :: run connection settings (lastAfter last done.outcome) done.state rest

end Warehouse.Session
