import Warehouse.Proofs.Catalog.Reading
import Warehouse.Proofs.Catalog.Statements
import Warehouse.Session.Step

/-! # Names stay inside their quotes

Reading tables and lists of names accepts every text for a name or a pattern. Whatever
these texts and the answers of the connection are, each statement that is sent is read by
the engine as one of a few templates that the texts have no influence on, with each
text in one quoted name or one literal. -/

namespace Warehouse.Session

open Catalog

variable {σ : Type} {dialect : Dialect} {name : TableName}

/-! ## Statements about a table -/

/-- The purposes of the statements by which a question about a table is answered. -/
def TableQuestion.purposes : TableQuestion → List Purpose
  | objectId => [.object]
  | isTemporary => [.temporary]
  | columnNames | columns => [.object, .columns]
  | primaryKeys => [.object, .keys]
  | definition => [.object, .columns, .keys, .temporary, .distribution, .index]
  | rowCount => [.count]
  | distribution => [.object, .distribution]
  | index => [.object, .index]

/-- The statement serves the question about a table with the number. -/
def TableQuestion.AsksFor (question : TableQuestion) (dialect : Dialect) (name : TableName)
    (number? : Option Int) (statement : String) : Prop :=
  ∃ purpose ∈ question.purposes, Asks dialect name number? purpose statement

/-- The number that the look-up of a table yields, if it yields one. -/
def numberFound (connection : Connection σ) (state : σ) (dialect : Dialect)
    (name : TableName) : Option Int :=
  match ((Catalog.objectId dialect name).run connection state).outcome with
  | .ok object => numberOf object
  | .error _ => none

theorem guarantees_objectId (dialect : Dialect) (name : TableName) (number? : Option Int) :
    (Catalog.objectId dialect name).Guarantees (Asks dialect name number? .object)
      fun _ => True := by
  simp only [Catalog.objectId, askFound, Dialogue.guarantees_bind, guarantees_askTable]
  refine ⟨asks_lookup dialect name, fun rows found _ => ?_⟩
  cases found <;> simp [reportMissing]

/-- Behind the look-up of a table, statements may have its number. -/
theorem statements_run_objectId_bind {β : Type} {connection : Connection σ} {state : σ}
    {question : TableQuestion} {next : ObjectId → Dialogue β}
    (looks : .object ∈ question.purposes)
    (behind : ∀ object, (next object).Guarantees
      (question.AsksFor dialect name (numberOf object)) fun _ => True) :
    ∀ statement ∈ ((Catalog.objectId dialect name >>= next).run connection state).statements,
      question.AsksFor dialect name (numberFound connection state dialect name) statement := by
  apply Dialogue.statements_run_bind
  · intro statement sent
    exact ⟨.object, looks,
      (guarantees_objectId dialect name _).statements_run connection state statement sent⟩
  · intro object found
    have number : numberFound connection state dialect name = numberOf object := by
      simp only [numberFound, found]
    rw [number]
    exact behind object

theorem guarantees_columnsOf_asks (schema : name.schema ≠ "") (object : ObjectId) :
    (columnsOf dialect name object).Guarantees (Asks dialect name (numberOf object) .columns)
      fun _ => True := by
  simp only [columnsOf, Dialogue.guarantees_bind, Dialogue.guarantees_lift_cell,
    guarantees_askTable, implies_true, and_true]
  exact fun query found => asks_columnsQuery schema found

theorem guarantees_keysOf_asks (schema : name.schema ≠ "") (object : ObjectId) :
    (keysOf dialect name object).Guarantees (Asks dialect name (numberOf object) .keys)
      fun _ => True := by
  simp only [keysOf, Dialogue.guarantees_bind, Dialogue.guarantees_lift_cell,
    guarantees_askTable, implies_true, and_true]
  exact fun query found => asks_keysQuery schema found

theorem guarantees_distributionOf_asks (object : ObjectId) :
    (distributionOf name object).Guarantees (Asks .synapse name (numberOf object) .distribution)
      fun _ => True := by
  simp only [distributionOf, Dialogue.guarantees_bind, Dialogue.guarantees_lift_cell,
    guarantees_askTable, implies_true, and_true]
  exact fun query found => Synapse.asks_distribution found

theorem guarantees_indexOf_asks (object : ObjectId) :
    (indexOf name object).Guarantees (Asks .synapse name (numberOf object) .index)
      fun _ => True := by
  simp only [indexOf, Dialogue.guarantees_bind, Dialogue.guarantees_lift_cell,
    guarantees_askTable, implies_true, and_true]
  exact fun query found => Synapse.asks_index found

theorem guarantees_isTemporary_asks (dialect : Dialect) (name : TableName)
    (number? : Option Int) :
    (Catalog.isTemporary dialect name).Guarantees (Asks dialect name number? .temporary)
      fun _ => True := by
  cases dialect with
  | snowflake =>
      simp only [Catalog.isTemporary, askFound, Dialogue.guarantees_bind, guarantees_askTable]
      refine ⟨asks_temporary name, fun rows found _ => ?_⟩
      cases found <;> simp [reportMissing]
  | synapse | teradata | exasol => simp [Catalog.isTemporary]

/-- What serves a purpose of a question serves the question. -/
theorem TableQuestion.serves {β : Type} {question : TableQuestion} {number? : Option Int}
    {purpose : Purpose} (listed : purpose ∈ question.purposes) {dialogue : Dialogue β}
    (asks : dialogue.Guarantees (Asks dialect name number? purpose) fun _ => True) :
    dialogue.Guarantees (question.AsksFor dialect name number?) fun _ => True :=
  asks.mono (fun _ sent => ⟨purpose, listed, sent⟩) fun _ => id

theorem guarantees_storageOf_asks (object : ObjectId) :
    (storageOf dialect name object).Guarantees
      (TableQuestion.definition.AsksFor dialect name (numberOf object)) fun _ => True := by
  cases dialect with
  | synapse =>
      simp only [storageOf, Dialogue.guarantees_bind, Dialogue.guarantees_pure]
      refine (TableQuestion.serves (by decide) (guarantees_distributionOf_asks object)).mono
        (fun _ => id) fun distribution _ => ?_
      exact TableQuestion.serves (by decide) (guarantees_indexOf_asks object)
  | teradata | exasol | snowflake => simp [storageOf]

theorem guarantees_definition_asks (schema : name.schema ≠ "") (object : ObjectId) :
    (do
      let columns ← Columns.ofList (← columnsOf dialect name object)
      let keys ← keysOf dialect name object
      let temporary ← Catalog.isTemporary dialect name
      let storage ← storageOf dialect name object
      let definition ← TableDefinition.make name temporary columns keys storage false
      Dialogue.record (loadedEntry dialect definition)
      return definition : Dialogue TableDefinition).Guarantees
      (TableQuestion.definition.AsksFor dialect name (numberOf object)) fun _ => True := by
  simp only [Dialogue.guarantees_bind, Dialogue.guarantees_lift_table,
    Dialogue.guarantees_record, Dialogue.guarantees_pure, implies_true]
  refine (TableQuestion.serves (by decide) (guarantees_columnsOf_asks schema object)).mono
    (fun _ => id) fun columns _ collected _ => ?_
  refine (TableQuestion.serves (by decide) (guarantees_keysOf_asks schema object)).mono
    (fun _ => id) fun keys _ => ?_
  refine (TableQuestion.serves (by decide) (guarantees_isTemporary_asks dialect name _)).mono
    (fun _ => id) fun temporary _ => ?_
  exact guarantees_storageOf_asks object

/-- Every statement that a question about a table sends serves the question. -/
theorem asksFor_of_sent {question : TableQuestion} (schema : name.schema ≠ "")
    (offered : question = .distribution ∨ question = .index → dialect = .synapse)
    (connection : Connection σ) (state : σ) :
    ∀ statement ∈ ((question.ask dialect name).run connection state).statements,
      question.AsksFor dialect name (numberFound connection state dialect name) statement := by
  cases question with
  | objectId =>
      rw [TableQuestion.ask, Dialogue.statements_run_map]
      exact (TableQuestion.serves (by decide) (guarantees_objectId dialect name _)).statements_run
        connection state
  | isTemporary =>
      rw [TableQuestion.ask, Dialogue.statements_run_map]
      exact (TableQuestion.serves (by decide)
        (guarantees_isTemporary_asks dialect name _)).statements_run connection state
  | columnNames | columns =>
      rw [TableQuestion.ask, Dialogue.statements_run_map]
      refine statements_run_objectId_bind (by decide) fun object => ?_
      simp only [Dialogue.guarantees_bind, Dialogue.guarantees_pure,
        Dialogue.guarantees_lift_table, implies_true]
      exact TableQuestion.serves (by decide) (guarantees_columnsOf_asks schema object)
  | primaryKeys =>
      rw [TableQuestion.ask, Dialogue.statements_run_map]
      exact statements_run_objectId_bind (by decide) fun object =>
        TableQuestion.serves (by decide) (guarantees_keysOf_asks schema object)
  | definition =>
      rw [TableQuestion.ask, Dialogue.statements_run_map]
      exact statements_run_objectId_bind (by decide) fun object =>
        guarantees_definition_asks schema object
  | rowCount =>
      rw [TableQuestion.ask, Dialogue.statements_run_map, Catalog.rowCount]
      refine (TableQuestion.serves (List.mem_singleton_self Purpose.count) ?_).statements_run
        connection state
      simp only [guarantees_askTable, implies_true, and_true]
      exact asks_count dialect schema
  | distribution =>
      obtain rfl := offered (.inl rfl)
      rw [TableQuestion.ask, Dialogue.statements_run_map]
      exact statements_run_objectId_bind (by decide) fun object =>
        TableQuestion.serves (by decide) (guarantees_distributionOf_asks object)
  | index =>
      obtain rfl := offered (.inr rfl)
      rw [TableQuestion.ask, Dialogue.statements_run_map]
      exact statements_run_objectId_bind (by decide) fun object =>
        TableQuestion.serves (by decide) (guarantees_indexOf_asks object)

/-! ## Inquiries -/

/-- A question about a table, or for a list of names. -/
inductive Inquiry where
  | about (name : TableName) (question : TableQuestion)
  | list (listing : Listing)

namespace Inquiry

/-- Puts the inquiry to a connection. -/
def ask (dialect : Dialect) : Inquiry → Dialogue Answer
  | about name question => question.ask dialect name
  | list listing => do
      let names ← listing.names dialect
      return .names (names.map Value.ofText?)

/-- The inquiry is one that the dialect knows, about a table with a schema. -/
def IsOffered (dialect : Dialect) : Inquiry → Prop
  | about name question =>
      name.schema ≠ "" ∧ (question = .distribution ∨ question = .index → dialect = .synapse)
  | list _ => True

/-- The templates of the statements for an inquiry. Names and patterns have no influence on
them, apart from the mark of a session table. -/
def templates (dialect : Dialect) : Inquiry → List Template
  | about name question =>
      question.purposes.filterMap (template dialect (hasSessionMark name.table))
  | list listing => [Listing.template dialect listing.kind]

/-- The values for a template are those of the inquiry: names as they stand, a pattern
between wildcards, the name by which Synapse looks a table up as a literal that is read in
turn as the names in it, and the number that was looked up. -/
def Supplies (connection : Connection σ) (state : σ) (dialect : Dialect) (found : Template)
    (values : Values) : Inquiry → Prop
  | about name _ =>
      values.text .schema = name.schema ∧ values.text .table = name.table ∧
        lex Dialect.synapse.quoteStyle (values.text .object).toList = some (
          if hasSessionMark name.table then [.plain "tempdb..", .name name.table]
          else [.name name.schema, .plain ".", .name name.table]) ∧
        (found.isNumbered = true →
          numberFound connection state dialect name = some values.number)
  | list (.tables schema) | list (.views schema) => values.text .schema = schema
  | list (.users like) | list (.roles like) =>
      ∀ text ∈ like, values.text .pattern = "%" ++ text ++ "%"

end Inquiry

/-- The name by which Synapse looks a table up is read as the names in it. -/
theorem lex_objectName (schema : name.schema ≠ "") :
    lex Dialect.synapse.quoteStyle (Synapse.objectName name).toList = some (
      if hasSessionMark name.table then [.plain "tempdb..", .name name.table]
      else [.name name.schema, .plain ".", .name name.table]) := by
  unfold Synapse.objectName
  by_cases marked : hasSessionMark name.table = true
  · rw [if_pos marked, if_pos marked]
    have readable : Sql.Alternates Dialect.synapse.quoteStyle
        (Template.fill .blank [.run ["tempdb.."], .name .table]) := by decide
    exact Template.lex_text_fill readable (name.values 0)
  · rw [if_neg marked, if_neg marked, Sql.qualified, if_neg schema]
    have readable : Sql.Alternates Dialect.synapse.quoteStyle
        (Template.fill .blank [.name .schema, .run ["."], .name .table]) := by decide
    exact Template.lex_text_fill readable (name.values 0)

theorem guarantees_list (dialect : Dialect) (listing : Listing) :
    ((Inquiry.list listing).ask dialect).Guarantees
      (· = (listing.query dialect).sql.text dialect) fun _ => True := by
  simp only [Inquiry.ask, Listing.names, Dialogue.guarantees_bind, Dialogue.guarantees_record,
    Dialogue.guarantees_fetch, Dialogue.guarantees_lift, Dialogue.guarantees_pure, implies_true,
    and_true]

/-- **Whatever the names, the pattern and the answers are, each statement that reads a
catalog begins as a query and is read as a template of the inquiry, with every text from
outside in one quoted name or one literal.** -/
theorem lex_of_sent {inquiry : Inquiry} (offered : inquiry.IsOffered dialect)
    (connection : Connection σ) (state : σ) :
    ∀ statement ∈ ((inquiry.ask dialect).run connection state).statements,
      ∃ found ∈ inquiry.templates dialect, found.startsAsQuery = true ∧
        ∃ values, inquiry.Supplies connection state dialect found values ∧
          lex dialect.quoteStyle statement.toList = some (found.fill values) := by
  intro statement sent
  cases inquiry with
  | about name question =>
      obtain ⟨schema, known⟩ := offered
      obtain ⟨purpose, listed, found, here, number, numbered, rfl⟩ :=
        asksFor_of_sent schema known connection state statement sent
      obtain ⟨starts, readable⟩ := readable_template dialect _ purpose found here
      exact ⟨found, List.mem_filterMap.mpr ⟨purpose, listed, here⟩, starts, name.values number,
        ⟨rfl, rfl, lex_objectName schema, numbered⟩,
        Template.lex_text_fill readable (name.values number)⟩
  | list listing =>
      have asked := (guarantees_list dialect listing).statements_run connection state statement
        sent
      obtain ⟨starts, readable⟩ := Listing.readable_template dialect listing.kind
      refine ⟨Listing.template dialect listing.kind, List.mem_singleton_self _, starts, listing.values,
        ?_, ?_⟩
      · cases listing with
        | tables schema | views schema => rfl
        | users like | roles like =>
            rintro text rfl
            rfl
      · rw [asked, Listing.text_query]
        exact Template.lex_text_fill readable listing.values

/-- Two statements look for the keys of a session table whose name has marks in it. -/
theorem lex_of_sent_marks :
    let inquiry := Inquiry.about ⟨"dbo", "#a]'b"⟩ .primaryKeys
    let answers : List (List Row) := [[[("object_id", .number 7)]]]
    let statements := ((inquiry.ask .synapse).run Connection.prepared answers).statements
    statements.length = 2 ∧ ∀ statement ∈ statements,
      ∃ found ∈ inquiry.templates .synapse, found.startsAsQuery = true ∧
        ∃ values, inquiry.Supplies Connection.prepared answers .synapse found values ∧
          lex Dialect.synapse.quoteStyle statement.toList = some (found.fill values) := by
  intro inquiry answers statements
  have offered : inquiry.IsOffered .synapse := ⟨by decide, by decide⟩
  exact ⟨by decide, lex_of_sent offered Connection.prepared answers⟩

end Warehouse.Session
