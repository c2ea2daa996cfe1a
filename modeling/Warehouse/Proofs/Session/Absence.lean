import Warehouse.Session.Step

/-! # Missing tables

Except for the count of rows, and for the kind of a table where its name tells it, every
question about a table begins with the look-up of the table. If the answer to it says that
there is no such table, the table is reported as missing and nothing else is asked
(`Session.missing_of_absent`), so whatever the connection would answer to other statements
has no influence. -/

namespace Warehouse

variable {α β σ : Type} {dialect : Dialect} {name : TableName}

namespace Catalog

/-! ## Answers of the look-up -/

/-- The answer to the look-up of a table says that there is none. -/
def SaysAbsent (dialect : Dialect) (name : TableName) (rows : List Row) : Prop :=
  match dialect with
  | .synapse => ∀ row ∈ rows.head?, ∃ cell, row.cell? "object_id" = some cell ∧
      (cell = .null ∨ cell.trimmed? = .ok (some ""))
  | .teradata | .exasol => rows = []
  | .snowflake => ∀ row ∈ rows, ∃ cell, row.cell? "name" = some cell ∧ cell ≠ .text name.table

theorem Synapse.lookup_read_of_absent {rows : List Row}
    (absent : SaysAbsent .synapse name rows) : (lookup name).read rows = .ok none := by
  cases rows with
  | nil => rfl
  | cons row rest =>
      obtain ⟨cell, found, empty⟩ := absent row rfl
      have read : row.text? "object_id" = cell.trimmed? := by
        rw [Row.text?, Row.cell, found]
        rfl
      rcases empty with rfl | blank
      · simp only [lookup, read]
        rfl
      · simp only [lookup, read, blank]
        rfl

/-- Without a row of exactly the given name, none is found, whatever names are near. -/
theorem Snowflake.findTable_of_absent {rows : List Row}
    (absent : SaysAbsent .snowflake name rows) : findTable name.table rows = .ok none := by
  induction rows with
  | nil => rfl
  | cons row rest ih =>
      obtain ⟨cell, found, other⟩ := absent row List.mem_cons_self
      have further := ih fun row member => absent row (List.mem_cons_of_mem _ member)
      have read : row.cell "name" = .ok cell := by rw [Row.cell, found]
      simp only [findTable, read, bind, Except.bind]
      split
      · rename_i word
        have different : word ≠ name.table := fun same => other (congrArg Value.text same)
        rw [if_neg different]
        exact further
      · exact further

theorem lookup_read_of_absent {rows : List Row} (absent : SaysAbsent dialect name rows) :
    (lookup dialect name).read rows = .ok none := by
  cases dialect with
  | synapse => exact Synapse.lookup_read_of_absent absent
  | teradata | exasol =>
      obtain rfl : rows = [] := absent
      rfl
  | snowflake =>
      simp only [lookup, Snowflake.lookup, Snowflake.findTable_of_absent absent]
      rfl

theorem Snowflake.temporary_read_of_absent {rows : List Row}
    (absent : SaysAbsent .snowflake name rows) : (temporary name).read rows = .ok none := by
  simp only [temporary, findTable_of_absent absent]
  rfl

/-! ## Queries that find a table -/

/-- A query that finds a table is put to the connection before anything that follows it. -/
theorem askFound_bind_eq (query : Query (Option α)) (next : α → Dialogue β) :
    (askFound dialect name query >>= next) =
      .log (queryEntry dialect name (query.sql.text dialect))
        (.log (Dialogue.sendingEntry "connection.fetch_all" (query.sql.text dialect))
          (.ask (query.sql.text dialect) fun rows =>
            match query.read rows with
            | .error failure => .failed failure
            | .ok none => reportMissing dialect name
            | .ok (some found) => next found)) := by
  change Dialogue.log _ (Dialogue.log _ (Dialogue.ask _ _)) = _
  congr 3
  funext rows
  change ((Dialogue.ofExcept (query.read rows)).bind _).bind next = _
  rcases query.read rows with failure | _ | found <;> rfl

theorem run_askFound_bind_of_none {query : Query (Option α)} (next : α → Dialogue β)
    {connection : Connection σ} {state : σ} {rows : List Row}
    (answered : (connection.answer (query.sql.text dialect) state).1 = .ok rows)
    (none : query.read rows = .ok none) :
    ((askFound dialect name query >>= next).run connection state).outcome =
        .error (.catalog (.tableMissing name)) ∧
      ((askFound dialect name query >>= next).run connection state).statements =
        [query.sql.text dialect] := by
  rcases given : connection.answer (query.sql.text dialect) state with ⟨answer, after⟩
  rw [given] at answered
  subst answered
  simp only [askFound_bind_eq, Dialogue.run, given, none, reportMissing, and_self]

theorem run_askFound_bind_of_refused {query : Query (Option α)} (next : α → Dialogue β)
    {connection : Connection σ} {state : σ} {message : String}
    (refused : (connection.answer (query.sql.text dialect) state).1 = .error message) :
    ((askFound dialect name query >>= next).run connection state).outcome =
        .error (.connection message) ∧
      ((askFound dialect name query >>= next).run connection state).statements =
        [query.sql.text dialect] := by
  rcases given : connection.answer (query.sql.text dialect) state with ⟨answer, after⟩
  rw [given] at refused
  subst refused
  simp only [askFound_bind_eq, Dialogue.run, given, and_self]

/-! ## Dialogues that begin with the look-up -/

/-- The dialogue asks the statement of the look-up first, in a query that finds nothing where
the look-up finds nothing. -/
def BeginsWithLookup (dialect : Dialect) (name : TableName) (dialogue : Dialogue β) : Prop :=
  ∃ (found : Type) (query : Query (Option found)) (next : found → Dialogue β),
    query.sql = (lookup dialect name).sql ∧
    (∀ rows, SaysAbsent dialect name rows → query.read rows = .ok none) ∧
    dialogue = askFound dialect name query >>= next

theorem beginsWithLookup_objectId_bind (next : ObjectId → Dialogue β) :
    BeginsWithLookup dialect name (objectId dialect name >>= next) :=
  ⟨_, lookup dialect name, next, rfl, fun _ => lookup_read_of_absent, rfl⟩

theorem beginsWithLookup_objectId : BeginsWithLookup dialect name (objectId dialect name) := by
  rw [← bind_pure (objectId dialect name)]
  exact beginsWithLookup_objectId_bind pure

/-- The kind of a table is looked for in the same rows as the table. -/
theorem beginsWithLookup_isTemporary :
    BeginsWithLookup .snowflake name (isTemporary .snowflake name) :=
  ⟨_, Snowflake.temporary name, pure, rfl, fun _ => Snowflake.temporary_read_of_absent,
    (bind_pure _).symm⟩

namespace BeginsWithLookup

variable {dialogue : Dialogue α}

theorem map (begins : BeginsWithLookup dialect name dialogue) (change : α → β) :
    BeginsWithLookup dialect name (change <$> dialogue) := by
  obtain ⟨found, query, next, sql, none, rfl⟩ := begins
  exact ⟨found, query, fun result => change <$> next result, sql, none, map_bind _ _ _⟩

variable {connection : Connection σ} {state : σ}

theorem run_of_absent (begins : BeginsWithLookup dialect name dialogue) {rows : List Row}
    (answered : (connection.answer ((lookup dialect name).sql.text dialect) state).1 = .ok rows)
    (absent : SaysAbsent dialect name rows) :
    (dialogue.run connection state).outcome = .error (.catalog (.tableMissing name)) ∧
      (dialogue.run connection state).statements = [(lookup dialect name).sql.text dialect] := by
  obtain ⟨found, query, next, sql, none, rfl⟩ := begins
  rw [← sql] at answered ⊢
  exact run_askFound_bind_of_none next answered (none rows absent)

theorem run_of_refused (begins : BeginsWithLookup dialect name dialogue) {message : String}
    (refused : (connection.answer ((lookup dialect name).sql.text dialect) state).1 =
      .error message) :
    (dialogue.run connection state).outcome = .error (.connection message) ∧
      (dialogue.run connection state).statements = [(lookup dialect name).sql.text dialect] := by
  obtain ⟨found, query, next, sql, -, rfl⟩ := begins
  rw [← sql] at refused ⊢
  exact run_askFound_bind_of_refused next refused

end BeginsWithLookup

end Catalog

namespace Session

open Catalog

/-! ## Questions -/

/-- The question is answered with the help of the look-up of the table. -/
def TableQuestion.LooksUp (dialect : Dialect) : TableQuestion → Prop
  | objectId | columnNames | columns | primaryKeys | definition => True
  | isTemporary => dialect = .snowflake
  | distribution | index => dialect = .synapse
  | rowCount => False

theorem TableQuestion.LooksUp.beginsWithLookup {question : TableQuestion}
    (looks : question.LooksUp dialect) (name : TableName) :
    BeginsWithLookup dialect name (question.ask dialect name) := by
  cases question with
  | objectId => exact beginsWithLookup_objectId.map _
  | columnNames | columns | primaryKeys | definition =>
      exact (beginsWithLookup_objectId_bind _).map _
  | isTemporary =>
      obtain rfl : dialect = .snowflake := looks
      exact beginsWithLookup_isTemporary.map _
  | distribution | index =>
      obtain rfl : dialect = .synapse := looks
      exact (beginsWithLookup_objectId_bind _).map _
  | rowCount => exact looks.elim

/-- **A missing table is reported as missing before anything else is asked.** Where the
answer to the look-up says that there is no such table, every question that looks the table
up ends with this report, and where the look-up is refused, with this refusal. Either way
the look-up is the only statement that is sent. -/
theorem missing_of_absent {question : TableQuestion} (looks : question.LooksUp dialect)
    (name : TableName) (connection : Connection σ) (state : σ) :
    let statement := (lookup dialect name).sql.text dialect
    let answer := (connection.answer statement state).1
    let run := (question.ask dialect name).run connection state
    (∀ rows, answer = .ok rows → SaysAbsent dialect name rows →
        run.outcome = .error (.catalog (.tableMissing name)) ∧ run.statements = [statement]) ∧
      ∀ message, answer = .error message →
        run.outcome = .error (.connection message) ∧ run.statements = [statement] := by
  have begins := looks.beginsWithLookup name
  exact ⟨fun _ => begins.run_of_absent, fun _ => begins.run_of_refused⟩

/-- A table is missing although two others are shown whose names a pattern takes for its
name, and the connection refuses every other statement. -/
theorem missing_of_absent_near :
    let name : TableName := ⟨"shop", "order_items"⟩
    let shown : List Row := [[("name", .text "ORDER_ITEMS")], [("name", .text "order-items")]]
    let statement := "SHOW TABLES LIKE 'order_items' IN SCHEMA \"shop\""
    let connection : Connection Unit := ⟨fun asked state =>
      (if asked = statement then .ok shown else .error "refused", state)⟩
    let run := (TableQuestion.definition.ask .snowflake name).run connection ()
    SaysAbsent .snowflake name shown ∧
      run.outcome = .error (.catalog (.tableMissing name)) ∧ run.statements = [statement] := by
  intro name shown statement connection run
  have absent : SaysAbsent .snowflake name shown := by
    simp [SaysAbsent, shown, Row.cell?, Fields.find?, name]
  have asked : (lookup .snowflake name).sql.text .snowflake = statement := by decide
  have answered : (connection.answer ((lookup .snowflake name).sql.text .snowflake) ()).1 =
      .ok shown := by
    rw [asked]
    simp only [connection, ↓reduceIte]
  have looks : TableQuestion.definition.LooksUp .snowflake := trivial
  have missing := (missing_of_absent looks name connection ()).1 shown answered absent
  rw [asked] at missing
  exact ⟨absent, missing⟩

end Session

end Warehouse
