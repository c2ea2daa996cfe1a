import Warehouse.Dialogue

/-! # Exchanges

An exchange is a list of statements with their answers. A dialogue reaches a result by an
exchange if it asks these statements in this order and ends with the result once they
are answered so; over a connection that gives these answers it is then carried out to
that result (`Dialogue.Reaches.run_eq`). In the same way a dialogue fails by an exchange
(`Dialogue.Fails.run_eq`). -/

namespace Warehouse

variable {α β σ : Type}

/-- Statements with the rows that answer them, in order. -/
abbrev Exchange := List (String × List Row)

/-- From the state on, the connection gives the answers of the exchange, if it is asked the
statements in their order. -/
def Connection.Answers (connection : Connection σ) : σ → Exchange → Prop
  | _, [] => True
  | state, (statement, rows) :: rest =>
      ∃ after, connection.answer statement state = (.ok rows, after) ∧
        connection.Answers after rest

namespace Dialogue

/-- The dialogue asks the statements of the exchange in their order and ends with the
result when they are answered so. -/
inductive Reaches : Dialogue α → Exchange → α → Prop where
  | done (result : α) : Reaches (done result) [] result
  | log {entry : Log.Entry} {next : Dialogue α} {exchange : Exchange} {result : α}
      (behind : Reaches next exchange result) : Reaches (log entry next) exchange result
  | ask {statement : String} {next : List Row → Dialogue α} {rows : List Row}
      {exchange : Exchange} {result : α} (behind : Reaches (next rows) exchange result) :
      Reaches (ask statement next) ((statement, rows) :: exchange) result

/-- One exchange after the other carries a sequence of dialogues. -/
theorem Reaches.bind {dialogue : Dialogue α} {next : α → Dialogue β} {first second : Exchange}
    {middle : α} {result : β} (early : Reaches dialogue first middle)
    (late : Reaches (next middle) second result) :
    Reaches (dialogue >>= next) (first ++ second) result := by
  induction early with
  | done => exact late
  | log _ ih => exact .log (ih late)
  | ask _ ih => exact .ask (ih late)

theorem Reaches.map {dialogue : Dialogue α} {exchange : Exchange} {result : α}
    (reaches : Reaches dialogue exchange result) (change : α → β) :
    Reaches (change <$> dialogue) exchange (change result) := by
  rw [← bind_pure_comp, ← List.append_nil exchange]
  exact reaches.bind (.done _)

theorem reaches_lift {computation : Except Failure α} {result : α}
    (success : computation = .ok result) :
    Reaches (liftM computation : Dialogue α) [] result := by
  subst success
  exact .done result

theorem reaches_lift_cell {reading : Except CellFault α} {result : α}
    (success : reading = .ok result) : Reaches (liftM reading : Dialogue α) [] result := by
  subst success
  exact .done result

theorem reaches_lift_table {making : Except TableFault α} {result : α}
    (success : making = .ok result) : Reaches (liftM making : Dialogue α) [] result := by
  subst success
  exact .done result

theorem reaches_record (entry : Log.Entry) : Reaches (record entry) [] () := .log (.done ())

theorem reaches_fetch (statement : String) (rows : List Row) :
    Reaches (fetch statement) [(statement, rows)] rows := .log (.ask (.done rows))

/-- Over a connection that gives the answers of the exchange, just its statements are sent
and the result is reached. -/
theorem Reaches.run_eq {dialogue : Dialogue α} {exchange : Exchange} {result : α}
    (reaches : Reaches dialogue exchange result) {connection : Connection σ} {state : σ}
    (answers : connection.Answers state exchange) :
    (dialogue.run connection state).outcome = .ok result ∧
      (dialogue.run connection state).statements = exchange.map Prod.fst := by
  induction reaches generalizing state with
  | done result => exact ⟨rfl, rfl⟩
  | log _ ih => exact ih answers
  | ask _ ih =>
      obtain ⟨after, answered, further⟩ := answers
      obtain ⟨outcome, statements⟩ := ih further
      simp only [run, answered, outcome, statements, List.map_cons, and_self]

/-! ## Exchanges that end in a failure -/

/-- The dialogue asks the statements of the exchange in their order and fails when they are
answered so. -/
inductive Fails : Dialogue α → Exchange → Failure → Prop where
  | failed (failure : Failure) : Fails (failed failure) [] failure
  | log {entry : Log.Entry} {next : Dialogue α} {exchange : Exchange} {failure : Failure}
      (behind : Fails next exchange failure) : Fails (log entry next) exchange failure
  | ask {statement : String} {next : List Row → Dialogue α} {rows : List Row}
      {exchange : Exchange} {failure : Failure} (behind : Fails (next rows) exchange failure) :
      Fails (ask statement next) ((statement, rows) :: exchange) failure

theorem fails_lift {computation : Except Failure α} {failure : Failure}
    (fails : computation = .error failure) :
    Fails (liftM computation : Dialogue α) [] failure := by
  subst fails
  exact .failed failure

/-- Nothing is asked behind a failure. -/
theorem Fails.bind {dialogue : Dialogue α} {exchange : Exchange} {failure : Failure}
    (early : Fails dialogue exchange failure) (next : α → Dialogue β) :
    Fails (dialogue >>= next) exchange failure := by
  induction early with
  | failed failure => exact .failed failure
  | log _ ih => exact .log ih
  | ask _ ih => exact .ask ih

theorem Reaches.bind_fails {dialogue : Dialogue α} {next : α → Dialogue β}
    {first second : Exchange} {middle : α} {failure : Failure}
    (early : Reaches dialogue first middle) (late : Fails (next middle) second failure) :
    Fails (dialogue >>= next) (first ++ second) failure := by
  induction early with
  | done => exact late
  | log _ ih => exact .log (ih late)
  | ask _ ih => exact .ask (ih late)

theorem Fails.map {dialogue : Dialogue α} {exchange : Exchange} {failure : Failure}
    (fails : Fails dialogue exchange failure) (change : α → β) :
    Fails (change <$> dialogue) exchange failure := by
  rw [← bind_pure_comp]
  exact fails.bind _

/-- Over a connection that gives the answers of the exchange, just its statements are sent
and the failure is met. -/
theorem Fails.run_eq {dialogue : Dialogue α} {exchange : Exchange} {failure : Failure}
    (fails : Fails dialogue exchange failure) {connection : Connection σ} {state : σ}
    (answers : connection.Answers state exchange) :
    (dialogue.run connection state).outcome = .error failure ∧
      (dialogue.run connection state).statements = exchange.map Prod.fst := by
  induction fails generalizing state with
  | failed failure => exact ⟨rfl, rfl⟩
  | log _ ih => exact ih answers
  | ask _ ih =>
      obtain ⟨after, answered, further⟩ := answers
      obtain ⟨outcome, statements⟩ := ih further
      simp only [run, answered, outcome, statements, List.map_cons, and_self]

end Dialogue

end Warehouse
