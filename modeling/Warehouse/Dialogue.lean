import Warehouse.Catalog.Row
import Warehouse.Failure
import Warehouse.Log.Entry

/-! # Dialogues with a connection

Reading a catalog means to send statements, look at the rows that come back, and
decide what to ask next. A `Dialogue` is such a plan as data: it says for all
possible answers what will be asked and what the result will be, and involves no
connection. `Dialogue.run` carries it out over a connection, which may change its
state with every statement, and keeps everything that can be observed. A dialogue
ends at its first failure, in particular when the connection fails.
`Dialogue.runLogged` hands the records to a sink instead, which may fail as well. -/

namespace Warehouse

/-- A plan that asks a connection, writes log records, and ends with a result or
a failure. -/
inductive Dialogue (α : Type) where
  | done (result : α)
  | failed (failure : Failure)
  | log (entry : Log.Entry) (next : Dialogue α)
  | ask (statement : String) (next : List Row → Dialogue α)

namespace Dialogue

variable {α β γ σ : Type}

/-- Goes on with the result of a dialogue, if there is one. -/
protected def bind : Dialogue α → (α → Dialogue β) → Dialogue β
  | done result, continuation => continuation result
  | failed failure, _ => failed failure
  | log entry next, continuation => log entry (next.bind continuation)
  | ask statement next, continuation =>
      ask statement fun rows => (next rows).bind continuation

instance : Monad Dialogue where
  pure := done
  bind := Dialogue.bind

/-- The dialogue that asks nothing and ends as a computation does. -/
def ofExcept : Except Failure α → Dialogue α
  | .ok result => done result
  | .error failure => failed failure

instance : MonadLift (Except Failure) Dialogue := ⟨ofExcept⟩

/-- Writes a log record. -/
def record (entry : Log.Entry) : Dialogue Unit := log entry (done ())

/-- Writes log records one after the other. -/
def records (entries : List Log.Entry) : Dialogue Unit := entries.forM record

/-- The record of a statement that goes to the connection. -/
def sendingEntry (event statement : String) : Log.Entry where
  level := .debug
  logger := "table_backend_utils.connection"
  event := event
  fields := [("sql", .text statement)]

/-- The rows that the connection answers to a statement. -/
def fetch (statement : String) : Dialogue (List Row) :=
  log (sendingEntry "connection.fetch_all" statement) (ask statement done)

/-- Has the connection carry out a statement. -/
def execute (statement : String) : Dialogue Unit :=
  log (sendingEntry "connection.execute" statement) (ask statement fun _ => done ())

/-! ## Laws -/

theorem bind_done (dialogue : Dialogue α) : dialogue.bind done = dialogue := by
  induction dialogue with
  | done result => rfl
  | failed failure => rfl
  | log entry next ih => simp [Dialogue.bind, ih]
  | ask statement next ih => simp [Dialogue.bind, ih]

theorem bind_assoc (dialogue : Dialogue α) (first : α → Dialogue β) (second : β → Dialogue γ) :
    (dialogue.bind first).bind second =
      dialogue.bind fun result => (first result).bind second := by
  induction dialogue with
  | done result => rfl
  | failed failure => rfl
  | log entry next ih => simp [Dialogue.bind, ih]
  | ask statement next ih => simp [Dialogue.bind, ih]

instance : LawfulMonad Dialogue :=
  LawfulMonad.mk' Dialogue bind_done (fun _ _ => rfl) bind_assoc

end Dialogue

/-- A connection answers a statement with rows or a message, from a state that
the statement may change. -/
structure Connection (σ : Type) where
  answer : String → σ → Except String (List Row) × σ

/-- What can be observed of a dialogue that was carried out. -/
structure Run (σ α : Type) where
  outcome : Except Failure α
  statements : List String
  entries : List Log.Entry
  state : σ

namespace Dialogue

variable {α β σ : Type}

/-- Carries out a dialogue over a connection in a given state. All its records are kept. -/
def run (connection : Connection σ) : Dialogue α → σ → Run σ α
  | done result, state => ⟨.ok result, [], [], state⟩
  | failed failure, state => ⟨.error failure, [], [], state⟩
  | log entry next, state =>
      let rest := next.run connection state
      { rest with entries := entry :: rest.entries }
  | ask statement next, state =>
      match connection.answer statement state with
      | (.error message, state) => ⟨.error (.connection message), [statement], [], state⟩
      | (.ok rows, state) =>
          let rest := (next rows).run connection state
          { rest with statements := statement :: rest.statements }

/-- Carries out a dialogue over a connection while the logger, set to a threshold, hands
the records to a sink. A record that the sink fails for ends the dialogue. -/
def runLogged (sink : Log.Sink) (threshold : Log.Level) (connection : Connection σ) :
    Dialogue α → σ → Run σ α
  | done result, state => ⟨.ok result, [], [], state⟩
  | failed failure, state => ⟨.error failure, [], [], state⟩
  | log entry next, state =>
      match sink.write threshold entry with
      | .error message => ⟨.error (.logging message), [], [], state⟩
      | .ok written =>
          let rest := next.runLogged sink threshold connection state
          if written then { rest with entries := entry :: rest.entries } else rest
  | ask statement next, state =>
      match connection.answer statement state with
      | (.error message, state) => ⟨.error (.connection message), [statement], [], state⟩
      | (.ok rows, state) =>
          let rest := (next rows).runLogged sink threshold connection state
          { rest with statements := statement :: rest.statements }

/-- A dialogue that is followed by another runs first; what it leaves behind is
where the other starts. -/
theorem run_bind (connection : Connection σ) (dialogue : Dialogue α)
    (continuation : α → Dialogue β) (state : σ) :
    (dialogue.bind continuation).run connection state =
      let first := dialogue.run connection state
      match first.outcome with
      | .error failure => ⟨.error failure, first.statements, first.entries, first.state⟩
      | .ok result =>
          let second := (continuation result).run connection first.state
          ⟨second.outcome, first.statements ++ second.statements,
            first.entries ++ second.entries, second.state⟩ := by
  induction dialogue generalizing state with
  | done result => rfl
  | failed failure => rfl
  | log entry next ih =>
      simp only [Dialogue.bind, run, ih]
      cases (next.run connection state).outcome <;> rfl
  | ask statement next ih =>
      simp only [Dialogue.bind, run]
      rcases connection.answer statement state with ⟨_ | rows, after⟩
      · rfl
      · simp only [ih]
        cases ((next rows).run connection after).outcome <;> rfl

end Dialogue

end Warehouse
