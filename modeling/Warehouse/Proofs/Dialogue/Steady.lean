import Warehouse.Proofs.Dialogue.Computation
import Warehouse.Dialogue

/-! # Steady connections

A connection is steady if it answers equal statements equally, whatever was asked before. A
dialogue over it ends in the same way from every state (`Dialogue.outcome_run_eq`): its
conclusion follows from the answers alone, and the conclusion of a sequence from those of
its parts (`Dialogue.conclusion_bind`). -/

namespace Warehouse

variable {α β σ : Type}

/-- What is answered to each statement: rows, or the message of a failure. -/
abbrev AnswerTable := String → Except String (List Row)

/-- The connection answers equal statements equally, whatever its state is. -/
def Connection.IsSteady (connection : Connection σ) : Prop :=
  ∀ statement here there,
    (connection.answer statement here).1 = (connection.answer statement there).1

/-- The answers of a connection in a given state. -/
def Connection.answersIn (connection : Connection σ) (state : σ) : AnswerTable :=
  fun statement => (connection.answer statement state).1

namespace Dialogue

open Warehouse.Computation

/-- What a dialogue ends with when its statements are answered in a fixed way. -/
def conclusion (answers : AnswerTable) : Dialogue α → Except Failure α
  | done result => .ok result
  | failed failure => .error failure
  | log _ next => next.conclusion answers
  | ask statement next =>
      match answers statement with
      | .error message => .error (.connection message)
      | .ok rows => (next rows).conclusion answers

variable {answers : AnswerTable}

@[simp] theorem conclusion_pure (result : α) :
    (pure result : Dialogue α).conclusion answers = pure result := rfl

@[simp] theorem conclusion_record (entry : Log.Entry) :
    (record entry).conclusion answers = pure () := rfl

theorem conclusion_bind (dialogue : Dialogue α) (next : α → Dialogue β) :
    (dialogue >>= next).conclusion answers =
      dialogue.conclusion answers >>= fun result => (next result).conclusion answers := by
  change (dialogue.bind next).conclusion answers = _
  induction dialogue with
  | done result => rfl
  | failed failure => rfl
  | log entry dialogue ih => exact ih
  | ask statement answered ih =>
      simp only [Dialogue.bind, conclusion]
      cases answers statement with
      | error message => rfl
      | ok rows => exact ih rows

theorem conclusion_map (change : α → β) (dialogue : Dialogue α) :
    (change <$> dialogue).conclusion answers = change <$> dialogue.conclusion answers := by
  rw [← bind_pure_comp, ← bind_pure_comp, conclusion_bind]
  rfl

theorem conclusion_map_eq_ok_iff {change : α → β} (injective : Function.Injective change)
    {dialogue : Dialogue α} {result : α} :
    (change <$> dialogue).conclusion answers = .ok (change result) ↔
      dialogue.conclusion answers = .ok result := by
  rw [conclusion_map, map_eq_ok_iff]
  constructor
  · rintro ⟨found, concluded, same⟩
    rw [concluded, injective same]
  · exact fun concluded => ⟨result, concluded, rfl⟩

theorem conclusion_ofExcept (computation : Except Failure α) :
    (ofExcept computation).conclusion answers = computation := by
  cases computation <;> rfl

theorem conclusion_lift_table (making : Except TableFault α) :
    (liftM making : Dialogue α).conclusion answers = (liftM making : Except Failure α) :=
  conclusion_ofExcept _

/-- Over a steady connection a dialogue ends as the answers in any one state conclude. -/
theorem outcome_run_eq {connection : Connection σ} (steady : connection.IsSteady)
    (dialogue : Dialogue α) (start state : σ) :
    (dialogue.run connection state).outcome =
      dialogue.conclusion (connection.answersIn start) := by
  induction dialogue generalizing state with
  | done result => rfl
  | failed failure => rfl
  | log entry next ih => exact ih state
  | ask statement next ih =>
      -- The state may move on, which is why the induction is over all states.
      have same : connection.answersIn start statement = (connection.answer statement state).1 :=
        steady statement start state
      simp only [run, conclusion, same]
      rcases connection.answer statement state with ⟨_ | rows, after⟩
      · rfl
      · exact ih rows after

end Dialogue

end Warehouse
