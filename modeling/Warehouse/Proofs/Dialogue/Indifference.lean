import Warehouse.Proofs.Dialogue.Computation
import Warehouse.Dialogue

/-! # Dialogues that do not tell answers apart

Two drivers may deliver the answer to one statement in different forms. A dialogue is
indifferent to the form if it goes on in the same way after any two alike answers. Carried
out over two connections whose answers are always alike, it then sends the same statements,
writes the same log and ends in the same way (`Dialogue.Indifferent.run_agree`). -/

namespace Warehouse

open Warehouse.Computation

variable {α β σ τ : Type}

/-! ## Alike connections -/

/-- From related states two connections give alike answers to every statement, or refuse it
with the same message, and their next states are related again. -/
def Connection.Alike (alike : List Row → List Row → Prop) (related : σ → τ → Prop)
    (first : Connection σ) (second : Connection τ) : Prop :=
  ∀ statement here there, related here there →
    Corresponds alike (first.answer statement here).1 (second.answer statement there).1 ∧
      related (first.answer statement here).2 (second.answer statement there).2

/-- Nothing that can be observed tells two runs apart, and they end in related states. -/
structure Run.Agree (related : σ → τ → Prop) (first : Run σ α) (second : Run τ α) : Prop where
  outcome : first.outcome = second.outcome
  statements : first.statements = second.statements
  entries : first.entries = second.entries
  state : related first.state second.state

namespace Dialogue

/-! ## Indifferent dialogues -/

/-- The dialogue goes on in the same way after any two alike answers to a statement. -/
def Indifferent (alike : List Row → List Row → Prop) : Dialogue α → Prop
  | done _ => True
  | failed _ => True
  | log _ next => next.Indifferent alike
  | ask _ next => ∀ rows, (next rows).Indifferent alike ∧
      ∀ others, alike rows others → next rows = next others

variable {alike : List Row → List Row → Prop}

theorem indifferent_record (entry : Log.Entry) : (record entry).Indifferent alike := trivial

theorem indifferent_ofExcept {computation : Except Failure α} :
    (ofExcept computation).Indifferent alike := by
  cases computation <;> trivial

/-- A sequence is indifferent if its parts are. -/
theorem Indifferent.bind {dialogue : Dialogue α} {next : α → Dialogue β}
    (early : dialogue.Indifferent alike) (late : ∀ result, (next result).Indifferent alike) :
    (dialogue >>= next).Indifferent alike := by
  change (dialogue.bind next).Indifferent alike
  induction dialogue with
  | done result => exact late result
  | failed failure => trivial
  | log entry dialogue ih => exact ih early
  | ask statement answered ih =>
      intro rows
      refine ⟨ih rows (early rows).1, ?_⟩
      intro others same
      simp only [(early rows).2 others same]

/-- Rows that are fetched and read as their alike ones would be are not told apart. -/
theorem indifferent_fetch_read (statement : String) {read : List Row → Except Failure α}
    (same : ∀ rows others, alike rows others → read rows = read others) :
    (fetch statement >>= fun rows => (liftM (read rows) : Dialogue α)).Indifferent alike := by
  intro rows
  refine ⟨indifferent_ofExcept, ?_⟩
  intro others alike
  exact congrArg ofExcept (same rows others alike)

/-! ## Runs -/

/-- Over alike connections, nothing tells the runs of an indifferent dialogue apart. -/
theorem Indifferent.run_agree {dialogue : Dialogue α} (indifferent : dialogue.Indifferent alike)
    {related : σ → τ → Prop} {first : Connection σ} {second : Connection τ}
    (connections : first.Alike alike related second) {here : σ} {there : τ}
    (start : related here there) :
    (dialogue.run first here).Agree related (dialogue.run second there) := by
  induction dialogue generalizing here there with
  | done result => exact ⟨rfl, rfl, rfl, start⟩
  | failed failure => exact ⟨rfl, rfl, rfl, start⟩
  | log entry next ih =>
      obtain ⟨outcome, statements, entries, state⟩ := ih indifferent start
      exact ⟨outcome, statements, congrArg (entry :: ·) entries, state⟩
  | ask statement next ih =>
      -- The connections move together, so the induction goes on from their next states.
      obtain ⟨answers, after⟩ := connections statement here there start
      rcases given : first.answer statement here with ⟨answer, state⟩
      rcases taken : second.answer statement there with ⟨other, partner⟩
      rw [given, taken] at answers after
      cases answers with
      | failed message =>
          simp only [run, given, taken]
          exact ⟨rfl, rfl, rfl, after⟩
      | @ok rows others same =>
          obtain ⟨onward, unmoved⟩ := indifferent rows
          have agree := ih rows onward after
          simp only [run, given, taken, ← unmoved others same]
          exact ⟨agree.outcome, congrArg (statement :: ·) agree.statements, agree.entries,
            agree.state⟩

end Dialogue

end Warehouse
