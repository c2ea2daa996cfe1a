import Warehouse.Proofs.Dialogue.Computation
import Warehouse.Dialogue

/-! # What a dialogue guarantees

A dialogue is a tree that branches over all answers. `Dialogue.Guarantees` says of all
its branches at once that every statement on the way satisfies one condition and every
result at the end another, so nothing about a connection has to be assumed. The
condition of a dialogue that goes on with another is that of the first with the
condition of the second for its results (`Dialogue.guarantees_bind`), and whatever is
guaranteed holds of every run over every connection
(`Dialogue.Guarantees.statements_run`, `Dialogue.Guarantees.outcome_run`). -/

namespace Warehouse.Dialogue

variable {α β σ : Type}

/-- Whatever is answered, every statement that is asked satisfies the one condition and
every result that is reached the other. -/
def Guarantees (asked : String → Prop) (reached : α → Prop) : Dialogue α → Prop
  | done result => reached result
  | failed _ => True
  | log _ next => next.Guarantees asked reached
  | ask statement next => asked statement ∧ ∀ rows, (next rows).Guarantees asked reached

variable {asked : String → Prop} {reached : α → Prop}

@[simp] theorem guarantees_pure {result : α} :
    (pure result : Dialogue α).Guarantees asked reached ↔ reached result := Iff.rfl

@[simp] theorem guarantees_failed {failure : Failure} :
    (failed failure : Dialogue α).Guarantees asked reached ↔ True := Iff.rfl

@[simp] theorem guarantees_log {entry : Log.Entry} {next : Dialogue α} :
    (log entry next).Guarantees asked reached ↔ next.Guarantees asked reached := Iff.rfl

/-- What a sequence guarantees is what its first part guarantees when the second part is
taken for the condition on results. -/
@[simp] theorem guarantees_bind {dialogue : Dialogue α} {next : α → Dialogue β}
    {reached : β → Prop} :
    (dialogue >>= next).Guarantees asked reached ↔
      dialogue.Guarantees asked fun result => (next result).Guarantees asked reached := by
  change (dialogue.bind next).Guarantees asked reached ↔ _
  induction dialogue with
  | done result => rfl
  | failed failure => rfl
  | log entry dialogue ih => exact ih
  | ask statement answered ih =>
      exact and_congr_right fun _ => forall_congr' fun rows => ih rows

@[simp] theorem guarantees_record {entry : Log.Entry} {reached : Unit → Prop} :
    (record entry).Guarantees asked reached ↔ reached () := Iff.rfl

@[simp] theorem guarantees_fetch {statement : String} {reached : List Row → Prop} :
    (fetch statement).Guarantees asked reached ↔ asked statement ∧ ∀ rows, reached rows :=
  Iff.rfl

/-! ## Computations inside of a dialogue -/

@[simp] theorem guarantees_ofExcept {computation : Except Failure α} :
    (ofExcept computation).Guarantees asked reached ↔
      ∀ result, computation = .ok result → reached result := by
  cases computation <;> simp [ofExcept, Guarantees]

@[simp] theorem guarantees_lift {computation : Except Failure α} :
    (liftM computation : Dialogue α).Guarantees asked reached ↔
      ∀ result, computation = .ok result → reached result := guarantees_ofExcept

@[simp] theorem guarantees_lift_cell {reading : Except CellFault α} :
    (liftM reading : Dialogue α).Guarantees asked reached ↔
      ∀ result, reading = .ok result → reached result := by
  change (ofExcept (liftM reading : Except Failure α)).Guarantees asked reached ↔ _
  simp only [guarantees_ofExcept, Computation.lift_cell_eq_ok_iff]

@[simp] theorem guarantees_lift_table {making : Except TableFault α} :
    (liftM making : Dialogue α).Guarantees asked reached ↔
      ∀ result, making = .ok result → reached result := by
  change (ofExcept (liftM making : Except Failure α)).Guarantees asked reached ↔ _
  simp only [guarantees_ofExcept, Computation.lift_table_eq_ok_iff]

/-! ## Runs -/

theorem Guarantees.mono {asked weaker : String → Prop} {reached enough : α → Prop}
    {dialogue : Dialogue α} (sound : dialogue.Guarantees asked reached)
    (asking : ∀ statement, asked statement → weaker statement)
    (reaching : ∀ result, reached result → enough result) :
    dialogue.Guarantees weaker enough := by
  induction dialogue with
  | done result => exact reaching result sound
  | failed failure => trivial
  | log entry next ih => exact ih sound
  | ask statement next ih => exact ⟨asking statement sound.1, fun rows => ih rows (sound.2 rows)⟩

/-- Where no statement matters, what holds of everything is guaranteed. -/
theorem guarantees_of_forall {dialogue : Dialogue α} (all : ∀ result, reached result) :
    dialogue.Guarantees (fun _ => True) reached := by
  induction dialogue with
  | done result => exact all result
  | failed failure => trivial
  | log entry next ih => exact ih
  | ask statement next ih => exact ⟨trivial, ih⟩

/-- Over every connection, only guaranteed statements are sent. -/
theorem Guarantees.statements_run {dialogue : Dialogue α}
    (sound : dialogue.Guarantees asked reached) (connection : Connection σ) (state : σ) :
    ∀ statement ∈ (dialogue.run connection state).statements, asked statement := by
  induction dialogue generalizing state with
  | done result => simp [run]
  | failed failure => simp [run]
  | log entry next ih => exact ih sound state
  | ask statement next ih =>
      simp only [run]
      rcases connection.answer statement state with ⟨_ | rows, after⟩
      · simpa using sound.1
      · rw [List.forall_mem_cons]
        exact ⟨sound.1, ih rows (sound.2 rows) after⟩

/-- Over every connection, only guaranteed results are reached. -/
theorem Guarantees.outcome_run {dialogue : Dialogue α}
    (sound : dialogue.Guarantees asked reached) {connection : Connection σ} {state : σ}
    {result : α} (success : (dialogue.run connection state).outcome = .ok result) :
    reached result := by
  induction dialogue generalizing state with
  | done found =>
      cases success
      exact sound
  | failed failure => cases success
  | log entry next ih => exact ih sound success
  | ask statement next ih =>
      rcases answered : connection.answer statement state with ⟨_ | rows, after⟩
      · simp [run, answered] at success
      · simp only [run, answered] at success
        exact ih rows (sound.2 rows) success

/-! ## Runs of sequences -/

/-- What holds of the statements of a first dialogue, and of those that are asked on from
the result that it reaches, holds of all statements. -/
theorem statements_run_bind {connection : Connection σ} {state : σ} {dialogue : Dialogue α}
    {next : α → Dialogue β} {asked : String → Prop}
    (first : ∀ statement ∈ (dialogue.run connection state).statements, asked statement)
    (second : ∀ result, (dialogue.run connection state).outcome = .ok result →
      (next result).Guarantees asked fun _ => True) :
    ∀ statement ∈ ((dialogue >>= next).run connection state).statements, asked statement := by
  change ∀ statement ∈ ((dialogue.bind next).run connection state).statements, asked statement
  rw [run_bind]
  rcases outcome : (dialogue.run connection state).outcome with failure | result
  · simpa only [outcome] using first
  · simp only [outcome, List.mem_append]
    rintro statement (early | late)
    · exact first statement early
    · exact (second result outcome).statements_run connection _ statement late

@[simp] theorem statements_run_map {connection : Connection σ} {state : σ}
    {dialogue : Dialogue α} {change : α → β} :
    ((change <$> dialogue).run connection state).statements =
      (dialogue.run connection state).statements := by
  rw [← bind_pure_comp]
  change ((dialogue.bind fun result => done (change result)).run connection state).statements = _
  rw [run_bind]
  rcases outcome : (dialogue.run connection state).outcome with failure | result
  · simp only [outcome]
  · simp only [outcome, run, List.append_nil]

end Warehouse.Dialogue

/-- A connection that answers with prepared rows one after the other, whatever it is
asked, and with no rows once they are used up. -/
def Warehouse.Connection.prepared : Connection (List (List Row)) where
  answer _ answers := (.ok (answers.headD []), answers.tail)
