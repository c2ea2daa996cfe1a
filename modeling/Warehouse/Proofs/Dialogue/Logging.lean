import Warehouse.Dialogue

/-! # Dialogues and their log

A logger that is set to a threshold hands the records that pass it to a sink. As long as these
records can be written out and the sink is faithful, what is asked and how a dialogue ends do
not depend on the logger, and what is written is what the plain run keeps, without the records
below the threshold (`Dialogue.runLogged_eq`). A record that cannot be written out ends the
dialogue where the sink is strict (`Dialogue.exists_logging_failure`). Which records a dialogue
can write at all is told of all its branches at once by `Dialogue.Logs`. -/

namespace Warehouse

variable {α β σ : Type}

namespace Log.Level

/-- All records that pass the threshold can be written out. -/
def Renders (threshold : Level) (entries : List Entry) : Prop :=
  ∀ entry ∈ entries, threshold.passes entry.level = true → entry.isRenderable = true

instance (threshold : Level) (entries : List Entry) : Decidable (threshold.Renders entries) :=
  inferInstanceAs (Decidable (∀ entry ∈ entries, _))

variable {threshold : Level} {entry : Entry} {entries : List Entry}

/-- Nothing is below the threshold for debugging. -/
theorem passes_debug (level : Level) : debug.passes level = true :=
  decide_eq_true (Nat.zero_le _)

theorem Renders.above (all : debug.Renders entries) (threshold : Level) :
    threshold.Renders entries :=
  fun entry member _ => all entry member (passes_debug entry.level)

theorem renders_cons : threshold.Renders (entry :: entries) ↔
    (threshold.passes entry.level = true → entry.isRenderable = true) ∧
      threshold.Renders entries :=
  List.forall_mem_cons

end Log.Level

namespace Dialogue

variable {threshold : Log.Level} {connection : Connection σ} {dialogue : Dialogue α} {state : σ}

/-- The logger takes records out of the log and changes nothing else, if the sink is faithful
and the records that pass can be written out. -/
theorem runLogged_eq {sink : Log.Sink} (faithful : sink.Faithful)
    (renders : threshold.Renders (dialogue.run connection state).entries) :
    dialogue.runLogged sink threshold connection state =
      { dialogue.run connection state with
        entries := (dialogue.run connection state).entries.filter (threshold.passes ·.level) } := by
  induction dialogue generalizing state with
  | done result => rfl
  | failed failure => rfl
  | log entry next ih =>
      obtain ⟨first, others⟩ := Log.Level.renders_cons.mp renders
      simp only [runLogged, run, ih others, List.filter_cons]
      cases passes : threshold.passes entry.level with
      | false => simp [faithful.silent passes]
      | true => simp [faithful.written passes (first passes)]
  | ask statement next ih =>
      simp only [runLogged, run] at renders ⊢
      split
      · rfl
      · rename_i rows after answered
        rw [answered] at renders
        simp only [ih rows renders]

/-- A strict sink ends the dialogue at a record that passes and cannot be written out. -/
theorem exists_logging_failure
    (unwritable : ¬ threshold.Renders (dialogue.run connection state).entries) :
    ∃ message, (dialogue.runLogged .strict threshold connection state).outcome =
      .error (.logging message) := by
  induction dialogue generalizing state with
  | done result => simp [run, Log.Level.Renders] at unwritable
  | failed failure => simp [run, Log.Level.Renders] at unwritable
  | log entry next ih =>
      simp only [run, Log.Level.renders_cons] at unwritable
      by_cases first : threshold.passes entry.level = true → entry.isRenderable = true
      · obtain ⟨message, ends⟩ := ih fun others => unwritable ⟨first, others⟩
        refine ⟨message, ?_⟩
        cases passes : threshold.passes entry.level with
        | false => simpa [runLogged, Log.Sink.strict, passes] using ends
        | true => simpa [runLogged, Log.Sink.strict, passes, first passes] using ends
      · obtain ⟨passes, lost⟩ := Classical.not_imp.mp first
        exact ⟨_, by simp [runLogged, Log.Sink.strict, passes, lost]; rfl⟩
  | ask statement next ih =>
      simp only [runLogged, run] at unwritable ⊢
      split
      · rename_i answered
        rw [answered] at unwritable
        simp [Log.Level.Renders] at unwritable
      · rename_i rows after answered
        rw [answered] at unwritable
        exact ih rows unwritable

/-- The plain run is the one whose sink takes every record. -/
theorem run_eq_runLogged : dialogue.run connection state =
    dialogue.runLogged ⟨fun _ _ => .ok true⟩ threshold connection state := by
  induction dialogue generalizing state with
  | done result => rfl
  | failed failure => rfl
  | log entry next ih => simp only [run, runLogged, ih, ↓reduceIte]
  | ask statement next ih => simp only [run, runLogged, ih]

/-! ## What can be logged -/

/-- Whatever is answered, every record that is written is admitted. -/
def Logs (admitted : Log.Entry → Prop) : Dialogue α → Prop
  | done _ => True
  | failed _ => True
  | log entry next => admitted entry ∧ next.Logs admitted
  | ask _ next => ∀ rows, (next rows).Logs admitted

variable {admitted : Log.Entry → Prop}

theorem Logs.bind {dialogue : Dialogue α} {next : α → Dialogue β}
    (early : dialogue.Logs admitted) (late : ∀ result, (next result).Logs admitted) :
    (dialogue >>= next).Logs admitted := by
  change (dialogue.bind next).Logs admitted
  induction dialogue with
  | done result => exact late result
  | failed failure => trivial
  | log entry dialogue ih => exact ⟨early.1, ih early.2⟩
  | ask statement answered ih => exact fun rows => ih rows (early rows)

theorem Logs.map {dialogue : Dialogue α} (logs : dialogue.Logs admitted) (change : α → β) :
    (change <$> dialogue).Logs admitted := by
  rw [← bind_pure_comp]
  exact logs.bind fun _ => trivial

theorem logs_ofExcept {computation : Except Failure α} :
    (ofExcept computation).Logs admitted := by
  cases computation <;> trivial

theorem logs_lift_request {compiling : Except RequestFault α} :
    (liftM compiling : Dialogue α).Logs admitted := logs_ofExcept

theorem logs_record {entry : Log.Entry} (fine : admitted entry) :
    (record entry).Logs admitted := ⟨fine, trivial⟩

theorem logs_records {entries : List Log.Entry} (fine : ∀ entry ∈ entries, admitted entry) :
    (records entries).Logs admitted := by
  unfold records
  induction entries with
  | nil => trivial
  | cons entry rest ih =>
      obtain ⟨first, others⟩ := List.forall_mem_cons.mp fine
      change (record entry >>= fun _ => rest.forM record).Logs admitted
      exact (logs_record first).bind fun _ => ih others

/-- Only admitted records are written, over every connection and to every sink. -/
theorem Logs.entries_runLogged (logs : dialogue.Logs admitted) (sink : Log.Sink) :
    ∀ entry ∈ (dialogue.runLogged sink threshold connection state).entries, admitted entry := by
  induction dialogue generalizing state with
  | done result => simp [runLogged]
  | failed failure => simp [runLogged]
  | log entry next ih =>
      simp only [runLogged]
      rcases sink.write threshold entry with _ | ⟨_ | _⟩
      · simp
      · exact ih logs.2
      · exact List.forall_mem_cons.mpr ⟨logs.1, ih logs.2⟩
  | ask statement next ih =>
      simp only [runLogged]
      split
      · simp
      · exact ih _ (logs _)

theorem Logs.entries_run (logs : dialogue.Logs admitted) :
    ∀ entry ∈ (dialogue.run connection state).entries, admitted entry := by
  rw [@run_eq_runLogged _ _ .debug]
  exact logs.entries_runLogged _

end Dialogue

end Warehouse
