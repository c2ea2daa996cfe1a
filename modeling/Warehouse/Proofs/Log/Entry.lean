import Warehouse.Log.Entry

/-! # Which records show and hold what

A record whose fields are all texts can be written out whatever these texts are
(`Log.Entry.isRenderable_of_isTextual`), and what is written of a record shows a statement only
if its own fields do (`Log.Entry.sql_not_mem_written`). A discreet record (`Log.Entry.IsDiscreet`)
shows one for debugging only, and holds no number unless it is about a table that is created or
has been read. -/

namespace Warehouse

namespace Fields

variable {fields : Fields} {key : String}

theorem find?_eq_none_iff : fields.find? key = none ↔ key ∉ fields.map Prod.fst := by
  simp only [find?, Option.map_eq_none_iff, List.find?_eq_none, decide_eq_true_eq, List.mem_map,
    not_exists, not_and]

/-- All values are texts. -/
def IsTextual (fields : Fields) : Prop := ∀ field ∈ fields, ∃ word, field.2 = .text word

theorem isTextual_cons {field : String × Value} :
    IsTextual (field :: fields) ↔ (∃ word, field.2 = .text word) ∧ fields.IsTextual :=
  List.forall_mem_cons

theorem IsTextual.set (textual : fields.IsTextual) (key word : String) :
    (set key (.text word) fields).IsTextual := by
  induction fields with
  | nil => exact isTextual_cons.mpr ⟨⟨word, rfl⟩, textual⟩
  | cons field rest ih =>
      obtain ⟨first, others⟩ := isTextual_cons.mp textual
      unfold Fields.set
      split
      · exact isTextual_cons.mpr ⟨⟨word, rfl⟩, others⟩
      · exact isTextual_cons.mpr ⟨first, ih others⟩

theorem IsTextual.override {others : Fields} (textual : fields.IsTextual)
    (later : others.IsTextual) : (fields.override others).IsTextual := by
  unfold Fields.override
  induction others generalizing fields with
  | nil => exact textual
  | cons field rest ih =>
      obtain ⟨⟨word, text⟩, behind⟩ := isTextual_cons.mp later
      obtain ⟨key, value⟩ := field
      cases text
      exact ih (textual.set key word) behind

theorem IsTextual.redact (textual : fields.IsTextual) : IsTextual (Log.redact fields) := by
  induction fields with
  | nil => simp [Log.redact, IsTextual]
  | cons field rest ih =>
      obtain ⟨⟨word, text⟩, others⟩ := isTextual_cons.mp textual
      obtain ⟨key, value⟩ := field
      cases text
      unfold Log.redact
      refine isTextual_cons.mpr ⟨?_, ih others⟩
      split
      · exact ⟨_, rfl⟩
      · exact ⟨word, by simp [Log.redactValue]⟩

theorem IsTextual.exists_displayEntries? (textual : fields.IsTextual) :
    ∃ shown, Value.displayEntries? fields = some shown := by
  induction fields with
  | nil => exact ⟨[], by simp [Value.displayEntries?]⟩
  | cons field rest ih =>
      obtain ⟨⟨word, text⟩, others⟩ := isTextual_cons.mp textual
      obtain ⟨key, value⟩ := field
      cases text
      obtain ⟨shown, rest_shown⟩ := ih others
      exact ⟨_, by simp [Value.displayEntries?, Value.display?, rest_shown]; rfl⟩

end Fields

namespace Log.Entry

/-- The events of a table that is created or has been read. -/
def tableEvents : List String :=
  ["table_query_builder.create_table", "table_reflection.definition_loaded"]

/-- Only a record for debugging shows a statement, and only one of a table that is created or
has been read holds a number. -/
structure IsDiscreet (entry : Entry) : Prop where
  hidesSql : entry.level ≠ .debug → "sql" ∉ entry.written.map Prod.fst
  renders : entry.event ∉ tableEvents → entry.isRenderable = true

variable {entry : Entry}

/-- The fields that every record gets besides its own show no statement. -/
theorem sql_not_mem_written (absent : "sql" ∉ entry.fields.map Prod.fst) :
    "sql" ∉ entry.written.map Prod.fst := by
  intro member
  -- Redaction and the missing time leave no key that was not there before.
  rw [written, map_fst_redact] at member
  obtain ⟨field, kept, key⟩ := List.mem_map.mp member
  have found := List.mem_map_of_mem (f := Prod.fst) (List.mem_filter.mp kept).1
  rw [key] at found
  refine Fields.find?_eq_none_iff.mp ?_ found
  simp only [Fields.override, List.foldl_cons, List.foldl_nil, Fields.find?_set,
    String.reduceEq, ↓reduceIte]
  exact Fields.find?_eq_none_iff.mpr absent

/-- A record of texts can be written out. -/
theorem isRenderable_of_isTextual (textual : entry.fields.IsTextual) :
    entry.isRenderable = true := by
  have own : Fields.IsTextual [("event", Value.text entry.event),
      ("level", .text entry.level.word), ("logger", .text entry.logger)] := by
    simp [Fields.IsTextual]
  have kept (keep : String × Value → Bool) :
      Fields.IsTextual ((entry.fields.override _).filter keep) :=
    fun field member => textual.override own field (List.mem_filter.mp member).1
  obtain ⟨shown, displayed⟩ := (kept (·.1 ≠ "timestamp")).redact.exists_displayEntries?
  have shows : (Value.map entry.written).asText? = _ := congrArg (· >>= _) displayed
  rw [isRenderable, shows]
  rfl

theorem isDiscreet_of_debug (debug : entry.level = .debug) (textual : entry.fields.IsTextual) :
    entry.IsDiscreet :=
  ⟨fun above => absurd debug above, fun _ => isRenderable_of_isTextual textual⟩

end Log.Entry

end Warehouse
