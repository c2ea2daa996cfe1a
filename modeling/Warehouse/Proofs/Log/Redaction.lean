import Warehouse.Log.Redaction

/-! # What redaction leaves as it is

A value inside of maps is reached by a path of keys. Redaction keeps the keys of every map that
is reached by a path without sensitive keys and every other value that is reached so, and puts
one fixed text in the place of whatever stands under the first sensitive key of a path
(`Log.redact_frame`). -/

namespace Warehouse

/-- The value at the end of a path of keys through maps inside of maps. -/
def Value.follow? : List String → Value → Option Value
  | [], value => some value
  | key :: path, .map entries => (Fields.find? entries key).bind (follow? path)
  | _ :: _, _ => none

theorem Value.follow?_append (path further : List String) (value : Value) :
    value.follow? (path ++ further) = (value.follow? path).bind (follow? further) := by
  induction path generalizing value with
  | nil => rfl
  | cons key path ih =>
      cases value with
      | map entries =>
          simp only [List.cons_append, follow?, Option.bind_assoc]
          exact congrArg _ (funext ih)
      | null | flag _ | number _ | fractional _ | text _ | list _ => rfl

namespace Log

/-! ## One map -/

/-- What stands under a key is redacted by itself. -/
theorem find?_redact (entries : Fields) (key : String) :
    (redact entries).find? key = (entries.find? key).map fun value =>
      if isSensitive key then redacted else redactValue value := by
  induction entries with
  | nil => rfl
  | cons entry rest ih =>
      obtain ⟨other, value⟩ := entry
      simp only [Fields.find?] at ih ⊢
      by_cases here : other = key
      · simp [redact, here]
      · simp [redact, here, ih]

/-- Only maps are changed, and they stay maps. -/
theorem redactValue_eq_iff_of_not_map {value result : Value}
    (other : ∀ entries, result ≠ .map entries) : redactValue value = result ↔ value = result := by
  cases value with
  | map entries =>
      constructor
      · intro same
        exact absurd same.symm (other _)
      · intro same
        exact absurd same.symm (other _)
  | null | flag _ | number _ | fractional _ | text _ | list _ => rfl

/-! ## Paths -/

/-- No key of the path is sensitive. -/
def IsOpen (path : List String) : Prop := ∀ key ∈ path, isSensitive key = false

/-- Along a path without sensitive keys, redaction changes what is reached by itself. -/
theorem follow?_redactValue {path : List String} (plain : IsOpen path) (value : Value) :
    (redactValue value).follow? path = (value.follow? path).map redactValue := by
  induction path generalizing value with
  | nil => rfl
  | cons key path ih =>
      obtain ⟨first, others⟩ := List.forall_mem_cons.mp plain
      cases value with
      | map entries =>
          simp only [redactValue, Value.follow?, find?_redact, first, Bool.false_eq_true, ↓reduceIte]
          cases Fields.find? entries key with
          | none => rfl
          | some value => exact ih others value
      | null | flag _ | number _ | fractional _ | text _ | list _ => rfl

/-- Whatever stands under the first sensitive key of a path is replaced. -/
theorem follow?_redactValue_of_sensitive {path : List String} {key : String} (plain : IsOpen path)
    (sensitive : isSensitive key = true) (value : Value) :
    (redactValue value).follow? (path ++ [key]) =
      (value.follow? (path ++ [key])).map fun _ => redacted := by
  rw [Value.follow?_append, Value.follow?_append, follow?_redactValue plain]
  cases value.follow? path with
  | none => rfl
  | some reached =>
      cases reached with
      | map entries =>
          simp only [Option.map_some, Option.bind_some, redactValue, Value.follow?, find?_redact,
            sensitive, ↓reduceIte]
          cases Fields.find? entries key <;> rfl
      | null | flag _ | number _ | fractional _ | text _ | list _ => rfl

/-! ## Redaction twice -/

mutual

theorem redactValue_redactValue :
    (value : Value) → redactValue (redactValue value) = redactValue value
  | .map entries => by simp only [redactValue, redact_redact entries]
  | .null | .flag _ | .number _ | .fractional _ | .text _ | .list _ => rfl

theorem redact_redact : (entries : Fields) → redact (redact entries) = redact entries
  | [] => rfl
  | (key, value) :: rest => by
      cases sensitive : isSensitive key <;>
        simp [redact, sensitive, redactValue_redactValue value, redact_redact rest]

end

/-- **What redaction keeps and what it replaces.** Along paths without sensitive keys, maps keep
their keys in their order and all other values are kept; under the first sensitive key of a path
stands one text, whatever stood there; and redacting once more changes nothing. -/
theorem redact_frame (entries : Fields) :
    (∀ path inner, IsOpen path → (Value.map entries).follow? path = some (.map inner) →
      ∃ cleaned, (Value.map (redact entries)).follow? path = some (.map cleaned) ∧
        cleaned.map Prod.fst = inner.map Prod.fst) ∧
      (∀ path key, IsOpen path → isSensitive key = true →
        (Value.map (redact entries)).follow? (path ++ [key]) =
          ((Value.map entries).follow? (path ++ [key])).map fun _ => .text "[REDACTED]") ∧
      (∀ path value, IsOpen path → (∀ inner, value ≠ .map inner) →
        ((Value.map (redact entries)).follow? path = some value ↔
          (Value.map entries).follow? path = some value)) ∧
      redact (redact entries) = redact entries := by
  have whole : Value.map (redact entries) = redactValue (.map entries) := by rw [redactValue]
  rw [whole]
  refine ⟨?_, ?_, ?_, redact_redact entries⟩
  · intro path inner plain reached
    rw [follow?_redactValue plain, reached]
    exact ⟨redact inner, by rw [Option.map_some, redactValue], map_fst_redact inner⟩
  · intro path key plain sensitive
    exact follow?_redactValue_of_sensitive plain sensitive _
  · intro path value plain other
    rw [follow?_redactValue plain, Option.map_eq_some_iff]
    simp only [redactValue_eq_iff_of_not_map other, exists_eq_right]

end Log

end Warehouse
