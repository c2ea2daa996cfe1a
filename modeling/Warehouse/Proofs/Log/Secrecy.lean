import Mathlib.Data.List.TakeWhile
import Warehouse.Log.Redaction
import Warehouse.Proofs.Text.Case

/-! # What a redacted record tells

Two records that differ only in what stands under sensitive keys are the same once they are
redacted, and records that differ in anything else are told apart
(`Log.redact_eq_iff_agreeBut`). Sensitive keys are looked for in maps inside of maps, and in
their first lines only: what stands in a list is told whatever its keys are, and so is what
stands under a key whose sensitive word comes behind a line feed. -/

namespace Warehouse

/-! ## Agreement but for what is hidden -/

mutual

/-- The values differ at most in what stands under hidden keys: of maps inside of maps and, if
lists are searched, of maps inside of lists. -/
def Value.AgreeBut (hidden : String → Prop) (searched : Prop) : Value → Value → Prop
  | .map first, .map second => Fields.AgreeBut hidden searched first second
  | .list first, .list second =>
      first = second ∨ searched ∧ Value.ItemsAgreeBut hidden searched first second
  | first, second => first = second

/-- The items of the lists agree one by one. -/
def Value.ItemsAgreeBut (hidden : String → Prop) (searched : Prop) :
    List Value → List Value → Prop
  | [], [] => True
  | first :: firstRest, second :: secondRest =>
      Value.AgreeBut hidden searched first second ∧
        Value.ItemsAgreeBut hidden searched firstRest secondRest
  | _, _ => False

/-- The maps have the same keys in the same order, and values that agree under each key that is
not hidden. -/
def Fields.AgreeBut (hidden : String → Prop) (searched : Prop) : Fields → Fields → Prop
  | [], [] => True
  | (key, first) :: firstRest, (other, second) :: secondRest =>
      key = other ∧ (hidden key ∨ Value.AgreeBut hidden searched first second) ∧
        Fields.AgreeBut hidden searched firstRest secondRest
  | _, _ => False

end

section Hidden

variable {hidden further : String → Prop} {searched : Prop}

mutual

/-- What agrees but for some keys agrees but for more of them. -/
theorem Value.AgreeBut.mono (more : ∀ key, hidden key → further key) :
    (first second : Value) → first.AgreeBut hidden searched second →
      first.AgreeBut further searched second
  | .map first, second => by
      cases second with
      | map second =>
          simp only [Value.AgreeBut]
          exact Fields.AgreeBut.mono more first second
      | null | flag _ | number _ | fractional _ | text _ | list _ => exact id
  | .list first, second => by
      cases second with
      | list second =>
          simp only [Value.AgreeBut]
          exact Or.imp id (And.imp id (Value.ItemsAgreeBut.mono more first second))
      | null | flag _ | number _ | fractional _ | text _ | map _ => exact id
  | .null, _ | .flag _, _ | .number _, _ | .fractional _, _ | .text _, _ => id

theorem Value.ItemsAgreeBut.mono (more : ∀ key, hidden key → further key) :
    (first second : List Value) → Value.ItemsAgreeBut hidden searched first second →
      Value.ItemsAgreeBut further searched first second
  | [], [] | [], _ :: _ | _ :: _, [] => id
  | first :: firstRest, second :: secondRest => by
      simp only [Value.ItemsAgreeBut]
      exact And.imp (Value.AgreeBut.mono more first second)
        (Value.ItemsAgreeBut.mono more firstRest secondRest)

theorem Fields.AgreeBut.mono (more : ∀ key, hidden key → further key) :
    (first second : Fields) → Fields.AgreeBut hidden searched first second →
      Fields.AgreeBut further searched first second
  | [], [] | [], _ :: _ | _ :: _, [] => id
  | (key, first) :: firstRest, (_, second) :: secondRest => by
      simp only [Fields.AgreeBut]
      exact And.imp id (And.imp (Or.imp (more key) (Value.AgreeBut.mono more first second))
        (Fields.AgreeBut.mono more firstRest secondRest))

end

end Hidden

namespace Log

/-! ## Sensitive keys -/

/-- One of the sensitive words stands among the characters, spelled by characters each of which
counts as a letter of it. -/
def HoldsWord (letter : Char → Char) (chars : List Char) : Prop :=
  ∃ word ∈ sensitiveWords, ∃ spelled, spelled <:+: chars ∧ spelled.map letter = word.toList

/-- The first line of a key. -/
def firstLine (key : String) : List Char := key.toList.takeWhile (· ≠ '\n')

theorem isSensitive_iff {key : String} :
    isSensitive key = true ↔ HoldsWord Text.caseless (firstLine key) := by
  simp only [isSensitive, HoldsWord, firstLine, List.any_eq_true, Text.holdsWordCaseless,
    Text.occursIn_iff, List.infix_map_iff, @eq_comm _ (String.toList _)]

/-- A key of one line that holds a sensitive word in any letter case is sensitive. -/
theorem isSensitive_of_holdsWord {key : String} (line : '\n' ∉ key.toList)
    (holds : HoldsWord Char.toLower key.toList) : isSensitive key = true := by
  have whole : firstLine key = key.toList :=
    List.takeWhile_eq_self_iff.mpr fun c member => decide_eq_true fun same => line (same ▸ member)
  have ascii : ∀ word ∈ sensitiveWords, word.toList.all (·.toNat < 128) = true := by decide
  obtain ⟨word, sensitive, spelled, inside, same⟩ := holds
  rw [isSensitive_iff, whole]
  exact ⟨word, sensitive, spelled, inside,
    Text.map_caseless_of_map_toLower (ascii word sensitive) same⟩

/-! ## Two records -/

mutual

/-- Values are the same once they are redacted exactly if they agree but for sensitive keys. -/
theorem redactValue_eq_iff : (first second : Value) →
    (redactValue first = redactValue second ↔
      first.AgreeBut (isSensitive · = true) False second)
  | .map first, second => by
      cases second <;> simp [redactValue, Value.AgreeBut, redact_eq_iff first]
  | .null, second | .flag _, second | .number _, second | .fractional _, second
  | .text _, second | .list _, second => by
      cases second <;> simp [redactValue, Value.AgreeBut]

theorem redact_eq_iff : (first second : Fields) →
    (redact first = redact second ↔
      Fields.AgreeBut (isSensitive · = true) False first second)
  | [], second => by cases second <;> simp [redact, Fields.AgreeBut]
  | (key, value) :: rest, [] => by simp [redact, Fields.AgreeBut]
  | (key, value) :: rest, (other, second) :: others => by
      simp only [redact, Fields.AgreeBut, List.cons.injEq, Prod.mk.injEq,
        redact_eq_iff rest others, and_assoc, and_congr_right_iff, and_congr_left_iff]
      rintro rfl -
      cases sensitive : isSensitive key <;> simp [redactValue_eq_iff value]

end

/-- **What a redacted record tells.** Two records are the same once they are redacted exactly if
they differ at most under keys of maps inside of maps whose first line holds a sensitive word; so
they are if they differ under keys of one line that hold such a word in any letter case. -/
theorem redact_eq_iff_agreeBut (first second : Fields) :
    (redact first = redact second ↔
      Fields.AgreeBut (fun key => HoldsWord Text.caseless (firstLine key)) False first second) ∧
      (Fields.AgreeBut (fun key => '\n' ∉ key.toList ∧ HoldsWord Char.toLower key.toList) False
        first second → redact first = redact second) := by
  constructor
  · simp only [redact_eq_iff, isSensitive_iff]
  · intro agree
    rw [redact_eq_iff]
    exact Fields.AgreeBut.mono (fun key holds => isSensitive_of_holdsWord holds.1 holds.2) _ _ agree

/-- A password inside of a list is told, and so is one under a key that begins with another
line. -/
theorem redact_ne_of_agreeBut :
    let hidden := fun key : String => HoldsWord Char.toLower key.toList
    let listed := fun word : String =>
      [("hosts", Value.list [.map [("password", .text word)]])]
    let behind := fun word : String => [("line\npassword", Value.text word)]
    (Fields.AgreeBut hidden True (listed "x") (listed "y") ∧
        redact (listed "x") ≠ redact (listed "y")) ∧
      Fields.AgreeBut hidden True (behind "x") (behind "y") ∧
        redact (behind "x") ≠ redact (behind "y") := by
  intro hidden listed behind
  have word : hidden "password" :=
    ⟨"password", by decide, "password".toList, List.infix_rfl, by decide⟩
  have second : hidden "line\npassword" :=
    ⟨"password", by decide, "password".toList, ⟨"line\n".toList, [], by decide⟩, by decide⟩
  refine ⟨⟨?_, by decide⟩, ?_, by decide⟩
  · simp [listed, Fields.AgreeBut, Value.AgreeBut, Value.ItemsAgreeBut, word]
  · simp [behind, Fields.AgreeBut, second]

end Log

end Warehouse
