import Warehouse.Access
import Warehouse.Proofs.Sql.Lexing
import Warehouse.Proofs.Text.Doubling

/-! # Reading one quotation

A quoted name or a literal at the front of a text is read as what was quoted, up to its
closing mark, whatever characters it holds (`QuoteStyle.quoteName_read_back`,
`QuoteStyle.readLiteral?_quoteLiteral_iff`). A name has a second reader, which takes a whole
text for one quoted name. It accepts more than quoting writes: also texts in which closing
marks stand in runs of odd length (`QuoteStyle.quoteName_unquoteName_iff`). -/

namespace Warehouse

/-- Reads the quotation at the front of a text: its value and the text behind its closing
mark. A doubled closing mark stands for one, and an escape for the character behind it. -/
def readQuotation? (opening closing : Char) (escape : Option Char) (text : String) :
    Option (String × String) :=
  match text.toList with
  | [] => none
  | c :: chars =>
      if c = opening then
        (readQuoted closing escape chars).map fun (value, rest) =>
          (String.ofList value, String.ofList rest)
      else none

variable {opening closing : Char} {escape : Option Char}

theorem readQuotation?_eq_some_iff {text value rest : String} :
    readQuotation? opening closing escape text = some (value, rest) ↔
      ∃ chars, text.toList = opening :: chars ∧
        readQuoted closing escape chars = some (value.toList, rest.toList) := by
  unfold readQuotation?
  cases split : text.toList with
  | nil => simp
  | cons c chars =>
      by_cases opens : c = opening
      · subst opens
        simp only [↓reduceIte, Option.map_eq_some_iff, Prod.mk.injEq, Prod.exists,
          List.cons.injEq, true_and, exists_eq_left']
        constructor
        · rintro ⟨inner, behind, read, rfl, rfl⟩
          simpa using read
        · intro read
          exact ⟨_, _, read, String.ofList_toList, String.ofList_toList⟩
      · simp [opens]

/-- What is written between two marks, with the closing mark and the escape written twice,
is read as far as it goes, unless the text behind it doubles the closing mark. -/
theorem readQuotation?_written_iff (differs : escape ≠ some closing) {written : String}
    (value rest : String)
    (marked : written.toList = opening :: (escaped closing escape value.toList ++ [closing])) :
    readQuotation? opening closing escape (written ++ rest) = some (value, rest) ↔
      rest.toList.head? ≠ some closing := by
  have front : (written ++ rest).toList =
      opening :: (escaped closing escape value.toList ++ closing :: rest.toList) := by
    simp [marked]
  rw [readQuotation?_eq_some_iff, front]
  constructor
  · rintro ⟨chars, split, read⟩ doubled
    obtain ⟨behind, goesOn⟩ := List.head?_eq_some_iff.mp doubled
    rw [← (List.cons.inj split).2, goesOn] at read
    exact readQuoted_escaped_mark_ne differs value.toList behind read
  · intro ends
    exact ⟨_, rfl, readQuoted_escaped differs value.toList ends⟩

namespace QuoteStyle

variable {style : QuoteStyle} {name quoted rest : String}

/-- Reads the quoted name at the front of a text. -/
def readName? (style : QuoteStyle) (text : String) : Option (String × String) :=
  readQuotation? style.opening style.closing none text

/-- A name is read at the front of a text exactly if it stands there quoted and the text
behind it does not begin with the closing mark. -/
theorem readName?_eq_some_iff (style : QuoteStyle) {text name rest : String} :
    style.readName? text = some (name, rest) ↔
      text = style.quoteName name ++ rest ∧ rest.toList.head? ≠ some style.closing := by
  constructor
  · intro read
    obtain ⟨chars, split, inner⟩ := readQuotation?_eq_some_iff.mp read
    obtain ⟨written, ends⟩ := eq_escaped_of_readQuoted inner
    refine ⟨?_, ends⟩
    rw [← String.toList_inj, split, written, String.toList_append, toList_quoteName]
    simp
  · rintro ⟨rfl, ends⟩
    exact (readQuotation?_written_iff (Option.some_ne_none _).symm name rest
      (style.toList_quoteName name)).mpr ends

/-! ## Whole texts as names -/

/-- The characters strictly between the first and the last one. -/
def inside (quoted : String) : List Char := quoted.toList.tail.dropLast

/-- The text has at least two characters and stands between the marks of the style. -/
structure Encloses (style : QuoteStyle) (quoted : String) : Prop where
  length : 2 ≤ quoted.length
  opens : quoted.toList.head? = some style.opening
  closes : quoted.toList.getLast? = some style.closing

theorem encloses_iff : style.Encloses quoted ↔
    quoted.toList = style.opening :: (inside quoted ++ [style.closing]) := by
  unfold inside
  constructor
  · rintro ⟨length, opens, closes⟩
    obtain ⟨chars, split⟩ := List.head?_eq_some_iff.mp opens
    rw [← String.length_toList, split, List.length_cons] at length
    have present : chars ≠ [] := List.ne_nil_of_length_pos (by omega)
    rw [split, List.getLast?_cons_of_ne_nil present] at closes
    rw [split, List.tail_cons, List.dropLast_append_getLast? _ closes]
  · intro split
    refine ⟨?_, ?_, ?_⟩
    · rw [← String.length_toList, split]
      simp
    · rw [split, List.head?_cons]
    · rw [split, ← List.cons_append, List.getLast?_concat]

theorem encloses_cons_cons {first second : Char} {rest : List Char}
    (split : quoted.toList = first :: second :: rest) : style.Encloses quoted ↔
      first = style.opening ∧ (second :: rest).getLast? = some style.closing := by
  constructor
  · rintro ⟨-, opens, closes⟩
    rw [split] at opens closes
    exact ⟨Option.some.inj opens, by rwa [List.getLast?_cons_cons] at closes⟩
  · rintro ⟨opens, closes⟩
    refine ⟨?_, ?_, ?_⟩
    · rw [← String.length_toList, split]
      simp
    · rw [split, opens, List.head?_cons]
    · rw [split, List.getLast?_cons_cons, closes]

/-- A text is taken for a quoted name exactly if it stands between the marks. -/
theorem unquoteName?_eq_some_iff : style.unquoteName? quoted = some name ↔
    style.Encloses quoted ∧ name = String.ofList (undoubleMark style.closing (inside quoted)) := by
  have tooShort : quoted.toList.length < 2 → ¬ style.Encloses quoted := by
    intro short encloses
    rw [String.length_toList] at short
    exact absurd encloses.length (Nat.not_le_of_lt short)
  unfold unquoteName? inside
  rcases split : quoted.toList with _ | ⟨first, _ | ⟨second, rest⟩⟩
  · exact iff_of_false (Option.some_ne_none _).symm fun both => tooShort (by simp [split]) both.1
  · exact iff_of_false (Option.some_ne_none _).symm fun both => tooShort (by simp [split]) both.1
  · rw [encloses_cons_cons split, List.tail_cons]
    by_cases encloses : first = style.opening ∧ (second :: rest).getLast? = some style.closing
    · simp [encloses, eq_comm]
    · simp [encloses]

theorem unquoteName_eq_ok_iff {tag : String} : unquoteName tag quoted = .ok name ↔
    (named tag).unquoteName? quoted = some name := by
  unfold unquoteName
  cases (named tag).unquoteName? quoted <;> simp

theorem toList_quoteName_doubled (style : QuoteStyle) (name : String) :
    (style.quoteName name).toList =
      style.opening :: (doubleMark style.closing name.toList ++ [style.closing]) := by
  rw [toList_quoteName, doubleMark_eq_escaped]

/-- Whether a text between marks is the quoted form of a name is seen inside the marks. -/
theorem quoteName_eq_iff (encloses : style.Encloses quoted) :
    style.quoteName name = quoted ↔ doubleMark style.closing name.toList = inside quoted := by
  rw [← String.toList_inj, toList_quoteName_doubled, encloses_iff.mp encloses,
    List.cons_inj_right, List.append_cancel_right_eq]

theorem inside_quoteName (style : QuoteStyle) (name : String) :
    inside (style.quoteName name) = doubleMark style.closing name.toList := by
  rw [inside, toList_quoteName_doubled, List.tail_cons, List.dropLast_concat]

theorem encloses_quoteName (style : QuoteStyle) (name : String) :
    style.Encloses (style.quoteName name) := by
  rw [encloses_iff, inside_quoteName, toList_quoteName_doubled]

/-- Unquoting gives back what was quoted. -/
theorem unquoteName_quoteName (tag name : String) :
    unquoteName tag ((named tag).quoteName name) = .ok name := by
  rw [unquoteName_eq_ok_iff, unquoteName?_eq_some_iff, inside_quoteName,
    undoubleMark_doubleMark, String.ofList_toList]
  exact ⟨encloses_quoteName _ name, rfl⟩

/-- **A quoted name is read back**, as a whole text and at the front of a longer one. There,
a text is read as a name with a rest exactly if it is the quoted name with that rest behind
it and the rest does not begin with another closing mark. -/
theorem quoteName_read_back (tag name : String) :
    unquoteName tag ((named tag).quoteName name) = .ok name ∧
      ∀ text rest : String, (named tag).readName? text = some (name, rest) ↔
        text = (named tag).quoteName name ++ rest ∧
          rest.toList.head? ≠ some (named tag).closing :=
  ⟨unquoteName_quoteName tag name, fun _ _ => readName?_eq_some_iff (named tag)⟩

/-- **Unquoting accepts every text between the marks, but quoting gives back only those whose
closing marks stand in runs of even length**, and these are all the quoted names. -/
theorem quoteName_unquoteName_iff (tag quoted : String) :
    ((∃ name, unquoteName tag quoted = .ok name) ↔ (named tag).Encloses quoted) ∧
      (∀ name, unquoteName tag quoted = .ok name →
        ((named tag).quoteName name = quoted ↔
          EvenRuns (named tag).closing (inside quoted))) ∧
      ((∃ name, (named tag).quoteName name = quoted) ↔
        (∃ name, unquoteName tag quoted = .ok name) ∧
          EvenRuns (named tag).closing (inside quoted)) := by
  have accepted : (∃ name, unquoteName tag quoted = .ok name) ↔
      (named tag).Encloses quoted := by
    simp [unquoteName_eq_ok_iff, unquoteName?_eq_some_iff]
  have returns : ∀ name, unquoteName tag quoted = .ok name →
      ((named tag).quoteName name = quoted ↔
        EvenRuns (named tag).closing (inside quoted)) := by
    intro name read
    rw [unquoteName_eq_ok_iff, unquoteName?_eq_some_iff] at read
    rw [quoteName_eq_iff read.1, read.2, String.toList_ofList, doubleMark_undoubleMark_iff]
  refine ⟨accepted, returns, ?_⟩
  constructor
  · rintro ⟨name, rfl⟩
    have read := unquoteName_quoteName tag name
    exact ⟨⟨name, read⟩, (returns name read).mp rfl⟩
  · rintro ⟨⟨name, read⟩, even⟩
    exact ⟨name, (returns name read).mpr even⟩

/-- An odd run of brackets comes back with one bracket more, an even one as it was. -/
theorem quoteName_unquoteName_iff_brackets :
    unquoteName "synapse" "[]]]]" = .ok "]]" ∧
      (named "synapse").quoteName "]]" ≠ "[]]]]" ∧
      unquoteName "synapse" "[a]]]]b]" = .ok "a]]b" ∧
      (named "synapse").quoteName "a]]b" = "[a]]]]b]" := by
  have odd : unquoteName "synapse" "[]]]]" = .ok "]]" := by decide
  have even : unquoteName "synapse" "[a]]]]b]" = .ok "a]]b" := by decide
  refine ⟨odd, ?_, even, ?_⟩
  · rw [Ne, (quoteName_unquoteName_iff "synapse" "[]]]]").2.1 "]]" odd]
    decide
  · rw [(quoteName_unquoteName_iff "synapse" "[a]]]]b]").2.1 "a]]b" even]
    decide

/-! ## Literals -/

/-- Reads the literal at the front of a text. -/
def readLiteral? (escape : Option Char) (text : String) : Option (String × String) :=
  readQuotation? '\'' '\'' escape text

/-- **A literal is read back** at the front of a text, where two quotes stand for one and in
Snowflake alone a backslash for the character behind it, exactly if no quote follows. -/
theorem readLiteral?_quoteLiteral_iff (tag value rest : String) :
    readLiteral? (if tag = "snowflake" then some '\\' else none)
        ((named tag).quoteLiteral value ++ rest) = some (value, rest) ↔
      rest.toList.head? ≠ some '\'' := by
  have escapes : (if tag = "snowflake" then some '\\' else none) = (named tag).escape := by
    simp [escape, named]
  rw [escapes]
  exact readQuotation?_written_iff (named tag).escape_ne_quote value rest
    ((named tag).toList_quoteLiteral value)

example : readLiteral? (some '\\') "'a\\\\''' OR" = some ("a\\'", " OR") := by decide

end QuoteStyle

end Warehouse
