import Warehouse.Proofs.Sql.Lexing
import Warehouse.Proofs.Text.Separation

/-! # Names in the text of a statement

A quoted name is told apart from the text behind it, unless that text begins with another
closing mark. So are names of tables with their schemas and lists of names. -/

namespace Warehouse

namespace QuoteStyle

/-- Quoted names are told apart, whatever characters they hold. -/
theorem separates_quoteName (style : QuoteStyle) :
    Separates (fun name => (style.quoteName name).toList) (fun _ => True)
      (·.head? ≠ some style.closing) := by
  intro first second _ _ rest behind ends ends' same
  simp only [toList_quoteName, List.cons_append, List.append_assoc, List.nil_append,
    List.cons.injEq, true_and] at same
  have read := readQuoted_escaped (Option.some_ne_none _).symm first.toList ends
  rw [same, readQuoted_escaped (Option.some_ne_none _).symm second.toList ends', Option.some.injEq,
    Prod.mk.injEq, String.toList_inj] at read
  exact ⟨read.1.symm, read.2.symm⟩

theorem head?_quoteName (style : QuoteStyle) (name : String) :
    (style.quoteName name).toList.head? = some style.opening := by
  rw [toList_quoteName, List.head?_cons]

end QuoteStyle

namespace Dialect

/-- Quoted names are closed by two marks only. -/
theorem closing_ne (dialect : Dialect) {c : Char} (bracket : c ≠ ']') (quote : c ≠ '"') :
    dialect.quoteStyle.closing ≠ c := by
  cases dialect
  · exact bracket.symm
  · exact quote.symm
  · exact quote.symm
  · exact quote.symm

/-- A quoted name ends in front of a space. -/
theorem head?_space_ne (dialect : Dialect) (text : List Char) :
    (' ' :: text).head? ≠ some dialect.quoteStyle.closing :=
  fun mark => dialect.closing_ne (by decide) (by decide) (Option.some.inj mark).symm

/-- Quoted names are opened by two marks only. -/
theorem opening_ne (dialect : Dialect) {c : Char} (bracket : c ≠ '[') (quote : c ≠ '"') :
    dialect.quoteStyle.opening ≠ c := by
  cases dialect
  · exact bracket.symm
  · exact quote.symm
  · exact quote.symm
  · exact quote.symm

end Dialect

namespace Sql

/-- The characters of a statement of a dialect. -/
def chars (dialect : Dialect) (sql : Sql) : List Char := (sql.text dialect).toList

variable {dialect : Dialect}

@[simp] theorem chars_nil : chars dialect [] = [] := by simp [chars, text]

@[simp] theorem chars_plain (fixed : String) (rest : Sql) :
    chars dialect (.plain fixed :: rest) = fixed.toList ++ chars dialect rest := by
  simp [chars, text, Piece.text]

@[simp] theorem chars_name (name : String) (rest : Sql) :
    chars dialect (.name name :: rest) =
      (dialect.quoteStyle.quoteName name).toList ++ chars dialect rest := by
  simp [chars, text, Piece.text]

@[simp] theorem chars_append (first second : Sql) :
    chars dialect (first ++ second) = chars dialect first ++ chars dialect second := by
  simp [chars, text]

theorem chars_intercalate (separator : String) (parts : List Sql) :
    chars dialect ([Piece.plain separator].intercalate parts) =
      joined separator.toList (chars dialect) parts := by
  induction parts with
  | nil => simp [joined]
  | cons part others ih =>
      cases others with
      | nil => simp [joined]
      | cons next others =>
          rw [List.intercalate_cons_cons]
          simp [ih, joined]

theorem chars_names (separator : String) (columns : List String) :
    chars dialect (names separator columns) =
      joined separator.toList (fun name => (dialect.quoteStyle.quoteName name).toList) columns := by
  unfold names
  induction columns with
  | nil => simp [joined]
  | cons column others ih =>
      cases others with
      | nil => simp [joined]
      | cons next others =>
          simp only [List.map_cons, List.intersperse_cons_cons, chars_name, chars_plain] at ih ⊢
          simp [ih, joined]

/-- A schema with a table in it is told apart. -/
theorem qualified_inj {schema schema' table table' : String} (present : schema ≠ "")
    (present' : schema' ≠ "") {rest behind : List Char}
    (ends : rest.head? ≠ some dialect.quoteStyle.closing)
    (ends' : behind.head? ≠ some dialect.quoteStyle.closing)
    (same : chars dialect (qualified schema table) ++ rest =
      chars dialect (qualified schema' table') ++ behind) :
    schema = schema' ∧ table = table' ∧ rest = behind := by
  have point : ∀ chars : List Char, ('.' :: chars).head? ≠ some dialect.quoteStyle.closing :=
    fun chars mark => dialect.closing_ne (by decide) (by decide) (Option.some.inj mark).symm
  have dot : ".".toList = ['.'] := rfl
  simp only [qualified, present, present', ↓reduceIte, chars_name, chars_plain, chars_nil,
    List.append_nil, List.append_assoc, dot, List.cons_append, List.nil_append] at same
  obtain ⟨schemas, left⟩ := dialect.quoteStyle.separates_quoteName trivial trivial
    (point _) (point _) same
  have left := (List.cons.inj left).2
  obtain ⟨tables, left⟩ := dialect.quoteStyle.separates_quoteName trivial trivial ends ends' left
  exact ⟨schemas, tables, left⟩

/-- Behind a closing parenthesis, no list with commas goes on. -/
theorem endsList_of_closed {separator : String} (comma : separator.toList.head? = some ',')
    {rest : List Char} (closed : rest.head? = some ')') :
    EndsList separator.toList dialect.quoteStyle.opening rest := by
  obtain ⟨blanks, written⟩ := List.head?_eq_some_iff.mp comma
  obtain ⟨others, rfl⟩ := List.head?_eq_some_iff.mp closed
  refine ⟨fun mark => ?_, fun more => ?_⟩
  · exact dialect.opening_ne (by decide) (by decide) (Option.some.inj mark).symm
  · rw [written, List.cons_append, List.cons_prefix_cons] at more
    exact absurd more.1 (by decide)

/-- Lists of names in parentheses are told apart. -/
theorem separates_names {separator : String} (comma : separator.toList.head? = some ',') :
    Separates (fun columns => chars dialect (names separator columns)) (fun _ => True)
      (·.head? = some ')') := by
  obtain ⟨blanks, written⟩ := List.head?_eq_some_iff.mp comma
  have unmarked : ∀ rest : List Char, rest.head? = some ')' →
      rest.head? ≠ some dialect.quoteStyle.closing := fun rest closed mark =>
    dialect.closing_ne (by decide) (by decide) (Option.some.inj (mark.symm.trans closed))
  have between : ∀ chars : List Char,
      (separator.toList ++ dialect.quoteStyle.opening :: chars).head? ≠
        some dialect.quoteStyle.closing := by
    intro chars mark
    rw [written, List.cons_append, List.head?_cons] at mark
    exact dialect.closing_ne (by decide) (by decide) (Option.some.inj mark).symm
  intro first second _ _ rest behind closed closed' same
  simp only [chars_names] at same
  exact (dialect.quoteStyle.separates_quoteName).joined
    (fun name _ => dialect.quoteStyle.head?_quoteName name) between
    (fun _ _ => trivial) (fun _ _ => trivial)
    ⟨unmarked rest closed, endsList_of_closed comma closed⟩
    ⟨unmarked behind closed', endsList_of_closed comma closed'⟩ same

end Sql

end Warehouse
