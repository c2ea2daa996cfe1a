import Warehouse.Proofs.Sql.Lexing
import Warehouse.Proofs.Text.Numeral

/-! # Statement templates

A template is a statement with holes, each of which takes one quoted name or one
literal. What stands between the holes is fixed, apart from a number. A readable
template, filled with any values, is read as its own pieces with the values in the
holes (`Template.lex_text_fill`): no value can change how a statement is read. -/

namespace Warehouse

/-- What comes into a statement from outside. -/
inductive Hole where
  | schema
  | table
  | pattern
  | object
deriving DecidableEq, Repr

/-- What is put into the holes of a statement, and the number that it may be about. -/
structure Values where
  text : Hole → String
  number : Int

/-- Nothing in the holes, and the number zero. -/
def Values.blank : Values := ⟨fun _ => "", 0⟩

/-- A part of a template: a run of fixed pieces, plain text around the number, or a
hole. -/
inductive Part where
  | run (fixed : Sql)
  | numbered (before behind : String)
  | name (hole : Hole)
  | literal (hole : Hole)
deriving DecidableEq, Repr

/-- A statement with holes. -/
abbrev Template := List Part

/-- The pieces that a part becomes by the values for the holes. -/
def Part.fill (values : Values) : Part → Sql
  | run fixed => fixed
  | numbered before behind => [.plain (before ++ toString values.number ++ behind)]
  | name hole => [.name (values.text hole)]
  | literal hole => [.literal (values.text hole)]

namespace Template

/-- The pieces of a template by the values for its holes. -/
def fill (values : Values) (template : Template) : Sql := template.flatMap (Part.fill values)

/-- The template has the number of a table in it. -/
def isNumbered (template : Template) : Bool :=
  template.any fun
    | .numbered _ _ => true
    | _ => false

/-- The template begins with a word for a statement that changes nothing. -/
def startsAsQuery : Template → Bool
  | .run (.plain text :: _) :: _ => ["SELECT ", "SHOW ", "DESC "].any fun word =>
      word.toList.isPrefixOf text.toList
  | _ => false

end Template

/-! ## Numbers in plain text -/

namespace QuoteStyle

theorem opening_named_ne_quote (tag : String) : (named tag).opening ≠ '\'' := by
  simp only [named]
  split <;> decide

/-- What is one run with the number zero is one run with any number. -/
theorem isRun_numbered {tag : String} {before behind : String}
    (zero : (named tag).isRun (before ++ toString (0 : Int) ++ behind) = true)
    (number : Int) :
    (named tag).isRun (before ++ toString number ++ behind) = true := by
  have marks : ∀ mark ∈ ['[', ']', '"', '\''], mark.isDigit = false ∧ mark ≠ '-' := by
    simp only [List.mem_cons, List.not_mem_nil, or_false, forall_eq_or_imp, forall_eq]
    decide
  obtain ⟨-, plain⟩ := isRun_iff.mp zero
  simp only [String.toList_append, List.mem_append] at plain
  refine isRun_iff.mpr ⟨?_, fun c member => ?_⟩
  · simp only [ne_eq, String.append_eq_empty_iff, not_and_or]
    exact .inl (.inr (Text.toString_ne_empty number))
  · simp only [String.toList_append, List.mem_append] at member
    rcases member with (front | digit) | back
    · exact plain c (.inl (.inl front))
    · have apart : ∀ mark ∈ ['[', ']', '"', '\''], c ≠ mark := by
        rintro mark among rfl
        rcases Text.isDigit_of_mem_toString digit with digit | dash
        · simp [(marks c among).1] at digit
        · exact (marks c among).2 dash
      simp only [List.mem_cons, List.not_mem_nil, or_false, forall_eq_or_imp, forall_eq] at apart
      simp only [isPlain, named]
      split <;> simp [apart]
    · exact plain c (.inr back)

end QuoteStyle

namespace Template

/-- A template that is readable with nothing in its holes is so with any values. -/
theorem alternates_fill {tag : String} {template : Template}
    (alternates : Sql.Alternates (.named tag) (template.fill .blank)) (values : Values) :
    Sql.Alternates (.named tag) (template.fill values) := by
  refine ⟨?_, ?_⟩
  · have same : ∀ part : Part,
        (part.fill values).map Piece.isPlain = (part.fill .blank).map Piece.isPlain := by
      rintro ⟨⟩ <;> rfl
    simpa only [fill, List.map_flatMap, same] using alternates.changes
  · have runs := alternates.isRun
    simp only [fill, List.forall_mem_flatMap] at runs ⊢
    intro part member
    have here := runs part member
    cases part with
    | run fixed => exact here
    | numbered before behind =>
        simp only [Part.fill, List.forall_mem_singleton] at here ⊢
        exact QuoteStyle.isRun_numbered here values.number
    | name hole => simp [Part.fill, Piece.isRun]
    | literal hole => simp [Part.fill, Piece.isRun]

/-- **A template is read as its pieces with the values in the holes, whatever characters
the values hold.** -/
theorem lex_text_fill {dialect : Dialect} {template : Template}
    (alternates : Sql.Alternates dialect.quoteStyle (template.fill .blank)) (values : Values) :
    lex dialect.quoteStyle (Sql.text dialect (template.fill values)).toList =
      some (template.fill values) :=
  (alternates_fill alternates values).lex_text (QuoteStyle.opening_named_ne_quote dialect.name)

/-! ## Statements from a template -/

/-- The pieces of a statement are those of the parts of a template, one for one. -/
def Matches (style : QuoteStyle) (values : Values) : Sql → Template → Prop
  | [], [] => True
  | .plain text :: sql, .run fixed :: template =>
      text = Sql.textIn style fixed ∧ Matches style values sql template
  | .name identifier :: sql, .name hole :: template =>
      identifier = values.text hole ∧ Matches style values sql template
  | .literal value :: sql, .literal hole :: template =>
      value = values.text hole ∧ Matches style values sql template
  | _, _ => False

theorem Matches.textIn_eq {style : QuoteStyle} {values : Values} {sql : Sql} {template : Template}
    (same : Matches style values sql template) :
    Sql.textIn style sql = Sql.textIn style (template.fill values) := by
  fun_induction Matches style values sql template with
  | case1 => rfl
  | case2 text sql fixed template ih =>
      rw [Sql.textIn_cons, ih same.2, Piece.text, same.1, ← Sql.textIn_append]
      rfl
  | case3 identifier sql hole template ih | case4 value sql hole template ih =>
      rw [Sql.textIn_cons, ih same.2, same.1]
      rfl
  | case5 => exact same.elim

/-- A single piece with a number in it has the text of a template with a number. -/
theorem textIn_numbered {style : QuoteStyle} (values : Values) {front back : Sql}
    {before behind first last : String} (opened : first = Sql.textIn style front ++ before)
    (closed : last = behind ++ Sql.textIn style back) :
    Sql.textIn style [.plain (first ++ toString values.number ++ last)] =
      Sql.textIn style (fill values [.run front, .numbered before behind, .run back]) := by
  simp [fill, Part.fill, Piece.text, opened, closed, String.append_assoc]

end Template

end Warehouse
