import Mathlib.Data.List.Chain
import Warehouse.Proofs.Text.Separation
import Warehouse.Sql

/-! # Reading the text of a statement

An engine sees only the text of a statement. It reads a quoted name or a literal up to
the mark that ends it, where a doubled mark stands for one mark, and in the literals of
Snowflake also a backslash for the character behind it. All other characters are plain.
A statement whose pieces alternate between plain and quoted ones is read as the pieces
that it was written from, whatever characters its names and values hold
(`Sql.Alternates.lex_text`). -/

namespace Warehouse

/-! ## Quoted text -/

/-- Puts a character in front of what was read. -/
def prepended (c : Char) : Option (List Char × List Char) → Option (List Char × List Char) :=
  Option.map fun (value, rest) => (c :: value, rest)

/-- Reads on inside of quoted text up to the mark that ends it: the value and the
characters behind that mark. -/
def readQuoted (mark : Char) (escape : Option Char) :
    List Char → Option (List Char × List Char)
  | [] => none
  | [c] => if c = mark ∧ escape ≠ some c then some ([], []) else none
  | c :: next :: rest =>
      if escape = some c then prepended next (readQuoted mark escape rest)
      else if c = mark then
        if next = mark then prepended mark (readQuoted mark escape rest)
        else some ([], next :: rest)
      else prepended c (readQuoted mark escape (next :: rest))

theorem length_readQuoted_lt {mark : Char} {escape : Option Char} {chars value rest : List Char}
    (read : readQuoted mark escape chars = some (value, rest)) : rest.length < chars.length := by
  fun_induction readQuoted mark escape chars generalizing value with
  | case1 => cases read
  | case2 =>
      cases read
      simp
  | case3 => cases read
  | case4 _ _ rest _ ih | case5 _ _ ih | case7 _ _ rest _ _ ih =>
      obtain ⟨⟨inner, behind⟩, found, same⟩ := Option.map_eq_some_iff.mp read
      cases same
      have shorter := ih found
      simp only [List.length_cons] at shorter ⊢
      omega
  | case6 =>
      cases read
      simp

/-- The text that is read as a value: the mark and the escape are written twice. -/
def escaped (mark : Char) (escape : Option Char) (value : List Char) : List Char :=
  value.flatMap fun c => if c = mark ∨ escape = some c then [c, c] else [c]

/-- Escaped text is read as its value, and reading goes on behind it. -/
theorem readQuoted_escaped_append {mark : Char} {escape : Option Char}
    (differs : escape ≠ some mark) (value chars : List Char) :
    readQuoted mark escape (escaped mark escape value ++ chars) =
      (readQuoted mark escape chars).map fun (more, rest) => (value ++ more, rest) := by
  induction value with
  | nil => simp [escaped]
  | cons c value ih =>
      have split : escaped mark escape (c :: value) ++ chars =
          (if c = mark ∨ escape = some c then [c, c] else [c]) ++
            (escaped mark escape value ++ chars) := by
        simp [escaped]
      have goesOn : prepended c (readQuoted mark escape (escaped mark escape value ++ chars)) =
          (readQuoted mark escape chars).map fun (more, rest) => (c :: value ++ more, rest) := by
        simp [ih, prepended, Function.comp_def]
      rw [split, ← goesOn]
      by_cases escapes : escape = some c
      · simp [readQuoted, escapes]
      · by_cases marks : c = mark
        · subst marks
          simp [readQuoted, differs]
        · -- A plain character stands for itself, also if nothing is left behind it.
          cases escaped mark escape value ++ chars <;>
            simp [readQuoted, escapes, marks, prepended]

/-- A mark ends quoted text unless it is doubled. -/
theorem readQuoted_mark {mark : Char} {escape : Option Char} (differs : escape ≠ some mark)
    {rest : List Char} (ends : rest.head? ≠ some mark) :
    readQuoted mark escape (mark :: rest) = some ([], rest) := by
  cases rest with
  | nil => simp [readQuoted, differs]
  | cons next rest =>
      have other : next ≠ mark := fun same => ends (congrArg some same)
      simp [readQuoted, differs, other]

/-- Escaped text is read as its value, up to the mark behind it, unless that mark seems
to be doubled. -/
theorem readQuoted_escaped {mark : Char} {escape : Option Char} (differs : escape ≠ some mark)
    (value : List Char) {rest : List Char} (ends : rest.head? ≠ some mark) :
    readQuoted mark escape (escaped mark escape value ++ mark :: rest) = some (value, rest) := by
  rw [readQuoted_escaped_append differs, readQuoted_mark differs ends]
  simp

/-- A mark behind the closing mark makes the two a doubled mark, so that the value goes on. -/
theorem readQuoted_escaped_mark_ne {mark : Char} {escape : Option Char}
    (differs : escape ≠ some mark) (value rest : List Char) :
    readQuoted mark escape (escaped mark escape value ++ mark :: mark :: rest) ≠
      some (value, mark :: rest) := by
  intro read
  have pair : readQuoted mark escape (mark :: mark :: rest) =
      prepended mark (readQuoted mark escape rest) := by
    simp [readQuoted, differs]
  rw [readQuoted_escaped_append differs, pair] at read
  obtain ⟨⟨more, behind⟩, found, same⟩ := Option.map_eq_some_iff.mp read
  obtain ⟨⟨inner, other⟩, -, longer⟩ := Option.map_eq_some_iff.mp found
  rw [Prod.mk.injEq, List.append_right_eq_self] at same
  rw [Prod.mk.injEq, same.1] at longer
  cases longer.1

/-- What is read as quoted text was written with its marks doubled, and the mark that ends
it is not doubled. -/
theorem eq_escaped_of_readQuoted {mark : Char} {chars value rest : List Char}
    (read : readQuoted mark none chars = some (value, rest)) :
    chars = escaped mark none value ++ mark :: rest ∧ rest.head? ≠ some mark := by
  fun_induction readQuoted mark none chars generalizing value with
  | case1 => cases read
  | case2 c ends =>
      cases read
      simp [escaped, ends.1]
  | case3 => cases read
  | case4 c next behind escapes => cases escapes
  | case5 behind _ ih =>
      obtain ⟨⟨inner, other⟩, found, same⟩ := Option.map_eq_some_iff.mp read
      cases same
      obtain ⟨split, ends⟩ := ih found
      exact ⟨by simp [escaped, split], ends⟩
  | case6 next behind differs _ =>
      cases read
      exact ⟨by simp [escaped], by simpa using differs⟩
  | case7 c next behind _ differs ih =>
      obtain ⟨⟨inner, other⟩, found, same⟩ := Option.map_eq_some_iff.mp read
      cases same
      obtain ⟨split, ends⟩ := ih found
      exact ⟨by simp [escaped, split, differs], ends⟩

theorem doubleMark_eq_escaped (mark : Char) (chars : List Char) :
    doubleMark mark chars = escaped mark none chars := by
  simp only [doubleMark, escaped, reduceCtorEq, or_false]
  congr 1
  funext c
  split <;> simp_all

/-- Doubling two marks one after the other doubles each of them once. -/
theorem doubleMark_doubleMark {mark escape : Char} (differs : escape ≠ mark)
    (chars : List Char) :
    doubleMark mark (doubleMark escape chars) = escaped mark (some escape) chars := by
  simp only [doubleMark, escaped, List.flatMap_assoc]
  congr 1
  funext c
  by_cases escapes : c = escape
  · simp [escapes, differs]
  · have other : escape ≠ c := fun same => escapes same.symm
    simp only [escapes, ↓reduceIte, List.flatMap_cons, List.flatMap_nil, List.append_nil,
      Option.some.injEq, other, or_false]
    split <;> simp_all

namespace QuoteStyle

/-- The character that escapes others in literals, if there is one. -/
def escape (style : QuoteStyle) : Option Char := if style.escapesBackslash then some '\\' else none

theorem escape_ne_quote (style : QuoteStyle) : style.escape ≠ some '\'' := by
  unfold escape
  split <;> decide

theorem toList_quoteName (style : QuoteStyle) (name : String) :
    (style.quoteName name).toList =
      style.opening :: (escaped style.closing none name.toList ++ [style.closing]) := by
  simp [quoteName, doubleMark_eq_escaped]

theorem toList_quoteLiteral (style : QuoteStyle) (value : String) :
    (style.quoteLiteral value).toList =
      '\'' :: (escaped '\'' style.escape value.toList ++ ['\'']) := by
  by_cases escapes : style.escapesBackslash = true
  · simp [quoteLiteral, escape, escapes, doubleMark_doubleMark]
  · simp [quoteLiteral, escape, escapes, doubleMark_eq_escaped]

/-- The character begins neither a quoted name nor a literal. -/
def isPlain (style : QuoteStyle) (c : Char) : Bool := c ≠ style.opening && c ≠ '\''

end QuoteStyle

/-! ## Statements -/

/-- The pieces that a text consists of: quoted names, literals, and the longest runs of
plain characters between them. A text in which a quotation has no end has none. -/
def lex (style : QuoteStyle) : List Char → Option Sql
  | [] => some []
  | c :: rest =>
      if c = style.opening then
        match _read : readQuoted style.closing none rest with
        | none => none
        | some (name, behind) => (lex style behind).map (.name (String.ofList name) :: ·)
      else if c = '\'' then
        match _read : readQuoted '\'' style.escape rest with
        | none => none
        | some (value, behind) => (lex style behind).map (.literal (String.ofList value) :: ·)
      else
        (lex style (rest.dropWhile style.isPlain)).map
          (.plain (String.ofList (c :: rest.takeWhile style.isPlain)) :: ·)
termination_by chars => chars.length
decreasing_by
  · exact Nat.lt_succ_of_lt (length_readQuoted_lt _read)
  · exact Nat.lt_succ_of_lt (length_readQuoted_lt _read)
  · exact Nat.lt_succ_of_le (List.dropWhile_suffix _).length_le

theorem lex_name {style : QuoteStyle} {rest name behind : List Char}
    (read : readQuoted style.closing none rest = some (name, behind)) :
    lex style (style.opening :: rest) =
      (lex style behind).map (.name (String.ofList name) :: ·) := by
  rw [lex, if_pos rfl]
  split
  · simp_all
  · simp_all

theorem lex_literal {style : QuoteStyle} (apart : style.opening ≠ '\'')
    {rest value behind : List Char}
    (read : readQuoted '\'' style.escape rest = some (value, behind)) :
    lex style ('\'' :: rest) = (lex style behind).map (.literal (String.ofList value) :: ·) := by
  rw [lex, if_neg apart.symm, if_pos rfl]
  split
  · simp_all
  · simp_all

theorem lex_plain {style : QuoteStyle} {c : Char} (plain : style.isPlain c = true)
    (rest : List Char) :
    lex style (c :: rest) =
      (lex style (rest.dropWhile style.isPlain)).map
        (.plain (String.ofList (c :: rest.takeWhile style.isPlain)) :: ·) := by
  simp only [QuoteStyle.isPlain, ne_eq, decide_not, Bool.and_eq_true, Bool.not_eq_eq_eq_not,
    Bool.not_true, decide_eq_false_iff_not] at plain
  rw [lex, if_neg plain.1, if_neg plain.2]

namespace Piece

/-- Fixed text, neither a name nor a literal. -/
def isPlain : Piece → Bool
  | plain _ => true
  | name _ => false
  | literal _ => false

end Piece

/-- The text is one run of plain characters, also behind a quoted name. -/
def QuoteStyle.isRun (style : QuoteStyle) (fixed : String) : Bool :=
  fixed ≠ "" && fixed.toList.all fun c => style.isPlain c && c ≠ style.closing

theorem QuoteStyle.isRun_iff {style : QuoteStyle} {fixed : String} :
    style.isRun fixed = true ↔
      fixed ≠ "" ∧ ∀ c ∈ fixed.toList, style.isPlain c = true ∧ c ≠ style.closing := by
  simp [isRun]

namespace Piece

/-- Plain text of the piece is one run. -/
def isRun (style : QuoteStyle) : Piece → Bool
  | plain fixed => style.isRun fixed
  | name _ => true
  | literal _ => true

end Piece

/-- A statement in which quoted pieces and runs of plain characters take turns. -/
structure Sql.Alternates (style : QuoteStyle) (sql : Sql) : Prop where
  changes : (sql.map Piece.isPlain).IsChain (· ≠ ·)
  isRun : ∀ piece ∈ sql, piece.isRun style = true

namespace Sql

instance (style : QuoteStyle) (sql : Sql) : Decidable (Alternates style sql) :=
  decidable_of_iff _ ⟨fun parts => ⟨parts.1, parts.2⟩, fun alternates =>
    And.intro alternates.changes alternates.isRun⟩

variable {style : QuoteStyle} {piece : Piece} {sql : Sql}

theorem Alternates.tail (alternates : Alternates style (piece :: sql)) : Alternates style sql :=
  ⟨alternates.changes.tail, fun other member =>
    alternates.isRun other (List.mem_cons_of_mem _ member)⟩

theorem exists_cons_of_isRun {fixed : String} (run : style.isRun fixed = true) :
    ∃ c rest, fixed.toList = c :: rest ∧
      ∀ next ∈ c :: rest, style.isPlain next = true ∧ next ≠ style.closing := by
  obtain ⟨present, plain⟩ := QuoteStyle.isRun_iff.mp run
  obtain ⟨c, rest, text⟩ := List.exists_cons_of_ne_nil fun empty =>
    present (String.toList_eq_nil_iff.mp empty)
  exact ⟨c, rest, text, fun next member => plain next (text ▸ member)⟩

/-- Behind a quoted piece stands nothing or a plain character that is no mark. -/
theorem Alternates.head_plain (alternates : Alternates style (piece :: sql))
    (quoted : piece.isPlain = false) :
    ∀ c ∈ (textIn style sql).toList.head?, style.isPlain c = true ∧ c ≠ style.closing := by
  rcases sql with _ | ⟨next, sql⟩
  · simp
  · have turn := (List.isChain_cons_cons.mp alternates.changes).1
    rw [quoted] at turn
    cases next with
    | name => exact absurd rfl turn
    | literal => exact absurd rfl turn
    | plain fixed =>
        obtain ⟨c, rest, text, run⟩ :=
          exists_cons_of_isRun (alternates.tail.isRun _ List.mem_cons_self)
        simpa [Piece.text, text] using run c (by simp)

/-- Behind a plain piece stands no further plain character. -/
theorem Alternates.head_not_plain (alternates : Alternates style (piece :: sql))
    (plain : piece.isPlain = true) :
    ∀ c ∈ (textIn style sql).toList.head?, style.isPlain c = false := by
  rcases sql with _ | ⟨next, sql⟩
  · simp
  · have turn := (List.isChain_cons_cons.mp alternates.changes).1
    rw [plain] at turn
    cases next with
    | plain => exact absurd rfl turn
    | name identifier => simp [Piece.text, QuoteStyle.toList_quoteName, QuoteStyle.isPlain]
    | literal value => simp [Piece.text, QuoteStyle.toList_quoteLiteral, QuoteStyle.isPlain]

/-- **The text of a statement in which quoted pieces and plain runs take turns is read as
just these pieces.** -/
theorem Alternates.lex_text (alternates : Alternates style sql) (apart : style.opening ≠ '\'') :
    lex style (textIn style sql).toList = some sql := by
  induction sql with
  | nil => simp [lex]
  | cons piece sql ih =>
      have rest := ih alternates.tail
      rw [textIn_cons, String.toList_append]
      cases piece with
      | name identifier =>
          have ends : (textIn style sql).toList.head? ≠ some style.closing := fun mark =>
            (alternates.head_plain rfl _ mark).2 rfl
          have read := readQuoted_escaped (Option.some_ne_none _).symm identifier.toList ends
          rw [Piece.text, QuoteStyle.toList_quoteName, List.cons_append, List.append_assoc,
            List.singleton_append, lex_name read, rest, String.ofList_toList]
          rfl
      | literal value =>
          have ends : (textIn style sql).toList.head? ≠ some '\'' := fun mark => by
            simpa [QuoteStyle.isPlain] using (alternates.head_plain rfl _ mark).1
          have read := readQuoted_escaped style.escape_ne_quote value.toList ends
          rw [Piece.text, QuoteStyle.toList_quoteLiteral, List.cons_append, List.append_assoc,
            List.singleton_append, lex_literal apart read, rest, String.ofList_toList]
          rfl
      | plain fixed =>
          obtain ⟨c, behind, text, run⟩ :=
            exists_cons_of_isRun (alternates.isRun _ List.mem_cons_self)
          have inside : ∀ next ∈ behind, style.isPlain next = true := fun next member =>
            (run next (List.mem_cons_of_mem c member)).1
          obtain ⟨taken, dropped⟩ :=
            takeWhile_append_of_head inside (alternates.head_not_plain rfl)
          rw [Piece.text, text, List.cons_append, lex_plain (run c List.mem_cons_self).1, taken,
            dropped, rest, ← text, String.ofList_toList]
          rfl

end Sql

end Warehouse
