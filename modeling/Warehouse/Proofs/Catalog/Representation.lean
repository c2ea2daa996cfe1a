import Mathlib.Data.List.Nodup
import Mathlib.Data.List.Perm.Basic
import Mathlib.Data.List.Sort
import Warehouse.Catalog.Listing
import Warehouse.Catalog.Table
import Warehouse.Proofs.Dialogue.Computation
import Warehouse.Proofs.Text.Numeral

/-! # Rows in the form of another driver

Drivers deliver the cells of a row in any order, name them in any letter case, and give
numbers by themselves or by their numerals. Rows that differ in nothing else are alike. The
cell under a name is found in both (`Row.Alike.cell_corresponds`) and every reading of a cell
takes the two for the same, so no query tells alike answers apart: neither the ones about a
table (`Catalog.indifferent_lookup` and the following) nor the lists of names
(`Listing.indifferent_query`). -/

namespace Warehouse

open Warehouse.Computation

/-! ## Alike rows -/

/-- The columns that hold numbers. -/
def numericColumns : List String := [
  "object_id", "TABLE_OBJECT_ID", "max_length", "precision", "scale", "ColumnLength",
  "DecimalTotalDigits", "DecimalFractionalDigits", "CharType", "key_sequence", "count"]

/-- The name, in any letter case, is of a column that holds numbers. -/
def isNumericColumn (name : String) : Bool :=
  (numericColumns.map Text.lower).contains (Text.lower name)

namespace Value

/-- The cell holds the number, which must not have too many digits, or its numeral, which may
be padded. -/
inductive Tells (number : Int) : Value → Prop where
  | number (short : number.natAbs < Text.leastOverlong) : Tells number (.number number)
  | numeral {padded : String} (text : Text.trim padded = toString number) :
      Tells number (.text padded)

/-- The cells under a name are the same or, in a column that holds numbers, tell the same
number. -/
inductive Alike (name : String) : Value → Value → Prop where
  | same (cell : Value) : Alike name cell cell
  | number {first second : Value} {number : Int} (numeric : isNumericColumn name = true)
      (left : first.Tells number) (right : second.Tells number) : Alike name first second

end Value

namespace Row

/-- The names of the cells agree in small letters, and the cells are alike. -/
structure AlikeEntry (first second : String × Value) : Prop where
  name : Text.lower first.1 = Text.lower second.1
  cell : first.2.Alike first.1 second.2

/-- The names in the first row differ in small letters, and the second row has alike cells in
any order. -/
structure Alike (first second : Row) : Prop where
  distinct : (first.map fun entry => Text.lower entry.1).Nodup
  entries : ∃ reordered, first.Perm reordered ∧ List.Forall₂ AlikeEntry reordered second

end Row

/-! ## Readings of a cell -/

namespace Value

variable {name : String} {number : Int} {cell first second : Value}

theorem Tells.trimmed?_eq (tells : cell.Tells number) :
    cell.trimmed? = .ok (some (toString number)) := by
  cases tells with
  | number short => exact trimmed?_number short
  | numeral text => exact congrArg (Except.ok ∘ some) text

theorem Tells.isTrue_eq (tells : cell.Tells number) :
    cell.isTrue = .ok (trueWords.contains (Text.upper (toString number))) := by
  have trimmed := tells.trimmed?_eq
  cases tells <;> simp [isTrue, trimmed, Except.map]

theorem Alike.symm (alike : first.Alike name second) : second.Alike name first := by
  cases alike with
  | same => exact .same first
  | number numeric left right => exact .number numeric right left

theorem Alike.rename {other : String} (alike : first.Alike name second)
    (names : Text.lower name = Text.lower other) : first.Alike other second := by
  cases alike with
  | same => exact .same first
  | number numeric left right =>
      rw [isNumericColumn, names] at numeric
      exact .number numeric left right

theorem Alike.eq (alike : first.Alike name second) (plain : isNumericColumn name = false) :
    first = second := by
  cases alike with
  | same => rfl
  | number numeric _ _ =>
      rw [plain] at numeric
      cases numeric

theorem Alike.trimmed?_eq (alike : first.Alike name second) : first.trimmed? = second.trimmed? := by
  cases alike with
  | same => rfl
  | number _ left right => rw [left.trimmed?_eq, right.trimmed?_eq]

theorem Alike.isTrue_eq (alike : first.Alike name second) : first.isTrue = second.isTrue := by
  cases alike with
  | same => rfl
  | number _ left right => rw [left.isTrue_eq, right.isTrue_eq]

end Value

/-! ## Readings of a row -/

namespace Row

theorem exists_of_cell?_eq_some {row : Row} {key : String} {value : Value}
    (found : row.cell? key = some value) :
    ∃ name, (name, value) ∈ row ∧ Text.lower name = Text.lower key := by
  unfold cell? Fields.find? at found
  rcases same : List.find? (·.1 = key) row with _ | entry
  · rw [same] at found
    obtain ⟨entry, lowered, rfl⟩ := Option.map_eq_some_iff.mp found
    have agrees := List.find?_some lowered
    exact ⟨entry.1, List.mem_of_find?_eq_some lowered, of_decide_eq_true agrees⟩
  · rw [same] at found
    cases found
    have agrees := List.find?_some same
    exact ⟨entry.1, List.mem_of_find?_eq_some same, congrArg Text.lower (of_decide_eq_true agrees)⟩

theorem isSome_cell? {row : Row} {entry : String × Value} {key : String} (member : entry ∈ row)
    (agrees : Text.lower entry.1 = Text.lower key) : (row.cell? key).isSome = true := by
  have lowered : (List.find? (Text.lower ·.1 = Text.lower key) row).isSome = true :=
    List.find?_isSome.mpr ⟨entry, member, decide_eq_true agrees⟩
  unfold cell?
  split
  · rfl
  · rw [Option.isSome_map]
    exact lowered

/-- Where names differ in small letters, the cell under a name is the one whose name agrees
with it in small letters. -/
theorem cell?_eq_some_iff {row : Row} (distinct : (row.map fun entry => Text.lower entry.1).Nodup)
    {key : String} {value : Value} :
    row.cell? key = some value ↔
      ∃ name, (name, value) ∈ row ∧ Text.lower name = Text.lower key := by
  constructor
  · exact exists_of_cell?_eq_some
  · rintro ⟨name, member, agrees⟩
    obtain ⟨other, found⟩ := Option.isSome_iff_exists.mp (isSome_cell? member agrees)
    obtain ⟨label, there, named⟩ := exists_of_cell?_eq_some found
    have single := List.inj_on_of_nodup_map distinct there member (named.trans agrees.symm)
    cases single
    exact found

theorem AlikeEntry.symm {first second : String × Value} (alike : AlikeEntry first second) :
    AlikeEntry second first := ⟨alike.name.symm, (alike.cell.rename alike.name).symm⟩

variable {first second : Row}

theorem Alike.symm (alike : first.Alike second) : second.Alike first := by
  obtain ⟨distinct, reordered, same, entries⟩ := alike
  have names : (reordered.map fun entry => Text.lower entry.1) =
      second.map fun entry => Text.lower entry.1 := by
    rw [← List.forall₂_eq_eq_eq, List.forall₂_map_left_iff, List.forall₂_map_right_iff]
    exact entries.imp fun _ _ => AlikeEntry.name
  obtain ⟨others, related, perm⟩ := List.perm_comp_forall₂ same entries
  refine ⟨?_, others, perm.symm, (related.imp fun _ _ => AlikeEntry.symm).flip⟩
  rw [← names]
  exact (same.map _).nodup distinct

/-- A cell that is found in a row is found in an alike row. -/
theorem Alike.cell?_of_eq_some (alike : first.Alike second) {key : String} {value : Value}
    (found : first.cell? key = some value) :
    ∃ other, second.cell? key = some other ∧ value.Alike key other := by
  obtain ⟨name, member, agrees⟩ := (cell?_eq_some_iff alike.distinct).mp found
  obtain ⟨reordered, same, entries⟩ := alike.entries
  obtain ⟨⟨other, cell⟩, there, entry⟩ := exists_of_forall₂ entries (same.mem_iff.mp member)
  exact ⟨cell, (cell?_eq_some_iff alike.symm.distinct).mpr
    ⟨other, there, entry.name.symm.trans agrees⟩, entry.cell.rename agrees⟩

theorem Alike.cell_corresponds (alike : first.Alike second) (key : String) :
    Corresponds (Value.Alike key) (first.cell key) (second.cell key) := by
  unfold cell
  rcases here : first.cell? key with _ | value
  · rcases there : second.cell? key with _ | other
    · exact .failed _
    · obtain ⟨value, found, -⟩ := alike.symm.cell?_of_eq_some there
      rw [here] at found
      cases found
  · obtain ⟨other, there, cells⟩ := alike.cell?_of_eq_some here
    rw [there]
    exact .ok cells

theorem Alike.cell_eq (alike : first.Alike second) (key : String)
    (plain : isNumericColumn key = false) : first.cell key = second.cell key :=
  (alike.cell_corresponds key).eq fun _ _ cells => cells.eq plain

theorem Alike.text?_eq (alike : first.Alike second) (key : String) :
    first.text? key = second.text? key :=
  (alike.cell_corresponds key).bind_eq fun _ _ cells => cells.trimmed?_eq

theorem Alike.flag_eq (alike : first.Alike second) (key : String) :
    first.flag key = second.flag key :=
  (alike.cell_corresponds key).bind_eq fun _ _ cells => cells.isTrue_eq

theorem Alike.text_eq (alike : first.Alike second) (key : String) :
    first.text key = second.text key := by
  apply (alike.cell_corresponds key).bind_eq
  intro cell other cells
  rw [Value.trimmed, Value.trimmed, cells.trimmed?_eq]

theorem Alike.integer?_eq (alike : first.Alike second) (key : String) :
    first.integer? key = second.integer? key := by
  apply (alike.cell_corresponds key).bind_eq
  intro cell other cells
  rw [Value.integer?, Value.integer?, cells.trimmed?_eq]

theorem Alike.numeral_eq (alike : first.Alike second) (key : String) :
    first.numeral key = second.numeral key := by
  rw [numeral, numeral, alike.integer?_eq]

end Row

/-! ## Readings of an answer -/

/-- The answers have alike rows in the same order. -/
abbrev AlikeRows : List Row → List Row → Prop := List.Forall₂ Row.Alike

/-- Alike answers are read as the same. -/
def Query.Indifferent {α : Type} (query : Query α) : Prop :=
  ∀ rows others, AlikeRows rows others → query.read rows = query.read others

variable {first second : Row} {rows others : List Row}

theorem namesUnder_eq (alike : AlikeRows rows others) (key : String) :
    namesUnder key rows = namesUnder key others := by
  apply mapM_eq_of_forall₂ alike
  intro row other alike
  rw [alike.text?_eq]

theorem Listing.indifferent_query (dialect : Dialect) (listing : Listing) :
    (listing.query dialect).Indifferent := by
  intro rows others alike
  apply mapM_eq_of_forall₂ alike
  intro row other alike
  rw [alike.text?_eq]

namespace Catalog

/-! ### Columns -/

theorem Synapse.column_eq (alike : first.Alike second) : column first = column second := by
  have default := alike.cell_eq "default_value" (by decide)
  simp only [column, length, default, alike.text_eq, alike.text?_eq, alike.integer?_eq,
    alike.numeral_eq, alike.flag_eq]

theorem Teradata.column_eq (name : TableName) (alike : first.Alike second) :
    column name first = column name second := by
  have default := alike.cell_eq "DefaultValue" (by decide)
  simp only [column, length, default, alike.text?_eq, alike.integer?_eq, alike.numeral_eq,
    alike.flag_eq]

theorem Exasol.column_eq (alike : first.Alike second) : column first = column second := by
  have type := alike.cell_eq "COLUMN_TYPE" (by decide)
  have default := alike.cell_eq "COLUMN_DEFAULT" (by decide)
  simp only [column, type, default, alike.text?_eq, alike.flag_eq]

theorem Snowflake.column?_eq (alike : first.Alike second) : column? first = column? second := by
  have default := alike.cell_eq "default" (by decide)
  have name := alike.cell_eq "name" (by decide)
  simp only [column?, describesColumn, column, default, name, alike.text_eq, alike.text?_eq]

theorem indifferent_columnsQuery {dialect : Dialect} {name : TableName} {object : ObjectId}
    {query : Query (List Column)} (asked : columnsQuery dialect name object = .ok query) :
    query.Indifferent := by
  intro rows others alike
  cases dialect with
  | synapse =>
      obtain ⟨number, -, rfl⟩ := bind_pure_eq_ok_iff.mp asked
      exact mapM_eq_of_forall₂ alike fun _ _ => Synapse.column_eq
  | teradata =>
      cases asked
      exact mapM_eq_of_forall₂ alike fun _ _ => Teradata.column_eq name
  | exasol =>
      cases asked
      exact mapM_eq_of_forall₂ alike fun _ _ => Exasol.column_eq
  | snowflake =>
      cases asked
      exact congrArg (· >>= _) (mapM_eq_of_forall₂ alike fun _ _ => Snowflake.column?_eq)

/-! ### Tables that are shown -/

/-- In alike answers alike rows are found under a name. -/
theorem Snowflake.findTable_corresponds (alike : AlikeRows rows others) (table : String) :
    Corresponds (Option.Rel Row.Alike) (findTable table rows) (findTable table others) := by
  induction alike with
  | nil => exact .ok .none
  | @cons row other rows others here _ ih =>
      have name := here.cell_eq "name" (by decide)
      simp only [findTable, name]
      rcases other.cell "name" with fault | cell
      · exact .failed fault
      · cases cell with
        | text found =>
            by_cases same : found = table
            · simp only [same, bind, Except.bind, ↓reduceIte]
              exact .ok (.some here)
            · simpa only [bind, Except.bind, same, ↓reduceIte] using ih
        | _ => exact ih

theorem Snowflake.fullName_eq (alike : first.Alike second) : fullName first = fullName second := by
  simp only [fullName, List.mapM_cons, List.mapM_nil, alike.text?_eq]

theorem Snowflake.indifferent_temporary (name : TableName) : (temporary name).Indifferent := by
  intro rows others alike
  apply (findTable_corresponds alike name.table).lift_cell.bind_eq
  intro found partner shown
  cases shown with
  | none => rfl
  | some alike => simp only [alike.text?_eq]

theorem indifferent_lookup (dialect : Dialect) (name : TableName) :
    (lookup dialect name).Indifferent := by
  intro rows others alike
  cases dialect with
  | synapse | teradata | exasol =>
      cases alike with
      | nil => rfl
      | cons here _ =>
          simp only [lookup, Synapse.lookup, Teradata.lookup, Exasol.lookup, here.text?_eq]
  | snowflake =>
      apply (Snowflake.findTable_corresponds alike name.table).lift_cell.bind_eq
      intro found partner shown
      cases shown with
      | none => rfl
      | some alike => simp only [Snowflake.fullName_eq alike]

/-! ### Keys -/

/-- Lists that are related item by item are still so after they are sorted, if related items
stand in the same order. -/
theorem forall₂_mergeSort {α β : Type} {relates : α → β → Prop} {items : List α}
    {partners : List β} {below : α → α → Bool} {under : β → β → Bool}
    (related : List.Forall₂ relates items partners)
    (agree : ∀ {item partner next other}, relates item partner → relates next other →
      below item next = under partner other) :
    List.Forall₂ relates (items.mergeSort below) (partners.mergeSort under) := by
  -- Both sorted lists are projections of the sorted list of pairs.
  let sorted := (items.zip partners).mergeSort fun first second => below first.1 second.1
  have pairs : ∀ pair ∈ items.zip partners, relates pair.1 pair.2 := fun _ member =>
    List.forall₂_zip related member
  have left : sorted.map Prod.fst = items.mergeSort below := by
    have same := List.map_mergeSort (f := Prod.fst) (l := items.zip partners) (s := below)
      fun _ _ _ _ => rfl
    rwa [List.map_fst_zip related.length_eq.le] at same
  have right : sorted.map Prod.snd = partners.mergeSort under := by
    rw [List.map_mergeSort (s := under), List.map_snd_zip related.length_eq.ge]
    exact fun first here second there => agree (pairs first here) (pairs second there)
  rw [← left, ← right, List.forall₂_map_left_iff, List.forall₂_map_right_iff, List.forall₂_same]
  intro pair member
  exact pairs pair ((List.mergeSort_perm _ _).mem_iff.mp member)

/-- The rows of the pairs are alike, and their numbers are the same. -/
def Snowflake.AlikeNumbered {α : Type} (first second : α × Row) : Prop :=
  first.1 = second.1 ∧ first.2.Alike second.2

theorem Snowflake.alikeRows_sorted {numbered partners : List (Int × Row)}
    (alike : List.Forall₂ AlikeNumbered numbered partners) :
    AlikeRows ((numbered.mergeSort fun first second => first.1 ≤ second.1).map Prod.snd)
      ((partners.mergeSort fun first second => first.1 ≤ second.1).map Prod.snd) := by
  have ordered := @forall₂_mergeSort _ _ _ _ _ (fun first second => first.1 ≤ second.1)
    (fun first second => first.1 ≤ second.1) alike fun first second => by rw [first.1, second.1]
  unfold AlikeRows
  rw [List.forall₂_map_left_iff, List.forall₂_map_right_iff]
  exact ordered.imp fun _ _ pair => pair.2

theorem Snowflake.sortedBySequence_corresponds {numbered partners : List (Option Int × Row)}
    (alike : List.Forall₂ AlikeNumbered numbered partners) :
    Corresponds AlikeRows (sortedBySequence numbered) (sortedBySequence partners) := by
  cases alike with
  | nil =>
      have empty : sortedBySequence [] = .ok [] := by
        simp [sortedBySequence, bind, Except.bind, pure, Except.pure]
      rw [empty]
      exact .ok .nil
  | @cons item partner rest others here behind =>
      cases behind with
      | nil => exact .ok (.cons here.2 .nil)
      | cons next further =>
          refine (@corresponds_mapM _ _ _ _ _ _ AlikeNumbered _ _ _ _
            (.cons here (.cons next further)) ?_).bind fun _ _ alike => .ok (alikeRows_sorted alike)
          rintro ⟨number, row⟩ ⟨_, other⟩ ⟨rfl, alike⟩
          cases number with
          | none => exact .failed _
          | some number => exact .ok ⟨rfl, alike⟩

theorem Snowflake.indifferent_keys (name : TableName) : (keys name).Indifferent := by
  intro rows others alike
  refine Corresponds.bind_eq (@corresponds_mapM _ _ _ _ _ _ AlikeNumbered _ _ _ _ alike ?_) ?_
  · intro row other alike
    rw [alike.integer?_eq]
    rcases other.integer? "key_sequence" with fault | number
    · exact .failed _
    · exact .ok ⟨rfl, alike⟩
  · intro numbered partners alike
    apply (sortedBySequence_corresponds alike).lift_cell.bind_eq
    intro sorted found alike
    apply mapM_eq_of_forall₂ alike
    intro row other alike
    rw [alike.cell_eq "column_name" (by decide)]

theorem indifferent_keysQuery {dialect : Dialect} {name : TableName} {object : ObjectId}
    {query : Query (List Value)} (asked : keysQuery dialect name object = .ok query) :
    query.Indifferent := by
  cases dialect with
  | synapse =>
      obtain ⟨number, -, rfl⟩ := bind_pure_eq_ok_iff.mp asked
      intro rows others alike
      simp only [namesUnder_eq alike]
  | teradata | exasol =>
      cases asked
      intro rows others alike
      exact congrArg liftM (namesUnder_eq alike _)
  | snowflake =>
      cases asked
      exact Snowflake.indifferent_keys name

/-! ### Storage and count -/

theorem Synapse.namedColumns_eq (alike : AlikeRows rows others) :
    namedColumns rows = namedColumns others := by
  have same : rows.mapM (·.text? "column_name") = others.mapM (·.text? "column_name") :=
    mapM_eq_of_forall₂ alike fun _ _ alike => alike.text?_eq "column_name"
  rw [namedColumns, namedColumns, same]

theorem Synapse.indifferent_distribution {name : TableName} {object : ObjectId}
    {query : Query Distribution} (asked : distribution name object = .ok query) :
    query.Indifferent := by
  obtain ⟨number, -, rfl⟩ := bind_pure_eq_ok_iff.mp asked
  intro rows others alike
  have columns := namedColumns_eq alike
  cases alike with
  | nil => rfl
  | cons here _ => simp only [readDistribution, here.text_eq, columns]

theorem Synapse.indifferent_index {name : TableName} {object : ObjectId} {query : Query Index}
    (asked : index name object = .ok query) : query.Indifferent := by
  obtain ⟨number, -, rfl⟩ := bind_pure_eq_ok_iff.mp asked
  intro rows others alike
  have columns := namedColumns_eq alike
  cases alike with
  | nil => rfl
  | cons here _ => simp only [readIndex, here.text_eq, columns]

theorem indifferent_countQuery (dialect : Dialect) (name : TableName) :
    (countQuery dialect name).Indifferent := by
  intro rows others alike
  cases alike with
  | nil => rfl
  | @cons row other _ _ here _ =>
      change (do return (← row.integer? "count").getD 0 : Except Failure Int) = _
      rw [here.integer?_eq]
      rfl

end Catalog

end Warehouse
