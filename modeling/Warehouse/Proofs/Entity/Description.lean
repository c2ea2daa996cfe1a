import Warehouse.Entity.Description

/-! # Descriptions can be printed

A text in quotes has only characters that can be printed as they are, whatever characters the
text has (`isPrinted_quoted`). So everything that has texts for names has a description, and
this is a line of such characters (`Entity.exists_description?`). -/

namespace Warehouse

/-- All characters of the text can be printed as they are. -/
def IsPrinted (text : String) : Prop := ∀ c ∈ text.toList, Text.isPrintable c = true

theorem isPrinted_of_all {text : String} (all : text.toList.all Text.isPrintable = true) :
    IsPrinted text :=
  List.all_eq_true.mp all

theorem IsPrinted.append {first second : String} (front : IsPrinted first)
    (back : IsPrinted second) : IsPrinted (first ++ second) := by
  intro c member
  rw [String.toList_append, List.mem_append] at member
  exact member.elim (front c) (back c)

theorem IsPrinted.intercalate {separator : String} {items : List String}
    (between : IsPrinted separator) (each : ∀ item ∈ items, IsPrinted item) :
    IsPrinted (separator.intercalate items) := by
  unfold IsPrinted
  rw [String.toList_intercalate]
  induction items with
  | nil => exact List.forall_mem_nil _
  | cons item others ih =>
      obtain ⟨first, behind⟩ := List.forall_mem_cons.mp each
      cases others with
      | nil => simpa [IsPrinted] using first
      | cons next others =>
          rw [List.map_cons, List.map_cons, List.intercalate_cons_cons, List.append_assoc]
          exact List.forall_mem_append.mpr ⟨first,
            List.forall_mem_append.mpr ⟨between, ih behind⟩⟩

/-! ## Quoted texts -/

theorem isPrintable_digitChar {digit : Nat} (small : digit < 16) :
    Text.isPrintable (Nat.digitChar digit) = true := by
  revert digit
  decide

theorem isPrintable_of_mem_hexDigits {width number : Nat} :
    ∀ c ∈ hexDigits width number, Text.isPrintable c = true := by
  induction width generalizing number with
  | zero => exact List.forall_mem_nil _
  | succ width ih =>
      exact List.forall_mem_append.mpr ⟨ih, List.forall_mem_singleton.mpr
        (isPrintable_digitChar (Nat.mod_lt number (by decide)))⟩

theorem isPrintable_of_mem_escapeCode (code : Nat) :
    ∀ c ∈ escapeCode code, Text.isPrintable c = true := by
  have escape {kind : Char} (printed : Text.isPrintable kind = true) (width : Nat) :
      ∀ c ∈ '\\' :: kind :: hexDigits width code, Text.isPrintable c = true :=
    List.forall_mem_cons.mpr ⟨by decide,
      List.forall_mem_cons.mpr ⟨printed, isPrintable_of_mem_hexDigits⟩⟩
  unfold escapeCode
  split
  · exact escape (by decide) 2
  · split
    · exact escape (by decide) 4
    · exact escape (by decide) 8

theorem isPrintable_of_mem_escapeQuoted {mark : Char} (marked : Text.isPrintable mark = true)
    (c : Char) : ∀ d ∈ escapeQuoted mark c, Text.isPrintable d = true := by
  have pair {second : Char} (printed : Text.isPrintable second = true) :
      ∀ d ∈ ['\\', second], Text.isPrintable d = true :=
    List.forall_mem_cons.mpr ⟨by decide, List.forall_mem_singleton.mpr printed⟩
  unfold escapeQuoted
  split
  · rename_i special
    rcases special with rfl | rfl
    · exact pair marked
    · exact pair (by decide)
  · split
    · exact pair (by decide)
    · split
      · exact pair (by decide)
      · split
        · exact pair (by decide)
        · split
          · rename_i printed
            exact List.forall_mem_singleton.mpr printed
          · exact isPrintable_of_mem_escapeCode c.toNat

theorem isPrinted_quoted (text : String) : IsPrinted (quoted text) := by
  unfold quoted
  extract_lets chars mark
  have marked : Text.isPrintable mark = true := by
    simp only [mark]
    split <;> decide
  rw [IsPrinted, String.toList_ofList]
  refine List.forall_mem_cons.mpr ⟨marked, List.forall_mem_append.mpr ⟨fun d member => ?_,
    List.forall_mem_singleton.mpr marked⟩⟩
  obtain ⟨c, -, escaped⟩ := List.mem_flatMap.mp member
  exact isPrintable_of_mem_escapeQuoted marked c d escaped

theorem isPrinted_quotedOrNull (text : Option String) : IsPrinted (quotedOrNull text) := by
  cases text with
  | none => exact isPrinted_of_all (by decide)
  | some text => exact isPrinted_quoted text

theorem isPrinted_describedTuple {items : List String} (each : ∀ item ∈ items, IsPrinted item) :
    IsPrinted (describedTuple items) := by
  have opening : IsPrinted "(" := isPrinted_of_all (by decide)
  have separator : IsPrinted ", " := isPrinted_of_all (by decide)
  unfold describedTuple
  split
  · have only := each _ List.mem_cons_self
    exact (opening.append only).append (isPrinted_of_all (by decide))
  · exact (opening.append (separator.intercalate each)).append (isPrinted_of_all (by decide))

theorem isPrinted_describedCall {maker : String} {parts : List (String × String)}
    (named : IsPrinted maker)
    (each : ∀ part ∈ parts, IsPrinted part.1 ∧ IsPrinted part.2) :
    IsPrinted (describedCall maker parts) := by
  have equals : IsPrinted "=" := isPrinted_of_all (by decide)
  have separator : IsPrinted ", " := isPrinted_of_all (by decide)
  have shown : ∀ item ∈ parts.map fun part => part.1 ++ "=" ++ part.2, IsPrinted item :=
    List.forall_mem_map.mpr fun part member =>
      ((each part member).1.append equals).append (each part member).2
  exact ((named.append (isPrinted_of_all (by decide))).append
    (separator.intercalate shown)).append (isPrinted_of_all (by decide))

/-! ## Descriptions -/

/-- The names of a thing, where it has some. -/
def Entity.names : Entity → List Value
  | definition _ | distribution _ | index _ => []
  | column given => [given.name]
  | columns given => given.names
  | table given => given.columns.names ++ given.primaryKeys

theorem isPrinted_flagWord (flag : Bool) : IsPrinted (flagWord flag) := by
  cases flag <;> exact isPrinted_of_all (by decide)

theorem Definition.isPrinted_description (definition : Definition) :
    IsPrinted definition.description := by
  have maker : IsPrinted definition.dialect.title := by
    cases definition.dialect <;> exact isPrinted_of_all (by decide)
  apply isPrinted_describedCall maker
  refine List.forall_mem_append.mpr ⟨?_, ?_⟩
  · simp only [List.forall_mem_cons]
    exact ⟨⟨isPrinted_of_all (by decide), isPrinted_quoted _⟩,
      ⟨isPrinted_of_all (by decide), isPrinted_quotedOrNull _⟩,
      ⟨isPrinted_of_all (by decide), isPrinted_flagWord _⟩,
      ⟨isPrinted_of_all (by decide), isPrinted_quotedOrNull _⟩, List.forall_mem_nil _⟩
  · split
    · simp only [List.forall_mem_cons]
      exact ⟨⟨isPrinted_of_all (by decide), isPrinted_quotedOrNull _⟩, List.forall_mem_nil _⟩
    · exact List.forall_mem_nil _

theorem isPrinted_quotedNames (names : List String) :
    IsPrinted (describedTuple (names.map quoted)) :=
  isPrinted_describedTuple (List.forall_mem_map.mpr fun name _ => isPrinted_quoted name)

theorem Distribution.isPrinted_description (distribution : Distribution) :
    IsPrinted distribution.description := by
  have opening : IsPrinted "TableDistribution(" := isPrinted_of_all (by decide)
  exact (((opening.append (isPrinted_quoted _)).append (isPrinted_of_all (by decide))).append
    (isPrinted_quotedNames _)).append (isPrinted_of_all (by decide))

theorem Index.isPrinted_description (index : Index) : IsPrinted index.description := by
  have opening : IsPrinted "TableIndex(" := isPrinted_of_all (by decide)
  exact (((opening.append (isPrinted_quoted _)).append (isPrinted_of_all (by decide))).append
    (isPrinted_quotedNames _)).append (isPrinted_of_all (by decide))

/-- The thing has a description, and it can be printed. -/
def HasPrinted (description : Option String) : Prop :=
  ∃ text, description = some text ∧ IsPrinted text

theorem exists_mapM_of_hasPrinted {α : Type} {describe : α → Option String} {items : List α}
    (each : ∀ item ∈ items, HasPrinted (describe item)) :
    ∃ texts, items.mapM describe = some texts ∧ ∀ text ∈ texts, IsPrinted text := by
  induction items with
  | nil => exact ⟨[], rfl, List.forall_mem_nil _⟩
  | cons item rest ih =>
      obtain ⟨⟨text, described, printed⟩, behind⟩ := List.forall_mem_cons.mp each
      obtain ⟨texts, mapped, others⟩ := ih behind
      exact ⟨text :: texts, by simp [List.mapM_cons, described, mapped],
        List.forall_mem_cons.mpr ⟨printed, others⟩⟩

theorem Value.hasPrinted_display? {name : Value} (text : ∃ word, name = .text word) :
    HasPrinted name.display? := by
  obtain ⟨word, rfl⟩ := text
  exact ⟨quoted word, by simp [display?], isPrinted_quoted word⟩

theorem Column.hasPrinted_description? {column : Column}
    (text : ∃ word, column.name = .text word) : HasPrinted column.description? := by
  obtain ⟨name, displayed, printed⟩ := Value.hasPrinted_display? text
  have maker : IsPrinted column.kind.maker := by
    cases column.kind with
    | plain => exact isPrinted_of_all (by decide)
    | bound dialect => cases dialect <;> exact isPrinted_of_all (by decide)
  refine ⟨_, by rw [Column.description?, displayed]; rfl, isPrinted_describedCall maker ?_⟩
  simp only [List.forall_mem_cons]
  exact ⟨⟨isPrinted_of_all (by decide), printed⟩,
    ⟨isPrinted_of_all (by decide), column.definition.isPrinted_description⟩,
    List.forall_mem_nil _⟩

theorem Columns.hasPrinted_description? {columns : Columns}
    (texts : ∀ name ∈ columns.names, ∃ word, name = .text word) :
    HasPrinted columns.description? := by
  obtain ⟨items, mapped, printed⟩ := exists_mapM_of_hasPrinted fun (column : Column) member =>
    Column.hasPrinted_description? (texts column.name (List.mem_map_of_mem member))
  have opening : IsPrinted "ColumnCollection([" := isPrinted_of_all (by decide)
  have separator : IsPrinted ", " := isPrinted_of_all (by decide)
  exact ⟨_, by rw [Columns.description?, mapped]; rfl,
    (opening.append (separator.intercalate printed)).append (isPrinted_of_all (by decide))⟩

theorem TableDefinition.hasPrinted_description? {table : TableDefinition}
    (texts : ∀ name ∈ table.columns.names ++ table.primaryKeys, ∃ word, name = .text word) :
    HasPrinted table.description? := by
  obtain ⟨named, keyed⟩ := List.forall_mem_append.mp texts
  obtain ⟨columns, described, printed⟩ := Columns.hasPrinted_description? named
  obtain ⟨keys, mapped, shown⟩ := exists_mapM_of_hasPrinted fun key member =>
    Value.hasPrinted_display? (keyed key member)
  have maker : IsPrinted table.maker := by
    unfold maker
    split <;> exact isPrinted_of_all (by decide)
  refine ⟨_, by rw [TableDefinition.description?, described, mapped]; rfl,
    isPrinted_describedCall maker (List.forall_mem_append.mpr ⟨?_, ?_⟩)⟩
  · simp only [List.forall_mem_cons]
    exact ⟨⟨isPrinted_of_all (by decide), isPrinted_quoted _⟩,
      ⟨isPrinted_of_all (by decide), isPrinted_quoted _⟩,
      ⟨isPrinted_of_all (by decide), isPrinted_flagWord _⟩,
      ⟨isPrinted_of_all (by decide), printed⟩,
      ⟨isPrinted_of_all (by decide), isPrinted_describedTuple shown⟩, List.forall_mem_nil _⟩
  · split
    · exact List.forall_mem_nil _
    · simp only [List.forall_mem_cons]
      exact ⟨⟨isPrinted_of_all (by decide), Distribution.isPrinted_description _⟩,
        ⟨isPrinted_of_all (by decide), Index.isPrinted_description _⟩, List.forall_mem_nil _⟩

/-- Everything that has texts for names has a description that can be printed. -/
theorem Entity.exists_description? {entity : Entity}
    (texts : ∀ name ∈ entity.names, ∃ word, name = .text word) :
    ∃ description, entity.description? = some description ∧ IsPrinted description := by
  cases entity with
  | definition given => exact ⟨_, rfl, given.isPrinted_description⟩
  | column given => exact Column.hasPrinted_description? (texts given.name List.mem_cons_self)
  | columns given => exact Columns.hasPrinted_description? texts
  | distribution given => exact ⟨_, rfl, given.isPrinted_description⟩
  | index given => exact ⟨_, rfl, given.isPrinted_description⟩
  | table given => exact TableDefinition.hasPrinted_description? texts

end Warehouse
