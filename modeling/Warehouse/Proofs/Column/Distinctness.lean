import Warehouse.Access
import Warehouse.Proofs.Request.Acceptance

/-! # Column lists and their names

A list of columns is accepted exactly if its names are distinct, and otherwise refused for the
first column whose name an earlier column has. In an accepted list a name finds the one column
of that name or none, names and columns stand at the same positions, and two lists are the same
exactly if names and type texts agree one by one (`Columns.ofList_distinct`). -/

namespace Warehouse

/-! ## The first repetition in a list -/

/-- The position is the smallest whose item occurs at an earlier position, too. -/
structure IsFirstRepeat {α : Type} (items : List α) (position : Nat) (item : α) : Prop where
  here : items[position]? = some item
  repeated : item ∈ items.take position
  first : ∀ earlier < position, ∀ other ∈ items[earlier]?, other ∉ items.take earlier

/-- The position is the smallest whose item has been seen before or occurs at an earlier
position. -/
structure IsFirstSeen {α : Type} (seen items : List α) (position : Nat) (item : α) : Prop where
  here : items[position]? = some item
  repeated : item ∈ seen ∨ item ∈ items.take position
  first : ∀ earlier < position, ∀ other ∈ items[earlier]?,
    ¬ (other ∈ seen ∨ other ∈ items.take earlier)

section

variable {α : Type} {seen items rest : List α} {position : Nat} {head item : α}

theorem isFirstSeen_nil_iff :
    IsFirstSeen [] items position item ↔ IsFirstRepeat items position item := by
  constructor
  · rintro ⟨here, repeated, first⟩
    exact ⟨here, by simpa using repeated, by simpa using first⟩
  · rintro ⟨here, repeated, first⟩
    exact ⟨here, .inr repeated, by simpa using first⟩

/-- An item that has been seen is the first of its kind. -/
theorem isFirstSeen_of_mem (again : head ∈ seen) :
    IsFirstSeen seen (head :: rest) position item ↔ position = 0 ∧ item = head := by
  constructor
  · rintro ⟨here, -, first⟩
    have zero : position = 0 := by
      by_contra later
      exact first 0 (Nat.pos_of_ne_zero later) head rfl (.inl again)
    subst zero
    exact ⟨rfl, (Option.some.inj here).symm⟩
  · rintro ⟨rfl, rfl⟩
    exact ⟨rfl, .inl again, fun _ before => absurd before (Nat.not_lt_zero _)⟩

/-- An item that has not been seen is passed by, and seen from then on. -/
theorem isFirstSeen_of_not_mem (fresh : head ∉ seen) :
    IsFirstSeen seen (head :: rest) position item ↔
      ∃ behind, position = behind + 1 ∧ IsFirstSeen (head :: seen) rest behind item := by
  have moved (count : Nat) (other : α) : (other ∈ seen ∨ other ∈ (head :: rest).take (count + 1)) ↔
      (other ∈ head :: seen ∨ other ∈ rest.take count) := by
    rw [List.take_succ_cons, List.mem_cons, List.mem_cons]
    tauto
  constructor
  · rintro ⟨here, repeated, first⟩
    cases position with
    | zero =>
        cases Option.some.inj here
        exact absurd repeated (by simpa using fresh)
    | succ behind =>
        refine ⟨behind, rfl, here, (moved behind item).mp repeated, ?_⟩
        intro earlier before other found
        rw [← moved]
        exact first (earlier + 1) (Nat.succ_lt_succ before) other found
  · rintro ⟨behind, rfl, here, repeated, first⟩
    refine ⟨here, (moved behind item).mpr repeated, ?_⟩
    intro earlier before other found
    cases earlier with
    | zero =>
        cases Option.some.inj found
        simpa using fresh
    | succ earlier =>
        rw [moved]
        exact first earlier (Nat.lt_of_succ_lt_succ before) other found

end

/-- Names that are neither lists nor maps are refused for the first that occurred before. -/
theorem nameFault?_eq_some_iff {seen names : List Value} {fault : TableFault}
    (plain : ∀ name ∈ names, name.isStructured = false) :
    nameFault? seen names = some fault ↔
      ∃ position name, names[position]? = some name ∧
        IsFirstSeen seen (names.map Value.comparable) position name.comparable ∧
        fault = .about .duplicateColumn name := by
  induction names generalizing seen with
  | nil => simp [nameFault?]
  | cons name rest ih =>
      obtain ⟨here, behind⟩ := List.forall_mem_cons.mp plain
      rw [nameFault?, here, List.map_cons]
      by_cases again : name.comparable ∈ seen
      · simp only [Bool.false_eq_true, ↓reduceIte, again, Option.some.injEq,
          isFirstSeen_of_mem again]
        constructor
        · rintro rfl
          exact ⟨0, name, rfl, ⟨rfl, rfl⟩, rfl⟩
        · rintro ⟨position, other, found, ⟨rfl, -⟩, rfl⟩
          cases Option.some.inj found
          rfl
      · simp only [Bool.false_eq_true, ↓reduceIte, again, ih behind,
          isFirstSeen_of_not_mem again]
        constructor
        · rintro ⟨position, other, found, first, told⟩
          exact ⟨position + 1, other, found, ⟨position, rfl, first⟩, told⟩
        · rintro ⟨_, other, found, ⟨position, rfl, first⟩, told⟩
          exact ⟨position, other, found, first, told⟩

namespace Columns

/-! ## Accepted and refused lists -/

theorem exists_ofList_iff {columns : List Column} :
    (∃ result, ofList columns = .ok result) ↔
      (∀ column ∈ columns, column.name.isStructured = false) ∧
        (columns.map (·.name.comparable)).Nodup := by
  constructor
  · rintro ⟨result, made⟩
    cases ofList_eq_ok_iff.mp made
    exact ⟨result.plain, result.nodup⟩
  · rintro ⟨plain, distinct⟩
    exact ⟨⟨columns, plain, distinct⟩, ofList_eq_ok_iff.mpr rfl⟩

theorem ofList_eq_error_iff {columns : List Column} {fault : TableFault} :
    ofList columns = .error fault ↔ nameFault? [] (columns.map Column.name) = some fault := by
  unfold ofList
  split
  · rename_i first found
    rw [found, Except.error.injEq, Option.some.injEq]
  · rename_i found
    constructor
    · intro refused
      cases refused
    · intro refused
      rw [found] at refused
      cases refused

/-- A list is refused for the first column whose name an earlier column has. -/
theorem ofList_eq_error_iff_of_plain {columns : List Column} {fault : TableFault}
    (plain : ∀ column ∈ columns, column.name.isStructured = false) :
    ofList columns = .error fault ↔ ∃ position column, columns[position]? = some column ∧
      IsFirstRepeat (columns.map (·.name.comparable)) position column.name.comparable ∧
      fault = .about .duplicateColumn column.name := by
  have compared : (columns.map Column.name).map Value.comparable =
      columns.map (·.name.comparable) := List.map_map
  rw [ofList_eq_error_iff, nameFault?_eq_some_iff (List.forall_mem_map.mpr plain), compared]
  simp only [isFirstSeen_nil_iff]
  constructor
  · rintro ⟨position, name, found, first, told⟩
    rw [List.getElem?_map, Option.map_eq_some_iff] at found
    obtain ⟨column, found, rfl⟩ := found
    exact ⟨position, column, found, first, told⟩
  · rintro ⟨position, column, found, first, told⟩
    exact ⟨position, column.name, by rw [List.getElem?_map, found]; rfl, first, told⟩

/-- The columns have texts for names. -/
def HaveTexts (columns : List Column) : Prop := ∀ column ∈ columns, ∃ word, column.name = .text word

section

variable {columns : List Column} (texts : HaveTexts columns)

include texts

theorem plain_of_texts : ∀ column ∈ columns, column.name.isStructured = false := by
  intro column member
  obtain ⟨word, named⟩ := texts column member
  rw [named]
  rfl

/-- Texts are compared as they stand, letter case included. -/
theorem map_comparable_of_texts :
    columns.map (·.name.comparable) = columns.map Column.name := by
  refine List.map_congr_left fun column member => ?_
  obtain ⟨word, named⟩ := texts column member
  rw [named]
  rfl

theorem exists_ofList_iff_of_texts :
    (∃ result, ofList columns = .ok result) ↔ (columns.map Column.name).Nodup := by
  rw [exists_ofList_iff, map_comparable_of_texts texts]
  exact and_iff_right (plain_of_texts texts)

/-- The fault tells the text that occurs again. -/
theorem ofList_eq_error_iff_of_texts (fault : TableFault) :
    ofList columns = .error fault ↔ ∃ position word,
      IsFirstRepeat (columns.map Column.name) position (.text word) ∧
        fault = .duplicateColumn word ∧ fault.code? = some .duplicateColumnName := by
  rw [ofList_eq_error_iff_of_plain (plain_of_texts texts), map_comparable_of_texts texts]
  constructor
  · rintro ⟨position, column, found, first, told⟩
    obtain ⟨word, named⟩ := texts column (List.mem_of_getElem? found)
    rw [named] at first told
    exact ⟨position, word, first, told, by rw [told]; rfl⟩
  · rintro ⟨position, word, first, told, -⟩
    have there := first.here
    rw [List.getElem?_map, Option.map_eq_some_iff] at there
    obtain ⟨column, found, named⟩ := there
    exact ⟨position, column, found, named ▸ first, named ▸ told⟩

end

/-! ## Looking up -/

section

variable {columns : Columns} {name : Value} {column : Column}

theorem get_eq_ok_iff : columns.get name = .ok column ↔
    column ∈ columns.toList ∧ column.name.comparable = name.comparable := by
  rw [← find?_eq_some_iff, get]
  cases columns.find? name <;> simp

/-- A name that no column has is not found, and no other. -/
theorem get_eq_error_iff {failure : Failure} : columns.get name = .error failure ↔
    columns.has name = false ∧ failure = .usage (.noSuchColumn name) := by
  have absent : columns.find? name = none ↔ columns.has name = false := by
    simp [find?, has]
  rw [← absent, get]
  cases columns.find? name <;> simp [eq_comm]

theorem getAt_natCast {position : Nat} : columns.getAt position = .ok column ↔
    columns.toList[position]? = some column := by
  have above : ¬ (position : Int) < 0 := by omega
  simp only [getAt, at?, above, ↓reduceIte, Int.toNat_natCast]
  cases columns.toList[position]? <;> simp

/-- A name and its column stand at the same position. -/
theorem names_eq_some_iff {position : Nat} : columns.names[position]? = some name ↔
    ∃ column, columns.getAt position = .ok column ∧ column.name = name ∧
      columns.get name = .ok column := by
  rw [names, List.getElem?_map, Option.map_eq_some_iff]
  constructor
  · rintro ⟨column, found, rfl⟩
    exact ⟨column, getAt_natCast.mpr found, rfl,
      get_eq_ok_iff.mpr ⟨List.mem_of_getElem? found, rfl⟩⟩
  · rintro ⟨column, found, named, -⟩
    exact ⟨column, getAt_natCast.mp found, named⟩

theorem sameAs_iff_forall₂ {first second : Columns} : first.sameAs second = true ↔
    List.Forall₂ (fun column other => column.name.comparable = other.name.comparable ∧
      column.definition.sql = other.definition.sql) first.toList second.toList := by
  simp only [sameAs, key, decide_eq_true_eq, ← List.forall₂_eq_eq_eq, List.forall₂_map_left_iff,
    List.forall₂_map_right_iff, Column.key, Prod.mk.injEq]

theorem canonical_eq_key_of_texts (texts : HaveTexts columns.toList) :
    columns.canonical = columns.key := by
  refine List.map_congr_left fun column member => ?_
  obtain ⟨word, named⟩ := texts column member
  rw [Column.canonical, Column.key, named]
  rfl

end

/-- **Column lists have distinct names.** A list of columns named by texts is accepted exactly if
the texts are distinct as they stand, and otherwise refused for the first column whose name occurs
before. Other names are distinct as they are compared, and none may be a list or a map. In an
accepted list a name is looked up with the one column of that name, and fails exactly if it is not
contained; names stand at the positions of their columns, and lists are the same exactly if their
names and type texts are. -/
theorem ofList_distinct (columns : List Column) :
    (HaveTexts columns →
      ((∃ result, ofList columns = .ok result) ↔ (columns.map Column.name).Nodup) ∧
      ∀ fault, (ofList columns = .error fault ↔ ∃ position word,
        IsFirstRepeat (columns.map Column.name) position (.text word) ∧
        fault = .duplicateColumn word ∧ fault.code? = some .duplicateColumnName)) ∧
    ((∃ result, ofList columns = .ok result) ↔
      (∀ column ∈ columns, column.name.isStructured = false) ∧
        (columns.map (·.name.comparable)).Nodup) ∧
    ((∀ column ∈ columns, column.name.isStructured = false) → ∀ fault,
      (ofList columns = .error fault ↔ ∃ position column, columns[position]? = some column ∧
        IsFirstRepeat (columns.map (·.name.comparable)) position column.name.comparable ∧
        fault = .about .duplicateColumn column.name)) ∧
    ∀ result, ofList columns = .ok result →
      (∀ name column, result.get name = .ok column ↔
        column ∈ columns ∧ column.name.comparable = name.comparable) ∧
      (∀ name, (∃ failure, result.get name = .error failure) ↔ result.has name = false) ∧
      (∀ name failure, result.get name = .error failure →
        failure = .usage (.noSuchColumn name)) ∧
      (∀ (position : Nat) name, result.names[position]? = some name ↔
        ∃ column, columns[position]? = some column ∧ result.getAt position = .ok column ∧
          column.name = name ∧ result.get name = .ok column) ∧
      ∀ other : Columns, (result.sameAs other = true ↔
          List.Forall₂ (fun column other => column.name.comparable = other.name.comparable ∧
            column.definition.sql = other.definition.sql) columns other.toList) ∧
        (HaveTexts columns → HaveTexts other.toList →
          (result.sameAs other = true ↔ result.canonical = other.canonical)) := by
  refine ⟨fun texts => ⟨exists_ofList_iff_of_texts texts, ofList_eq_error_iff_of_texts texts⟩,
    exists_ofList_iff, fun plain _ => ofList_eq_error_iff_of_plain plain, ?_⟩
  intro result made
  cases ofList_eq_ok_iff.mp made
  refine ⟨fun name column => get_eq_ok_iff, fun name => ?_, fun name failure missed => ?_,
    fun position name => ?_, fun other => ⟨sameAs_iff_forall₂, fun texts texts' => ?_⟩⟩
  · simp only [get_eq_error_iff, exists_and_left, exists_eq, and_true]
  · exact (get_eq_error_iff.mp missed).2
  · rw [names_eq_some_iff]
    simp only [getAt_natCast, and_self_left]
  · rw [canonical_eq_key_of_texts texts, canonical_eq_key_of_texts texts', sameAs,
      decide_eq_true_eq]

end Columns

end Warehouse
