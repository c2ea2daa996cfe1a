import Warehouse.Column.Named
import Warehouse.Entity
import Warehouse.Proofs.Datatype.Making
import Warehouse.Proofs.Table.Making

/-! # Specifications in normal form

A thing is made from a specification of its parts, and there are many spellings of one: the
words of a type, of an index or of a distribution in any letter case, a length with spaces in
it, a generic column by the dialect that is meant, standard values left out or written down. A
thing has a specification of its own, from which it is built again
(`Entity.build_specification`), and that is the normal form of every specification that it can
be built from (`EntitySpec.normal_of_build`). So two specifications are spellings of one thing
exactly if they have one normal form (`EntitySpec.normal_eq_iff`). -/

namespace Warehouse

open Warehouse.Computation

theorem Value.ofText?_inj {first second : Option String} :
    ofText? first = ofText? second ↔ first = second := by
  cases first <;> cases second <;> simp [ofText?]

/-! ## Column types -/

/-- The word for the character set that a text type of Teradata has: that in capitals which is
given, and Unicode without one. No other type has a character set. -/
def Dialect.characterSetWord? (dialect : Dialect) (type : String) (given : Option String) :
    Option String :=
  if dialect.takesCharacterSet type then
    some (((given.filter (· ≠ "")).map Text.upper).getD "UNICODE")
  else none

theorem CharacterSet.name_of_ofName? {word : String} {set : CharacterSet}
    (known : ofName? word = some set) : set.name = word := by
  unfold ofName? at known
  split at known
  · rename_i latin
    cases known
    exact latin.symm
  · split at known
    · rename_i unicode
      cases known
      exact unicode.symm
    · cases known

/-- A character set that is chosen has the word that is given for it. -/
theorem Definition.map_name_of_characterSetFor {dialect : Dialect} {type : String}
    {given : Option String}
    {set : { set : Option CharacterSet // set.isSome = dialect.takesCharacterSet type }}
    (chosen : characterSetFor dialect type given = .ok set) :
    set.1.map CharacterSet.name = dialect.characterSetWord? type given := by
  unfold characterSetFor at chosen
  unfold Dialect.characterSetWord?
  by_cases takes : dialect.takesCharacterSet type = true
  · simp only [takes, ↓reduceDIte, ↓reduceIte] at chosen ⊢
    cases given with
    | none =>
        cases chosen
        rfl
    | some word =>
        by_cases empty : word = ""
        · simp only [empty, ↓reduceIte] at chosen
          cases chosen
          simp [empty, CharacterSet.name, Option.filter]
        · simp only [empty, ↓reduceIte] at chosen
          cases known : CharacterSet.ofName? (Text.upper word) with
          | none =>
              rw [known] at chosen
              cases chosen
          | some named =>
              rw [known] at chosen
              cases chosen
              simp [empty, CharacterSet.name_of_ofName? known, Option.filter]
  · have without := set.2
    simp only [takes, Option.isSome_eq_false_iff, Option.isNone_iff_eq_none] at without
    simp [takes, without]

namespace Definition

/-- The specification of a column type in normal form. -/
def Spec.normal (dialect : Dialect) (spec : Spec) : Spec where
  type := Text.capitalWords spec.type
  length := .ofText? spec.length.lengthText?
  nullable := spec.nullable
  default := spec.default
  characterSet := dialect.characterSetWord? (Text.capitalWords spec.type) spec.characterSet

theorem Spec.normal_of_make {dialect : Dialect} {spec : Spec} {definition : Definition}
    (made : make dialect spec = .ok definition) :
    dialect = definition.dialect ∧ spec.normal dialect = definition.spec := by
  obtain ⟨own, sameType, measured, sameNullable, sameDefault, set, chosen, sameSet⟩ :=
    make_eq_ok_iff.mp made
  have sameLength := (lengthFor_eq_ok_iff.mp measured).2
  have word := map_name_of_characterSetFor chosen
  refine ⟨own.symm, ?_⟩
  simp only [normal, Definition.spec, sameType, sameLength, sameNullable, sameDefault, sameSet, word]

end Definition

/-! ## Columns -/

/-- What a column is made from: its name and what its type is made from, or a tag for the
dialect whose generic type it has. -/
inductive ColumnSpec where
  | typed (kind : ColumnKind) (name : Value) (dialect : Dialect) (type : Definition.Spec)
  | generic (kind : ColumnKind) (name : Value) (tag : Option Value)

namespace ColumnSpec

/-- The specified column. -/
def build : ColumnSpec → Except Failure Column
  | typed kind name dialect type => do Column.ofName kind name (← Definition.make dialect type)
  | generic kind name tag => Column.generic kind name tag

/-- The specification of a column in normal form: with its type. A generic column has the generic
type of the dialect that is meant. -/
def normal : ColumnSpec → ColumnSpec
  | typed kind name dialect type => typed kind name dialect (type.normal dialect)
  | generic kind name tag =>
      match Column.genericDialect kind tag with
      | .ok dialect =>
          typed kind name (Definition.generic dialect).dialect (Definition.generic dialect).spec
      | .error _ => generic kind name tag

end ColumnSpec

/-- The specification that a column has by itself. -/
def Column.specification (column : Column) : ColumnSpec :=
  .typed column.kind column.name column.definition.dialect column.definition.spec

theorem Column.build_specification (column : Column) :
    column.specification.build = .ok column :=
  bind_eq_ok_iff.mpr ⟨_, lift_type_eq_ok_iff.mpr column.definition.make_spec,
    Column.ofName_eq_ok_iff.mpr ⟨rfl, rfl, rfl⟩⟩

theorem ColumnSpec.normal_of_build {spec : ColumnSpec} {column : Column}
    (built : spec.build = .ok column) : spec.normal = column.specification := by
  cases spec with
  | typed kind name dialect type =>
      obtain ⟨definition, made, named⟩ := bind_eq_ok_iff.mp built
      obtain ⟨rfl, rfl, rfl⟩ := Column.ofName_eq_ok_iff.mp named
      obtain ⟨rfl, same⟩ := Definition.Spec.normal_of_make (lift_type_eq_ok_iff.mp made)
      rw [normal, same, Column.specification]
  | generic kind name tag =>
      obtain ⟨dialect, meant, named⟩ := bind_eq_ok_iff.mp built
      obtain ⟨rfl, rfl, same⟩ := Column.ofName_eq_ok_iff.mp named
      rw [normal, meant, Column.specification, same]

/-- The columns that are specified one by one. -/
def ColumnSpec.buildAll (specs : List ColumnSpec) : Except Failure Columns := do
  Columns.ofList (← specs.mapM build)

/-- The specification that the columns of a table have by themselves. -/
def Columns.specification (columns : Columns) : List ColumnSpec :=
  columns.toList.map Column.specification

theorem Columns.build_specification (columns : Columns) :
    ColumnSpec.buildAll columns.specification = .ok columns := by
  have each : columns.specification.mapM ColumnSpec.build = .ok columns.toList := by
    rw [mapM_eq_ok_iff, specification, List.forall₂_map_left_iff, List.forall₂_same]
    exact fun column _ => column.build_specification
  exact bind_eq_ok_iff.mpr ⟨_, each, lift_table_eq_ok_iff.mpr (ofList_eq_ok_iff.mpr rfl)⟩

theorem ColumnSpec.normal_of_buildAll {specs : List ColumnSpec} {columns : Columns}
    (built : buildAll specs = .ok columns) : specs.map normal = columns.specification := by
  obtain ⟨list, each, made⟩ := bind_eq_ok_iff.mp built
  rw [lift_table_eq_ok_iff, Columns.ofList_eq_ok_iff] at made
  rw [Columns.specification, made, ← List.forall₂_eq_eq_eq, List.forall₂_map_left_iff,
    List.forall₂_map_right_iff]
  exact (mapM_eq_ok_iff.mp each).imp fun _ _ => normal_of_build

/-! ## Storage -/

/-- A distribution that is made has the given name in capitals and the given columns. -/
theorem Distribution.of_make {name : String} {columns : List String} {distribution : Distribution}
    (made : make name columns = .ok distribution) :
    distribution.name = Text.upper name ∧ distribution.columns = columns := by
  by_cases hash : Text.upper name = "HASH"
  · simp only [make, hash, ↓reduceIte] at made
    split at made
    · cases made
      exact ⟨hash.symm, rfl⟩
    · cases made
  by_cases none : columns = []
  · simp only [make, hash, none, ↓reduceIte] at made
    split at made
    · rename_i roundRobin
      cases made
      exact ⟨roundRobin.symm, none.symm⟩
    · split at made
      · rename_i replicate
        cases made
        exact ⟨replicate.symm, none.symm⟩
      · cases made
  · simp only [make, hash, none, ↓reduceIte] at made
    split at made
    · cases made
    · split at made <;> cases made

theorem Index.of_make {type : String} {columns : List String} {index : Index}
    (made : make type columns = .ok index) :
    index.type = Text.capitalWords type ∧ index.columns = columns := by
  by_cases clustered : Text.capitalWords type = "CLUSTERED INDEX"
  · by_cases none : columns = []
    · simp [make, clustered, none] at made
    · simp only [make, clustered, none, String.reduceEq, ↓reduceIte, ↓reduceDIte] at made
      cases made
      exact ⟨clustered.symm, rfl⟩
  by_cases none : columns = []
  · simp only [make, clustered, none, ↓reduceIte] at made
    split at made
    · rename_i heap
      cases made
      exact ⟨heap.symm, none.symm⟩
    · split at made
      · rename_i columnstore
        cases made
        exact ⟨columnstore.symm, none.symm⟩
      · cases made
  · simp only [make, clustered, none, ↓reduceIte] at made
    split at made
    · cases made
    · split at made <;> cases made

/-- What a distribution or an index is made from: a name, the standard one if it is left out,
and columns. -/
structure StorageSpec where
  name : Option String := none
  columns : List String := []

namespace StorageSpec

/-- The specified distribution. -/
def distribution (spec : StorageSpec) : Except Failure Distribution :=
  Distribution.make (spec.name.getD Storage.standard.distribution.name) spec.columns

/-- The specified index. -/
def index (spec : StorageSpec) : Except Failure Index :=
  Index.make (spec.name.getD Storage.standard.index.type) spec.columns

/-- The specification of a distribution or an index in normal form: with a name in normal form,
the standard one if none is given. -/
def normal (form : String → String) (standard : String) (spec : StorageSpec) : StorageSpec where
  name := some (form (spec.name.getD standard))
  columns := spec.columns

end StorageSpec

/-- The specification that a distribution has by itself. -/
def Distribution.specification (distribution : Distribution) : StorageSpec where
  name := some distribution.name
  columns := distribution.columns

/-- The specification that an index has by itself. -/
def Index.specification (index : Index) : StorageSpec where
  name := some index.type
  columns := index.columns

theorem Distribution.build_specification (distribution : Distribution) :
    distribution.specification.distribution = .ok distribution :=
  lift_table_eq_ok_iff.mpr distribution.make_name

theorem Index.build_specification (index : Index) : index.specification.index = .ok index :=
  lift_table_eq_ok_iff.mpr index.make_type

theorem StorageSpec.normal_of_distribution {spec : StorageSpec} {distribution : Distribution}
    (built : spec.distribution = .ok distribution) :
    spec.normal Text.upper Storage.standard.distribution.name = distribution.specification := by
  obtain ⟨sameName, sameColumns⟩ := Distribution.of_make (lift_table_eq_ok_iff.mp built)
  rw [normal, Distribution.specification, sameName, sameColumns]

theorem StorageSpec.normal_of_index {spec : StorageSpec} {index : Index}
    (built : spec.index = .ok index) :
    spec.normal Text.capitalWords Storage.standard.index.type = index.specification := by
  obtain ⟨sameType, sameColumns⟩ := Index.of_make (lift_table_eq_ok_iff.mp built)
  rw [normal, Index.specification, sameType, sameColumns]

/-! ## Tables -/

/-- What the storage of a table is made from. A part that is left out is the standard one. -/
structure StoredSpec where
  distribution : StorageSpec := {}
  index : StorageSpec := {}

/-- The specified storage. -/
def StoredSpec.build (spec : StoredSpec) : Except Failure Storage := do
  let distribution ← spec.distribution.distribution
  let index ← spec.index.index
  return { distribution, index }

/-- The specification of a storage in normal form. -/
def StoredSpec.normal (spec : StoredSpec) : StoredSpec where
  distribution := spec.distribution.normal Text.upper Storage.standard.distribution.name
  index := spec.index.normal Text.capitalWords Storage.standard.index.type

/-- The specification that a storage has by itself. -/
def Storage.specification (storage : Storage) : StoredSpec where
  distribution := storage.distribution.specification
  index := storage.index.specification

theorem Storage.build_specification (storage : Storage) :
    storage.specification.build = .ok storage :=
  bind_eq_ok_iff.mpr ⟨_, storage.distribution.build_specification,
    bind_pure_eq_ok_iff.mpr ⟨_, storage.index.build_specification, rfl⟩⟩

theorem StoredSpec.normal_of_build {spec : StoredSpec} {storage : Storage}
    (built : spec.build = .ok storage) : spec.normal = storage.specification := by
  obtain ⟨distribution, distributed, built⟩ := bind_eq_ok_iff.mp built
  obtain ⟨index, indexed, rfl⟩ := bind_pure_eq_ok_iff.mp built
  rw [normal, StorageSpec.normal_of_distribution distributed, StorageSpec.normal_of_index indexed,
    Storage.specification]

/-- What a table is made from. Only tables of Synapse have a storage. -/
structure TableSpec where
  name : TableName
  temporary : Bool
  columns : List ColumnSpec
  primaryKeys : List Value := []
  storage : Option StoredSpec := none
  checkNullable : Bool := true

/-- The specified table. -/
def TableSpec.build (spec : TableSpec) : Except Failure TableDefinition := do
  let columns ← ColumnSpec.buildAll spec.columns
  let storage ← spec.storage.mapM StoredSpec.build
  TableDefinition.make spec.name spec.temporary columns spec.primaryKeys storage spec.checkNullable

/-- The specification of a table in normal form. Whether keys are checked for null is left
out. -/
def TableSpec.normal (spec : TableSpec) : TableSpec where
  name := spec.name
  temporary := spec.temporary
  columns := spec.columns.map ColumnSpec.normal
  primaryKeys := spec.primaryKeys
  storage := spec.storage.map StoredSpec.normal
  checkNullable := false

/-- The specification that a table has by itself. -/
def TableDefinition.specification (table : TableDefinition) : TableSpec where
  name := table.name
  temporary := table.temporary
  columns := table.columns.specification
  primaryKeys := table.primaryKeys
  storage := table.storage.map Storage.specification
  checkNullable := false

theorem TableDefinition.build_specification (table : TableDefinition) :
    table.specification.build = .ok table := by
  have stored : (table.storage.map Storage.specification).mapM StoredSpec.build =
      .ok table.storage := by
    cases table.storage with
    | none => rfl
    | some storage => exact bind_pure_eq_ok_iff.mpr ⟨_, storage.build_specification, rfl⟩
  exact bind_eq_ok_iff.mpr ⟨table.columns, table.columns.build_specification,
    bind_eq_ok_iff.mpr ⟨table.storage, stored, lift_table_eq_ok_iff.mpr table.make_parts⟩⟩

theorem TableSpec.normal_of_build {spec : TableSpec} {table : TableDefinition}
    (built : spec.build = .ok table) : spec.normal = table.specification := by
  obtain ⟨columns, listed, built⟩ := bind_eq_ok_iff.mp built
  obtain ⟨storage, stored, made⟩ := bind_eq_ok_iff.mp built
  obtain ⟨-, name, temporary, list, keys, kept⟩ :=
    TableDefinition.of_make (lift_table_eq_ok_iff.mp made)
  have sameStorage : spec.storage.map StoredSpec.normal = storage.map Storage.specification := by
    cases given : spec.storage with
    | none =>
        rw [given] at stored
        cases stored
        rfl
    | some parts =>
        rw [given] at stored
        obtain ⟨parts', both, rfl⟩ := bind_pure_eq_ok_iff.mp stored
        exact congrArg some (StoredSpec.normal_of_build both)
  rw [normal, TableDefinition.specification, ColumnSpec.normal_of_buildAll listed, sameStorage, name,
    temporary, list, keys, kept]

/-! ## Things of any kind -/

/-- What a thing of any kind is made from. -/
inductive EntitySpec where
  | definition (dialect : Dialect) (spec : Definition.Spec)
  | column (spec : ColumnSpec)
  | columns (specs : List ColumnSpec)
  | distribution (spec : StorageSpec)
  | index (spec : StorageSpec)
  | table (spec : TableSpec)

/-- The specified thing. -/
def EntitySpec.build : EntitySpec → Except Failure Entity
  | definition dialect spec => do return .definition (← Definition.make dialect spec)
  | column spec => do return .column (← spec.build)
  | columns specs => do return .columns (← ColumnSpec.buildAll specs)
  | distribution spec => do return .distribution (← spec.distribution)
  | index spec => do return .index (← spec.index)
  | table spec => do return .table (← spec.build)

/-- The specification of a thing in normal form. -/
def EntitySpec.normal : EntitySpec → EntitySpec
  | definition dialect spec => definition dialect (spec.normal dialect)
  | column spec => column spec.normal
  | columns specs => columns (specs.map ColumnSpec.normal)
  | distribution spec =>
      distribution (spec.normal Text.upper Storage.standard.distribution.name)
  | index spec => index (spec.normal Text.capitalWords Storage.standard.index.type)
  | table spec => table spec.normal

/-- The specification that a thing has by itself. -/
def Entity.specification : Entity → EntitySpec
  | definition given => .definition given.dialect given.spec
  | column given => .column given.specification
  | columns given => .columns given.specification
  | distribution given => .distribution given.specification
  | index given => .index given.specification
  | table given => .table given.specification

/-- A thing is built again from its own specification. -/
theorem Entity.build_specification (entity : Entity) :
    entity.specification.build = .ok entity := by
  cases entity with
  | definition given =>
      exact bind_pure_eq_ok_iff.mpr ⟨_, lift_type_eq_ok_iff.mpr given.make_spec, rfl⟩
  | column given => exact bind_pure_eq_ok_iff.mpr ⟨_, given.build_specification, rfl⟩
  | columns given => exact bind_pure_eq_ok_iff.mpr ⟨_, given.build_specification, rfl⟩
  | distribution given => exact bind_pure_eq_ok_iff.mpr ⟨_, given.build_specification, rfl⟩
  | index given => exact bind_pure_eq_ok_iff.mpr ⟨_, given.build_specification, rfl⟩
  | table given => exact bind_pure_eq_ok_iff.mpr ⟨_, given.build_specification, rfl⟩

/-- The normal form of a specification is that of the thing that is built from it. -/
theorem EntitySpec.normal_of_build {spec : EntitySpec} {entity : Entity}
    (built : spec.build = .ok entity) : spec.normal = entity.specification := by
  cases spec with
  | definition dialect spec =>
      obtain ⟨given, made, rfl⟩ := bind_pure_eq_ok_iff.mp built
      obtain ⟨rfl, same⟩ := Definition.Spec.normal_of_make (lift_type_eq_ok_iff.mp made)
      exact congrArg (definition given.dialect) same
  | column spec =>
      obtain ⟨given, made, rfl⟩ := bind_pure_eq_ok_iff.mp built
      exact congrArg column (ColumnSpec.normal_of_build made)
  | columns specs =>
      obtain ⟨given, made, rfl⟩ := bind_pure_eq_ok_iff.mp built
      exact congrArg columns (ColumnSpec.normal_of_buildAll made)
  | distribution spec =>
      obtain ⟨given, made, rfl⟩ := bind_pure_eq_ok_iff.mp built
      exact congrArg distribution (StorageSpec.normal_of_distribution made)
  | index spec =>
      obtain ⟨given, made, rfl⟩ := bind_pure_eq_ok_iff.mp built
      exact congrArg index (StorageSpec.normal_of_index made)
  | table spec =>
      obtain ⟨given, made, rfl⟩ := bind_pure_eq_ok_iff.mp built
      exact congrArg table (TableSpec.normal_of_build made)

/-- **Specifications have one normal form if one thing is built from them, and only then.** -/
theorem EntitySpec.normal_eq_iff {given other : EntitySpec} {first second : Entity}
    (built : given.build = .ok first) (built' : other.build = .ok second) :
    given.normal = other.normal ↔ first = second := by
  rw [normal_of_build built, normal_of_build built']
  constructor
  · intro same
    have again := first.build_specification
    rw [same, second.build_specification] at again
    exact (Except.ok.inj again).symm
  · rintro rfl
    rfl

example :
    EntitySpec.normal (.table {
      name := ⟨"dbo", "orders"⟩, temporary := false, primaryKeys := [.text "id"]
      columns := [.typed .plain (.text "id") .synapse
        { type := "varchar", length := .number 10, nullable := false }]
      storage := some { index := { name := some "clustered  index", columns := ["id"] } } }) =
    EntitySpec.normal (.table {
      name := ⟨"dbo", "orders"⟩, temporary := false, primaryKeys := [.text "id"]
      columns := [.typed .plain (.text "id") .synapse
        { type := " VarChar", length := .text "1 0", nullable := false }]
      checkNullable := false
      storage := some {
        distribution := { name := some "Round_Robin" }
        index := { name := some "Clustered Index", columns := ["id"] } } }) := by
  cbv

end Warehouse
