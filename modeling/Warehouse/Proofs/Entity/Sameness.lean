import Warehouse.Proofs.Entity.Specification
import Warehouse.Proofs.Request.Sameness

/-! # Things that are the same

Each kind of thing is compared in a way of its own: column types, distributions and indexes by
their fields, columns also by how they were declared, lists of columns and the tables around them
by texts. All of this comes to one comparison, of the sort of a thing and of the value from which
its hash is computed (`Entity.sameAs_iff`). So things that are the same have the same hash, and
to be the same is an equivalence across all kinds (`Entity.sameAs_lawful`). -/

namespace Warehouse

/-! ## What enters a hash -/

theorem CharacterSet.map_name_inj {set other : Option CharacterSet} :
    set.map name = other.map name ↔ set = other := by
  rcases set with _ | _ | _ <;> rcases other with _ | _ | _ <;> simp [name]

theorem Length.map_text_inj {length other : Option Length} :
    length.map text = other.map text ↔ length = other := by
  rcases length with _ | ⟨text, accepted⟩ <;> rcases other with _ | ⟨text', accepted'⟩ <;> simp

namespace Entity

/-- In one dialect, what enters the hash of a column type tells all of it. -/
theorem definitionKey_inj {first second : Definition} (dialects : first.dialect = second.dialect) :
    definitionKey first = definitionKey second ↔ first = second := by
  constructor
  · intro keys
    by_cases teradata : first.dialect = .teradata
    · simp only [definitionKey, ← dialects, teradata, ↓reduceIte, List.cons_append,
        List.nil_append, Value.list.injEq, List.cons.injEq, Value.text.injEq, Value.flag.injEq,
        Value.ofText?_inj, Length.map_text_inj, CharacterSet.map_name_inj, and_true] at keys
      obtain ⟨type, length, nullable, default, set⟩ := keys
      exact Definition.ext_of_parts dialects type length nullable default set
    · simp only [definitionKey, ← dialects, teradata, ↓reduceIte, List.append_nil,
        Value.list.injEq, List.cons.injEq, Value.text.injEq, Value.flag.injEq,
        Value.ofText?_inj, Length.map_text_inj, and_true] at keys
      obtain ⟨type, length, nullable, default⟩ := keys
      -- No character set enters the hash here, because there is none.
      have set := (Definition.characterSet_eq_none teradata).trans
        (Definition.characterSet_eq_none (dialects ▸ teradata)).symm
      exact Definition.ext_of_parts dialects type length nullable default set
  · exact congrArg definitionKey

theorem columnsKey_inj {first second : Columns} :
    columnsKey first = columnsKey second ↔ first.key = second.key := by
  have pairs : Function.Injective fun shown : Value × String =>
      Value.list [shown.1, .text shown.2] := by
    rintro ⟨name, type⟩ ⟨name', type'⟩ same
    simpa using same
  rw [columnsKey, columnsKey, Value.list.injEq]
  exact pairs.list_map.eq_iff

theorem textList_inj {texts others : List String} : textList texts = textList others ↔
    texts = others := by
  have words : Function.Injective Value.text := fun _ _ => Value.text.inj
  rw [textList, textList, Value.list.injEq]
  exact words.list_map.eq_iff

/-- A distribution is made from its name and its columns, so these tell it. -/
theorem distributionKey_inj {first second : Distribution} :
    distributionKey first = distributionKey second ↔ first = second := by
  constructor
  · intro keys
    simp only [distributionKey, Value.list.injEq, List.cons.injEq, Value.text.injEq, textList_inj,
      and_true] at keys
    have made := first.make_name
    rw [keys.1, keys.2, second.make_name] at made
    exact (Except.ok.inj made).symm
  · exact congrArg distributionKey

theorem indexKey_inj {first second : Index} :
    indexKey first = indexKey second ↔ first = second := by
  constructor
  · intro keys
    simp only [indexKey, Value.list.injEq, List.cons.injEq, Value.text.injEq, textList_inj,
      and_true] at keys
    have made := first.make_type
    rw [keys.1, keys.2, second.make_type] at made
    exact (Except.ok.inj made).symm
  · exact congrArg indexKey

theorem storageKey_inj {first second : Option Storage} :
    storageKey first = storageKey second ↔ first = second := by
  rcases first with _ | ⟨distribution, index⟩ <;> rcases second with _ | ⟨distribution', index'⟩ <;>
    simp [storageKey, distributionKey_inj, indexKey_inj]

/-! ## Sorts -/

end Entity

/-- What things have to agree in to be compared at all, besides the dialect of the type of a
column. -/
inductive EntitySort where
  | definition (dialect : Dialect)
  | column (kind : ColumnKind) (dialect : Dialect)
  | columns
  | distribution
  | index
  | table (stored : Bool)
deriving DecidableEq

namespace Entity

/-- The sort of a thing. -/
def sort : Entity → EntitySort
  | definition given => .definition given.dialect
  | column given => .column given.kind given.dialect
  | columns _ => .columns
  | distribution _ => .distribution
  | index _ => .index
  | table given => .table given.storage.isSome

theorem column_sameAs_iff {first second : Column} : first.sameAs second = true ↔
    first.kind = second.kind ∧ first.name.comparable = second.name.comparable ∧
      first.definition = second.definition := by
  simp only [Column.sameAs, Bool.and_eq_true, decide_eq_true_eq, and_assoc]

theorem table_sameAs_iff {first second : TableDefinition} :
    first.sameAs second = true ↔ (table first).hashKey = (table second).hashKey := by
  have names : first.name = second.name ↔
      first.name.schema = second.name.schema ∧ first.name.table = second.name.table := by
    rw [TableName.mk.injEq]
  simp only [TableDefinition.sameAs_iff, names, hashKey, Columns.sameAs, List.cons_append,
    List.nil_append, Value.list.injEq, List.cons.injEq, Value.text.injEq, Value.flag.injEq,
    columnsKey_inj, storageKey_inj, decide_eq_true_eq, and_assoc]

/-- **Things are the same if they are of one sort and have one value for their hash.** -/
theorem sameAs_iff {first second : Entity} :
    first.sameAs second = true ↔ first.sort = second.sort ∧ first.hashKey = second.hashKey := by
  cases first with
  | definition given =>
      cases second with
      | definition other =>
          simp only [sameAs, sort, hashKey, decide_eq_true_eq, EntitySort.definition.injEq]
          constructor
          · rintro rfl
            exact ⟨rfl, rfl⟩
          · rintro ⟨dialects, keys⟩
            exact (definitionKey_inj dialects).mp keys
      | _ => simp [sameAs, sort]
  | column given =>
      cases second with
      | column other =>
          simp only [sameAs, sort, hashKey, column_sameAs_iff, EntitySort.column.injEq,
            Value.list.injEq, List.cons.injEq, and_true, and_assoc]
          refine and_congr_right fun _ => ?_
          constructor
          · rintro ⟨name, definition⟩
            exact ⟨congrArg Definition.dialect definition, name, congrArg definitionKey definition⟩
          · rintro ⟨dialects, name, keys⟩
            exact ⟨name, (definitionKey_inj dialects).mp keys⟩
      | _ => simp [sameAs, sort]
  | columns given =>
      cases second with
      | columns other => simp [sameAs, sort, hashKey, Columns.sameAs, columnsKey_inj]
      | _ => simp [sameAs, sort]
  | distribution given =>
      cases second with
      | distribution other => simp [sameAs, sort, hashKey, distributionKey_inj]
      | _ => simp [sameAs, sort]
  | index given =>
      cases second with
      | index other => simp [sameAs, sort, hashKey, indexKey_inj]
      | _ => simp [sameAs, sort]
  | table given =>
      cases second with
      | table other =>
          -- What enters the hash of a table shows whether it has a storage.
          rw [← table_sameAs_iff]
          simp only [sameAs, sort, EntitySort.table.injEq, iff_and_self]
          intro same
          rw [(TableDefinition.sameAs_iff.mp same).2.2.2.2]
      | _ => simp [sameAs, sort]

theorem equivalence_sameAs :
    Equivalence fun first second : Entity => first.sameAs second = true where
  refl _ := sameAs_iff.mpr ⟨rfl, rfl⟩
  symm same := by
    obtain ⟨sorts, keys⟩ := sameAs_iff.mp same
    exact sameAs_iff.mpr ⟨sorts.symm, keys.symm⟩
  trans same same' := by
    obtain ⟨sorts, keys⟩ := sameAs_iff.mp same
    obtain ⟨sorts', keys'⟩ := sameAs_iff.mp same'
    exact sameAs_iff.mpr ⟨sorts.trans sorts', keys.trans keys'⟩

theorem sameAs_comm (first second : Entity) : first.sameAs second = second.sameAs first :=
  Bool.eq_iff_iff.mpr ⟨equivalence_sameAs.symm, equivalence_sameAs.symm⟩

end Entity

/-! ## Verdicts

Two things are compared by asking one about the other, and the other way round if the first has
nothing to say. A thing says nothing about things of another class; if neither says anything, the
two are different. -/

/-- What comes of two verdicts on whether things are equal. -/
def settled (verdict reverse : Option Bool) : Bool := (verdict.or reverse).getD false

/-- What a column type says about another one: nothing if that belongs to another dialect. -/
def Definition.verdict? (first second : Definition) : Option Bool :=
  if first.dialect = second.dialect then
    some (Entity.definitionKey first = Entity.definitionKey second)
  else none

theorem Definition.settled_verdict? (first second : Definition) :
    settled (first.verdict? second) (second.verdict? first) = decide (first = second) := by
  unfold verdict? settled
  by_cases dialects : first.dialect = second.dialect
  · simp [dialects, Entity.definitionKey_inj dialects]
  · have apart : first ≠ second := fun same => dialects (congrArg Definition.dialect same)
    simp [dialects, Ne.symm dialects, apart]

namespace Entity

/-- What a thing says about another one: nothing if that is of another class. The classes of
columns are how they are declared, and tables with a storage are a class of their own. Parts that
are things themselves are compared like all things. -/
def verdict? : Entity → Entity → Option Bool
  | definition first, definition second => first.verdict? second
  | column first, column second =>
      if first.kind = second.kind then
        some (first.name.comparable = second.name.comparable &&
          settled (first.definition.verdict? second.definition)
            (second.definition.verdict? first.definition))
      else none
  | columns first, columns second => some (columnsKey first = columnsKey second)
  | distribution first, distribution second =>
      some (distributionKey first = distributionKey second)
  | index first, index second => some (indexKey first = indexKey second)
  | table first, table second =>
      if first.storage.isSome = second.storage.isSome then
        some ((table first).hashKey = (table second).hashKey)
      else none
  | _, _ => none

/-- The two things are equal. -/
def equals (first second : Entity) : Bool := settled (first.verdict? second) (second.verdict? first)

/-- The two things are unequal: the opposite of the first verdict that there is, if any. -/
def differs (first second : Entity) : Bool :=
  (((first.verdict? second).map not).or ((second.verdict? first).map not)).getD true

/-- What a thing says about another one is whether they are the same, and it says so of all
things that are the same. -/
theorem verdict?_eq (first second : Entity) :
    first.verdict? second = some (first.sameAs second) ∨
      first.verdict? second = none ∧ first.sameAs second = false := by
  cases first with
  | definition given =>
      cases second with
      | definition other =>
          by_cases dialects : given.dialect = other.dialect
          · simp [verdict?, Definition.verdict?, sameAs, dialects, definitionKey_inj dialects]
          · have apart : given ≠ other := fun same => dialects (congrArg Definition.dialect same)
            simp [verdict?, Definition.verdict?, sameAs, dialects, apart]
      | _ => exact .inr ⟨rfl, rfl⟩
  | column given =>
      cases second with
      | column other =>
          by_cases kinds : given.kind = other.kind <;>
            simp [verdict?, sameAs, Column.sameAs, kinds, Definition.settled_verdict?]
      | _ => exact .inr ⟨rfl, rfl⟩
  | columns given =>
      cases second with
      | columns other => simp [verdict?, sameAs, Columns.sameAs, columnsKey_inj]
      | _ => exact .inr ⟨rfl, rfl⟩
  | distribution given =>
      cases second with
      | distribution other => simp [verdict?, sameAs, distributionKey_inj]
      | _ => exact .inr ⟨rfl, rfl⟩
  | index given =>
      cases second with
      | index other => simp [verdict?, sameAs, indexKey_inj]
      | _ => exact .inr ⟨rfl, rfl⟩
  | table given =>
      cases second with
      | table other =>
          by_cases stored : given.storage.isSome = other.storage.isSome
          · simp [verdict?, sameAs, stored, ← table_sameAs_iff]
          · have apart : given.sameAs other = false := by
              rw [Bool.eq_false_iff]
              intro same
              exact stored (congrArg Option.isSome (TableDefinition.sameAs_iff.mp same).2.2.2.2)
            simp [verdict?, sameAs, stored, apart]
      | _ => exact .inr ⟨rfl, rfl⟩

theorem equals_eq_sameAs (first second : Entity) : first.equals second = first.sameAs second := by
  unfold equals settled
  rcases first.verdict?_eq second with told | ⟨silent, different⟩
  · rw [told, Option.some_or, Option.getD_some]
  · rcases second.verdict?_eq first with told | ⟨silent', -⟩
    · rw [silent, told, Option.none_or, Option.getD_some, sameAs_comm]
    · rw [silent, silent', different]
      rfl

theorem differs_eq_not_sameAs (first second : Entity) :
    first.differs second = !first.sameAs second := by
  unfold differs
  rcases first.verdict?_eq second with told | ⟨silent, different⟩
  · rw [told]
    rfl
  · rcases second.verdict?_eq first with told | ⟨silent', -⟩
    · rw [silent, told, sameAs_comm]
      rfl
    · rw [silent, silent', different]
      rfl

/-- **Things of all kinds are compared lawfully.** To be equal is to be the same, whichever of
the two things is asked first; it is an equivalence across all kinds, the opposite of being
unequal, and holds only between things of one sort. Equal things have one value for their hash.
Specifications from which one and the same thing is built are those with one normal form, so
neither the spelling of a specification plays a part in a comparison nor whether the keys of a
table were checked for null. -/
theorem sameAs_lawful :
    (Equivalence fun first second : Entity => first.equals second = true) ∧
      (∀ first second : Entity,
        first.equals second = first.sameAs second ∧
          first.equals second = second.equals first ∧
          first.differs second = (!first.equals second) ∧
          (first.sort ≠ second.sort → first.equals second = false) ∧
          (first.equals second = true → first.hashKey = second.hashKey)) ∧
      ∀ (given other : EntitySpec) (first second : Entity),
        given.build = .ok first → other.build = .ok second →
          (given.normal = other.normal ↔ first = second) ∧
            (given.normal = other.normal →
              first.equals second = true ∧ first.hashKey = second.hashKey) := by
  simp only [equals_eq_sameAs, differs_eq_not_sameAs]
  refine ⟨equivalence_sameAs, fun first second => ?_, ?_⟩
  · refine ⟨trivial, sameAs_comm first second, trivial, fun apart => ?_, fun same => ?_⟩
    · exact Bool.eq_false_iff.mpr fun same => apart (sameAs_iff.mp same).1
    · exact (sameAs_iff.mp same).2
  · intro given other first second built built'
    have spellings := EntitySpec.normal_eq_iff built built'
    refine ⟨spellings, fun same => ?_⟩
    obtain rfl := spellings.mp same
    exact ⟨equivalence_sameAs.refl first, rfl⟩

end Entity

end Warehouse
