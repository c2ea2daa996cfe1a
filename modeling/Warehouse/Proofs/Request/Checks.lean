import Warehouse.Access
import Warehouse.Proofs.Request.Acceptance

/-! # The checks of a request

What a request about a table has to pass, check by check and in the order in which the
checks are made. A request that passes all of them is answered, any other one is refused for
the first that fails, and the look-up of a key column among the columns never fails when it
comes to it (`TableRequest.compile_checks`). -/

namespace Warehouse

/-! ## Checks and their faults -/

/-- A check: what has to hold, and the fault that is reported if it does not. -/
structure Check where
  holds : Prop
  fault : RequestFault

namespace Check

/-- The fault is that of the first check which does not hold. -/
def FirstBroken (checks : List Check) (fault : RequestFault) : Prop :=
  ∃ earlier check later, checks = earlier ++ check :: later ∧
    (∀ passed ∈ earlier, passed.holds) ∧ ¬ check.holds ∧ check.fault = fault

/-- The faults are those of all checks that do not hold, in their order. -/
inductive Report : List Check → List RequestFault → Prop where
  | nil : Report [] []
  | passed {check : Check} {checks : List Check} {faults : List RequestFault}
      (holds : check.holds) (rest : Report checks faults) : Report (check :: checks) faults
  | broken {check : Check} {checks : List Check} {faults : List RequestFault}
      (broken : ¬ check.holds) (rest : Report checks faults) :
      Report (check :: checks) (check.fault :: faults)

variable {check : Check} {checks : List Check} {fault : RequestFault} {faults : List RequestFault}

theorem firstBroken_nil : ¬ FirstBroken [] fault := by
  rintro ⟨earlier, check, later, split, -⟩
  exact absurd split.symm (by simp)

theorem firstBroken_cons :
    FirstBroken (check :: checks) fault ↔
      (check.holds ∧ FirstBroken checks fault) ∨ (¬ check.holds ∧ check.fault = fault) := by
  constructor
  · rintro ⟨earlier, first, later, split, before, broken, same⟩
    cases earlier with
    | nil =>
        cases split
        exact .inr ⟨broken, same⟩
    | cons head earlier =>
        cases split
        obtain ⟨holds, before⟩ := List.forall_mem_cons.mp before
        exact .inl ⟨holds, earlier, first, later, rfl, before, broken, same⟩
  · rintro (⟨holds, earlier, first, later, rfl, before, broken, same⟩ | ⟨broken, same⟩)
    · exact ⟨check :: earlier, first, later, rfl, List.forall_mem_cons.mpr ⟨holds, before⟩,
        broken, same⟩
    · exact ⟨[], check, checks, rfl, by simp, broken, same⟩

namespace Report

theorem eq_nil_iff (report : Report checks faults) :
    faults = [] ↔ ∀ check ∈ checks, check.holds := by
  induction report with
  | nil => simp
  | passed holds rest ih => simp [ih, holds]
  | broken broken rest ih => simp [broken]

/-- The first fault is that of the first check that does not hold. -/
theorem head?_eq_some_iff (report : Report checks faults) :
    faults.head? = some fault ↔ FirstBroken checks fault := by
  induction report with
  | nil => simp [firstBroken_nil]
  | passed holds rest ih => simp [firstBroken_cons, ih, holds]
  | broken broken rest ih => simp [firstBroken_cons, broken]

/-- Every fault is that of a check that does not hold. -/
theorem exists_broken (report : Report checks faults) (member : fault ∈ faults) :
    ∃ check ∈ checks, ¬ check.holds ∧ check.fault = fault := by
  induction report with
  | nil => cases member
  | passed holds rest ih =>
      obtain ⟨check, made, failed⟩ := ih member
      exact ⟨check, List.mem_cons_of_mem _ made, failed⟩
  | broken broken rest ih =>
      rcases List.mem_cons.mp member with rfl | behind
      · exact ⟨_, List.mem_cons_self, broken, rfl⟩
      · obtain ⟨check, made, failed⟩ := ih behind
        exact ⟨check, List.mem_cons_of_mem _ made, failed⟩

/-- One check reports its fault or nothing. -/
theorem single {holds : Prop} [Decidable holds] :
    Report [⟨holds, fault⟩] (if holds then [] else [fault]) := by
  by_cases given : holds
  · rw [if_pos given]
    exact .passed given .nil
  · rw [if_neg given]
    exact .broken given .nil

theorem append {others : List Check} {later : List RequestFault}
    (first : Report checks faults) (second : Report others later) :
    Report (checks ++ others) (faults ++ later) := by
  induction first with
  | nil => exact second
  | passed holds rest ih => exact .passed holds ih
  | broken broken rest ih => exact .broken broken ih

theorem flatMap {α : Type} {checksOf : α → List Check} {faultsOf : α → List RequestFault}
    (each : ∀ item, Report (checksOf item) (faultsOf item)) (items : List α) :
    Report (items.flatMap checksOf) (items.flatMap faultsOf) := by
  induction items with
  | nil => exact .nil
  | cons item items ih => exact (each item).append ih

theorem map {α : Type} {checkOf : α → Check} {faultsOf : α → List RequestFault}
    (each : ∀ item, Report [checkOf item] (faultsOf item)) (items : List α) :
    Report (items.map checkOf) (items.flatMap faultsOf) := by
  rw [List.map_eq_flatMap]
  exact flatMap each items

end Report

end Check

/-! ## The checks that are made -/

namespace Dialect

/-- The name has to be admitted for objects of a kind. -/
def nameCheck (dialect : Dialect) (kind : ObjectKind) (name : String) : Check where
  holds := dialect.acceptsName kind name = true
  fault := .invalidName kind name

/-- The checks of the name of a table, its schema first. -/
def tableNameChecks (dialect : Dialect) (name : TableName) : List Check :=
  [dialect.nameCheck .schema name.schema, dialect.nameCheck .table name.table]

/-- The columns must not be more than the dialect admits, where it has a limit. -/
def columnCountChecks (dialect : Dialect) (columns : Columns) : List Check :=
  dialect.maxColumns.toList.map fun limit =>
    ⟨columns.size ≤ limit, .tooManyColumns limit columns.size⟩

/-- The name of a column has to be a text that is admitted. -/
def columnNameCheck (dialect : Dialect) (name : Value) : Check where
  holds := dialect.AcceptsColumnName name
  fault :=
    match name.word? with
    | some word => .invalidName .column word
    | none => .nameNotText

/-- The checks of a column: its name, then its dialect. -/
def columnChecks (dialect : Dialect) (column : Column) : List Check :=
  [dialect.columnNameCheck column.name,
    ⟨column.dialect = dialect, .foreignColumn column.name.wording column.dialect dialect⟩]

/-- A key column must not allow null. -/
def nullabilityCheck (columns : Columns) (key : Value) : Check where
  holds := ∀ column ∈ columns.toList,
    column.name.comparable = key.comparable → column.definition.nullable = false
  fault := .nullableKey key.wording

/-- The checks of the key columns: all their names, that all are among the columns, and that
each excludes null. -/
def keyChecks (dialect : Dialect) (columns : Columns) (keys : List Value) : List Check :=
  keys.map dialect.columnNameCheck ++
    ⟨∀ key ∈ keys, columns.has key = true,
      .keysNotInColumns ((columns.missing keys).map Value.wording)⟩ ::
    keys.map (nullabilityCheck columns)

/-- The checks of a column that a distribution or an index names. -/
def storageColumnChecks (dialect : Dialect) (columns : Columns) (name : String) : List Check :=
  [dialect.nameCheck .column name,
    ⟨columns.has (.text name) = true, .storageColumnMissing name⟩]

/-- The checks of a table to be created that are made in every dialect. -/
def creationChecks (dialect : Dialect) (name : TableName) (columns : Columns)
    (keys : List Value) : List Check :=
  dialect.tableNameChecks name ++ dialect.columnCountChecks columns ++
    columns.toList.flatMap dialect.columnChecks ++ dialect.keyChecks columns keys

end Dialect

/-- The checks of a request, in the order in which they are made. -/
def TableRequest.checks (dialect : Dialect) : TableRequest → List Check
  | create name columns keys distribution index =>
      dialect.creationChecks name columns keys ++
        (if dialect = .synapse then
          ⟨¬ hasSessionMark name.table, .reservedTableName name.table⟩ ::
            (storageColumns distribution index).flatMap (dialect.storageColumnChecks columns)
         else [])
  | createTemporary name columns =>
      if dialect = .exasol then [⟨False, .noTemporaryTables dialect⟩]
      else dialect.creationChecks name columns [] ++
        (if dialect = .synapse then
          [⟨hasSessionMark name.table, .sessionMarkMissing name.table⟩]
         else [])
  | drop name => dialect.tableNameChecks name
  | truncate name => dialect.tableNameChecks name
  | rename name newTable =>
      dialect.tableNameChecks name ++ [dialect.nameCheck .table newTable]

/-! ## What the checks report -/

namespace Dialect

open Check

variable (dialect : Dialect)

theorem report_name (kind : ObjectKind) (name : String) :
    Report [dialect.nameCheck kind name] (dialect.nameFaults kind name) :=
  .single

theorem report_tableName (name : TableName) :
    Report (dialect.tableNameChecks name) (dialect.tableNameFaults name) :=
  (dialect.report_name .schema name.schema).append (dialect.report_name .table name.table)

theorem report_columnCount (columns : Columns) :
    Report (dialect.columnCountChecks columns) (dialect.columnCountFaults columns) := by
  unfold columnCountChecks columnCountFaults
  cases dialect.maxColumns with
  | none => exact .nil
  | some limit => exact .single

theorem report_columnName (name : Value) :
    Report [dialect.columnNameCheck name] (dialect.columnNameFaults name) := by
  by_cases accepted : dialect.AcceptsColumnName name
  · rw [columnNameFaults_eq_nil_iff.mpr accepted]
    exact .passed accepted .nil
  · have faulty : dialect.columnNameFaults name = [(dialect.columnNameCheck name).fault] := by
      unfold columnNameFaults columnNameCheck
      cases word : name.word? with
      | none => rfl
      | some text =>
          have named := Value.word?_eq_some_iff.mp word
          exact if_neg fun admitted => accepted ⟨text, named, admitted⟩
    rw [faulty]
    exact .broken accepted .nil

theorem report_column (column : Column) :
    Report (dialect.columnChecks column) (dialect.columnFaults column) :=
  (dialect.report_columnName column.name).append .single

theorem nullableAmong_cons {columns : Columns} {key : Value} {keys : List Value} :
    columns.nullableAmong (key :: keys) =
      if (columns.find? key).any (·.definition.nullable) then key :: columns.nullableAmong keys
      else columns.nullableAmong keys :=
  List.filter_cons

theorem report_nullability (columns : Columns) (keys : List Value) :
    Report (keys.map (nullabilityCheck columns))
      ((columns.nullableAmong keys).map fun key => .nullableKey key.wording) := by
  induction keys with
  | nil => exact .nil
  | cons key keys ih =>
      have alone : (columns.find? key).any (·.definition.nullable) = false ↔
          (nullabilityCheck columns key).holds := by
        have single := @Columns.nullableAmong_eq_nil_iff columns [key]
        simpa [Columns.nullableAmong, nullabilityCheck] using single
      rw [List.map_cons, nullableAmong_cons]
      by_cases holds : (nullabilityCheck columns key).holds
      · rw [if_neg (by simp [alone.mpr holds])]
        exact .passed holds ih
      · rw [if_pos (by simpa using mt alone.mp holds)]
        exact .broken holds ih

theorem report_keys (columns : Columns) (keys : List Value) :
    Report (dialect.keyChecks columns keys) (dialect.keyFaults columns keys) := by
  have names := Report.map dialect.report_columnName keys
  have presence : Report [⟨∀ key ∈ keys, columns.has key = true,
      .keysNotInColumns ((columns.missing keys).map Value.wording)⟩]
      (if columns.missing keys = [] then []
       else [.keysNotInColumns ((columns.missing keys).map Value.wording)]) := by
    simp only [← Columns.missing_eq_nil_iff]
    exact .single
  have assembled := (names.append presence).append (report_nullability columns keys)
  rwa [List.append_assoc] at assembled

theorem report_storageColumn (columns : Columns) (name : String) :
    Report (dialect.storageColumnChecks columns name)
      (dialect.storageColumnFaults columns name) :=
  (dialect.report_name .column name).append .single

theorem report_creation (name : TableName) (columns : Columns) (keys : List Value) :
    Report (dialect.creationChecks name columns keys)
      (dialect.creationFaults name columns keys) :=
  (((dialect.report_tableName name).append (dialect.report_columnCount columns)).append
    (Report.flatMap dialect.report_column columns.toList)).append
    (dialect.report_keys columns keys)

end Dialect

namespace TableRequest

open Check

variable {dialect : Dialect} {request : TableRequest}

/-- The faults of a request are what its checks report. -/
theorem report (dialect : Dialect) (request : TableRequest) :
    Report (request.checks dialect) (request.faults dialect) := by
  cases request with
  | create name columns keys distribution index =>
      refine (dialect.report_creation name columns keys).append ?_
      by_cases synapse : dialect = .synapse
      · rw [if_pos synapse, if_pos synapse]
        have unmarked : Report [⟨¬ hasSessionMark name.table, .reservedTableName name.table⟩]
            (if hasSessionMark name.table then [.reservedTableName name.table] else []) := by
          rw [← ite_not]
          exact .single
        exact unmarked.append (Report.flatMap (dialect.report_storageColumn columns) _)
      · rw [if_neg synapse, if_neg synapse]
        exact .nil
  | createTemporary name columns =>
      simp only [checks, faults]
      by_cases exasol : dialect = .exasol
      · rw [if_pos exasol, if_pos exasol]
        exact .broken id .nil
      · rw [if_neg exasol, if_neg exasol]
        refine (dialect.report_creation name columns []).append ?_
        by_cases synapse : dialect = .synapse
        · simp only [synapse, true_and, ite_not, ↓reduceIte]
          exact .single
        · simp only [synapse, false_and, ↓reduceIte]
          exact .nil
  | drop name | truncate name => exact dialect.report_tableName name
  | rename name newTable =>
      exact (dialect.report_tableName name).append (dialect.report_name .table newTable)

theorem compile_eq_error_iff {fault : RequestFault} :
    request.compile dialect = .error fault ↔ (request.faults dialect).head? = some fault := by
  unfold compile
  cases request.faults dialect <;> simp

/-! ## Acceptance -/

/-- What a request has to be like to be accepted. -/
def IsAcceptable (dialect : Dialect) : TableRequest → Prop
  | create name columns keys distribution index =>
      (dialect.acceptsName .schema name.schema = true ∧
        dialect.acceptsName .table name.table = true) ∧
      (∀ limit ∈ dialect.maxColumns, columns.size ≤ limit) ∧
      (∀ column ∈ columns.toList,
        dialect.AcceptsColumnName column.name ∧ column.dialect = dialect) ∧
      (∀ key ∈ keys, dialect.AcceptsColumnName key ∧
        ∃ column ∈ columns.toList, column.name = key ∧ column.definition.nullable = false) ∧
      (dialect = .synapse → ¬ hasSessionMark name.table ∧
        ∀ named ∈ storageColumns distribution index,
          dialect.acceptsName .column named = true ∧
            ∃ column ∈ columns.toList, column.name = .text named)
  | createTemporary name columns =>
      dialect ≠ .exasol ∧
      (dialect.acceptsName .schema name.schema = true ∧
        dialect.acceptsName .table name.table = true) ∧
      (∀ limit ∈ dialect.maxColumns, columns.size ≤ limit) ∧
      (∀ column ∈ columns.toList,
        dialect.AcceptsColumnName column.name ∧ column.dialect = dialect) ∧
      (dialect = .synapse → hasSessionMark name.table)
  | drop name | truncate name =>
      dialect.acceptsName .schema name.schema = true ∧
        dialect.acceptsName .table name.table = true
  | rename name newTable =>
      (dialect.acceptsName .schema name.schema = true ∧
        dialect.acceptsName .table name.table = true) ∧
      dialect.acceptsName .table newTable = true

theorem keyFaults_eq_nil_iff_column {columns : Columns} {keys : List Value} :
    dialect.keyFaults columns keys = [] ↔ ∀ key ∈ keys, dialect.AcceptsColumnName key ∧
      ∃ column ∈ columns.toList, column.name = key ∧ column.definition.nullable = false := by
  rw [Dialect.keyFaults_eq_nil_iff, ← forall₂_and, ← forall₂_and]
  refine forall₂_congr fun key _ => and_congr_right ?_
  rintro ⟨word, rfl, -⟩
  simp only [Value.comparable_text, Value.comparable_eq_text_iff]
  constructor
  · rintro ⟨present, excluded⟩
    obtain ⟨column, member, named⟩ := Columns.exists_mem_of_has present
    have same := Value.comparable_eq_text_iff.mp named
    exact ⟨column, member, same, excluded column member same⟩
  · rintro ⟨column, member, named, excluded⟩
    refine ⟨?_, fun other there same => ?_⟩
    · rw [Columns.has_text_iff, Columns.names, ← named]
      exact List.mem_map_of_mem member
    · have one := columns.eq_of_comparable_eq there member (by rw [same, named])
      rwa [one]

theorem faults_eq_nil_iff : request.faults dialect = [] ↔ request.IsAcceptable dialect := by
  cases request with
  | create name columns keys distribution index =>
      have stored : ((storageColumns distribution index).flatMap
          (dialect.storageColumnFaults columns) = []) ↔
          ∀ named ∈ storageColumns distribution index,
            dialect.acceptsName .column named = true ∧
              ∃ column ∈ columns.toList, column.name = .text named := by
        simp only [List.flatMap_eq_nil_iff, Dialect.storageColumnFaults_eq_nil_iff,
          Columns.has_text_iff, Columns.names, List.mem_map]
      rw [faults, List.append_eq_nil_iff, Dialect.creationFaults_eq_nil_iff,
        keyFaults_eq_nil_iff_column, IsAcceptable]
      by_cases synapse : dialect = .synapse
      · rw [if_pos synapse, List.append_eq_nil_iff, stored]
        simp [synapse, and_assoc]
      · simp [synapse, and_assoc]
  | createTemporary name columns =>
      rw [faults, IsAcceptable]
      by_cases exasol : dialect = .exasol
      · simp [exasol]
      · rw [if_neg exasol, List.append_eq_nil_iff, Dialect.creationFaults_eq_nil_iff,
          keyFaults_eq_nil_iff_column]
        by_cases synapse : dialect = .synapse <;> simp [synapse, exasol, and_assoc]
  | drop name | truncate name => exact Dialect.tableNameFaults_eq_nil_iff
  | rename name newTable =>
      rw [faults, List.append_eq_nil_iff, Dialect.tableNameFaults_eq_nil_iff,
        Dialect.nameFaults_eq_nil_iff, IsAcceptable]

end TableRequest

/-! ## One check after the other -/

/-- Ends with a fault unless a condition holds. -/
def demand (condition : Prop) [Decidable condition] (fault : RequestFault) :
    Except Failure Unit :=
  if condition then .ok () else .error (.request fault)

/-- Ends with the first of several faults, if there is one. -/
def endWithFirst : List RequestFault → Except Failure Unit
  | [] => .ok ()
  | fault :: _ => .error (.request fault)

theorem demand_eq {condition : Prop} [Decidable condition] {fault : RequestFault} :
    demand condition fault = endWithFirst (if condition then [] else [fault]) := by
  unfold demand
  split <;> rfl

theorem endWithFirst_append (first second : List RequestFault) :
    endWithFirst (first ++ second) = endWithFirst first >>= fun _ => endWithFirst second := by
  cases first <;> rfl

theorem endWithFirst_flatMap {α : Type} {faultsOf : α → List RequestFault} (items : List α) :
    endWithFirst (items.flatMap faultsOf) =
      items.forM fun item => endWithFirst (faultsOf item) := by
  induction items with
  | nil => rfl
  | cons item items ih =>
      rw [List.flatMap_cons, endWithFirst_append, ih]
      rfl

namespace Dialect

/-- Refuses the name of a column that is not a text or is not admitted. -/
def checkColumnName (dialect : Dialect) (name : Value) : Except Failure Unit :=
  match name.word? with
  | some word => dialect.checkName .column word
  | none => .error (.request .nameNotText)

/-- Refuses more columns than the dialect admits, and columns that it cannot have. -/
def checkColumns (dialect : Dialect) (columns : Columns) : Except Failure Unit := do
  match dialect.maxColumns with
  | some limit => demand (columns.size ≤ limit) (.tooManyColumns limit columns.size)
  | none => pure ()
  columns.toList.forM fun column => do
    dialect.checkColumnName column.name
    demand (column.dialect = dialect)
      (.foreignColumn column.name.wording column.dialect dialect)

/-- Refuses a key that allows null. It is looked up among the columns. -/
def checkNullability (columns : Columns) (key : Value) : Except Failure Unit := do
  let column ← columns.get key
  demand (column.definition.nullable = false) (.nullableKey key.wording)

/-- Refuses keys that are no columns or allow null. -/
def checkKeys (dialect : Dialect) (columns : Columns) (keys : List Value) :
    Except Failure Unit := do
  keys.forM dialect.checkColumnName
  demand (columns.missing keys = [])
    (.keysNotInColumns ((columns.missing keys).map Value.wording))
  keys.forM (checkNullability columns)

/-- Refuses a table that no dialect can create. -/
def checkCreation (dialect : Dialect) (name : TableName) (columns : Columns)
    (keys : List Value) : Except Failure Unit := do
  dialect.checkName .schema name.schema
  dialect.checkName .table name.table
  dialect.checkColumns columns
  dialect.checkKeys columns keys

end Dialect

/-- Makes the checks of a request one after the other. -/
def TableRequest.check (dialect : Dialect) : TableRequest → Except Failure Unit
  | create name columns keys distribution index => do
      dialect.checkCreation name columns keys
      if dialect = .synapse then
        demand (¬ hasSessionMark name.table) (.reservedTableName name.table)
        (storageColumns distribution index).forM fun column => do
          dialect.checkName .column column
          demand (columns.has (.text column)) (.storageColumnMissing column)
      else pure ()
  | createTemporary name columns =>
      if dialect = .exasol then .error (.request (.noTemporaryTables dialect))
      else do
        dialect.checkCreation name columns []
        if dialect = .synapse then
          demand (hasSessionMark name.table) (.sessionMarkMissing name.table)
        else pure ()
  | drop name | truncate name => do
      dialect.checkName .schema name.schema
      dialect.checkName .table name.table
  | rename name newTable => do
      dialect.checkName .schema name.schema
      dialect.checkName .table name.table
      dialect.checkName .table newTable

namespace Dialect

variable (dialect : Dialect)

theorem checkName_eq (kind : ObjectKind) (name : String) :
    dialect.checkName kind name = endWithFirst (dialect.nameFaults kind name) :=
  demand_eq

theorem checkColumnName_eq (name : Value) :
    dialect.checkColumnName name = endWithFirst (dialect.columnNameFaults name) := by
  unfold checkColumnName columnNameFaults
  cases name.word? with
  | none => rfl
  | some word => exact dialect.checkName_eq .column word

theorem checkColumns_eq (columns : Columns) :
    dialect.checkColumns columns = endWithFirst (dialect.columnCountFaults columns ++
      columns.toList.flatMap dialect.columnFaults) := by
  have column (column : Column) : endWithFirst (dialect.columnFaults column) = (do
      dialect.checkColumnName column.name
      demand (column.dialect = dialect)
        (.foreignColumn column.name.wording column.dialect dialect)) := by
    rw [columnFaults, endWithFirst_append, checkColumnName_eq, demand_eq]
  rw [endWithFirst_append, endWithFirst_flatMap, funext column, checkColumns, columnCountFaults]
  cases dialect.maxColumns with
  | none => rfl
  | some limit => simp only [demand_eq]

/-- Keys that are all among the columns are all found. -/
theorem checkNullability_eq {columns : Columns} {keys : List Value}
    (present : ∀ key ∈ keys, columns.has key = true) :
    keys.forM (checkNullability columns) =
      endWithFirst ((columns.nullableAmong keys).map fun key => .nullableKey key.wording) := by
  induction keys with
  | nil => rfl
  | cons key keys ih =>
      obtain ⟨here, others⟩ := List.forall_mem_cons.mp present
      have found : (columns.find? key).isSome := by
        simpa [Columns.find?, Columns.has] using here
      obtain ⟨column, found⟩ := Option.isSome_iff_exists.mp found
      have looked : checkNullability columns key =
          demand (column.definition.nullable = false) (.nullableKey key.wording) := by
        rw [checkNullability, Columns.get, found]
        rfl
      change (checkNullability columns key >>= fun _ => keys.forM (checkNullability columns)) = _
      rw [looked, ih others, nullableAmong_cons, found]
      by_cases nullable : column.definition.nullable = true
      · simp only [demand, nullable, Option.any_some, ↓reduceIte, Bool.true_eq_false]
        rfl
      · simp only [demand, nullable, Option.any_some, ↓reduceIte, Bool.false_eq_true]
        rfl

/-- Making the checks of keys one after the other ends with the first of their faults. A key
is looked up only when all keys are known to be columns. -/
theorem checkKeys_eq (columns : Columns) (keys : List Value) :
    dialect.checkKeys columns keys = endWithFirst (dialect.keyFaults columns keys) := by
  rw [keyFaults, endWithFirst_append, endWithFirst_append, endWithFirst_flatMap, checkKeys]
  simp only [← checkColumnName_eq, demand_eq, bind_assoc]
  congr 1
  funext _
  by_cases absent : columns.missing keys = []
  · have present := Columns.missing_eq_nil_iff.mp absent
    rw [if_pos absent]
    exact checkNullability_eq present
  · rw [if_neg absent]
    rfl

theorem checkCreation_eq (name : TableName) (columns : Columns) (keys : List Value) :
    dialect.checkCreation name columns keys =
      endWithFirst (dialect.creationFaults name columns keys) := by
  simp only [checkCreation, creationFaults, tableNameFaults, checkName_eq, checkColumns_eq,
    checkKeys_eq, endWithFirst_append, bind_assoc]

end Dialect

namespace TableRequest

variable {dialect : Dialect} {request : TableRequest}

theorem check_eq (dialect : Dialect) (request : TableRequest) :
    request.check dialect = endWithFirst (request.faults dialect) := by
  cases request with
  | create name columns keys distribution index =>
      rw [check, faults, endWithFirst_append, Dialect.checkCreation_eq]
      by_cases synapse : dialect = .synapse
      · rw [if_pos synapse, if_pos synapse, endWithFirst_append, endWithFirst_flatMap]
        simp only [Dialect.checkName_eq, demand_eq, Dialect.storageColumnFaults,
          endWithFirst_append, ite_not]
      · rw [if_neg synapse, if_neg synapse]
        rfl
  | createTemporary name columns =>
      rw [check, faults]
      by_cases exasol : dialect = .exasol
      · rw [if_pos exasol, if_pos exasol]
        rfl
      · rw [if_neg exasol, if_neg exasol, endWithFirst_append, Dialect.checkCreation_eq]
        by_cases synapse : dialect = .synapse
        · simp only [synapse, true_and, ite_not, ↓reduceIte, demand_eq]
        · simp only [synapse, false_and, ↓reduceIte]
          rfl
  | drop name | truncate name =>
      simp only [check, faults, Dialect.tableNameFaults, Dialect.checkName_eq,
        endWithFirst_append]
  | rename name newTable =>
      simp only [check, faults, Dialect.tableNameFaults, Dialect.checkName_eq,
        endWithFirst_append, bind_assoc]

/-- Making the checks one after the other and then writing the statement is compiling the
request: nothing but a fault of the request ends it. -/
theorem check_then_sql (dialect : Dialect) (request : TableRequest) :
    (do request.check dialect; return request.sql dialect) =
      (request.compile dialect).mapError Failure.request := by
  rw [check_eq, compile]
  cases request.faults dialect <;> rfl

/-! ## The families of the faults -/

/-- The names of columns and keys that a request gives, which may be values of any kind. -/
def givenNames : TableRequest → List Value
  | create _ columns keys _ _ => columns.names ++ keys
  | createTemporary _ columns => columns.names
  | drop _ | truncate _ | rename _ _ => []

/-- A fault with which a request can be refused: one of the request, too many columns, or,
where a given name is not a text, the misuse of such a name. -/
def Refuses (names : List Value) (fault : RequestFault) : Prop :=
  (fault.refusal? = some .request ∧ fault.code? ≠ some .tooManyColumns) ∨
    (fault.refusal? = some .columns ∧ fault.code? = some .tooManyColumns) ∨
    (fault = .nameNotText ∧ ∃ given ∈ names, given.word? = none)

variable {names : List Value} {columns : Columns} {keys : List Value}

theorem refuses_of_request {fault : RequestFault} (family : fault.refusal? = some .request) :
    Refuses names fault := by
  refine .inl ⟨family, ?_⟩
  cases fault with
  | tooManyColumns limit count => cases family
  | _ => simp [RequestFault.code?]

theorem refuses_columnName {given : Value} (member : given ∈ names) :
    Refuses names (dialect.columnNameCheck given).fault := by
  unfold Dialect.columnNameCheck
  cases word : given.word? with
  | some text => exact refuses_of_request rfl
  | none => exact .inr (.inr ⟨rfl, given, member, word⟩)

theorem refuses_columns (within : ∀ given ∈ columns.names, given ∈ names) :
    ∀ check ∈ columns.toList.flatMap dialect.columnChecks, Refuses names check.fault := by
  intro check member
  obtain ⟨column, present, member⟩ := List.mem_flatMap.mp member
  have given := within column.name (List.mem_map_of_mem present)
  rcases List.mem_pair.mp member with rfl | rfl
  · exact refuses_columnName given
  · exact refuses_of_request rfl

theorem refuses_keys (within : ∀ key ∈ keys, key ∈ names) :
    ∀ check ∈ dialect.keyChecks columns keys, Refuses names check.fault := by
  simp only [Dialect.keyChecks, List.forall_mem_append, List.forall_mem_cons,
    List.forall_mem_map]
  exact ⟨fun key member => refuses_columnName (within key member), refuses_of_request rfl,
    fun _ _ => refuses_of_request rfl⟩

theorem refuses_creation {name : TableName}
    (within : ∀ given ∈ columns.names ++ keys, given ∈ names) :
    ∀ check ∈ dialect.creationChecks name columns keys, Refuses names check.fault := by
  obtain ⟨columnsWithin, keysWithin⟩ := List.forall_mem_append.mp within
  simp only [Dialect.creationChecks, List.forall_mem_append]
  refine ⟨⟨⟨?_, ?_⟩, refuses_columns columnsWithin⟩, refuses_keys keysWithin⟩
  · exact List.forall_mem_cons.mpr
      ⟨refuses_of_request rfl, List.forall_mem_singleton.mpr (refuses_of_request rfl)⟩
  · simp only [Dialect.columnCountChecks, List.forall_mem_map]
    exact fun _ _ => .inr (.inl ⟨rfl, rfl⟩)

/-- The fault of every check of a request is one with which a request can be refused. -/
theorem refuses_checks (dialect : Dialect) (request : TableRequest) :
    ∀ check ∈ request.checks dialect, Refuses request.givenNames check.fault := by
  cases request with
  | create name columns keys distribution index =>
      refine List.forall_mem_append.mpr ⟨refuses_creation fun _ member => member, ?_⟩
      by_cases synapse : dialect = .synapse
      · rw [if_pos synapse]
        refine List.forall_mem_cons.mpr ⟨refuses_of_request rfl, ?_⟩
        intro check member
        obtain ⟨column, -, member⟩ := List.mem_flatMap.mp member
        rcases List.mem_pair.mp member with rfl | rfl
        · exact refuses_of_request rfl
        · exact refuses_of_request rfl
      · simp [synapse]
  | createTemporary name columns =>
      rw [checks]
      by_cases exasol : dialect = .exasol
      · rw [if_pos exasol]
        exact List.forall_mem_singleton.mpr (refuses_of_request rfl)
      · rw [if_neg exasol]
        refine List.forall_mem_append.mpr ⟨refuses_creation (by simp [givenNames]), ?_⟩
        by_cases synapse : dialect = .synapse
        · rw [if_pos synapse]
          exact List.forall_mem_singleton.mpr (refuses_of_request rfl)
        · simp [synapse]
  | drop name | truncate name =>
      exact List.forall_mem_cons.mpr
        ⟨refuses_of_request rfl, List.forall_mem_singleton.mpr (refuses_of_request rfl)⟩
  | rename name newTable =>
      refine List.forall_mem_append.mpr ⟨List.forall_mem_cons.mpr ⟨refuses_of_request rfl, ?_⟩, ?_⟩
      · exact List.forall_mem_singleton.mpr (refuses_of_request rfl)
      · exact List.forall_mem_singleton.mpr (refuses_of_request rfl)

/-- **Which requests about tables are accepted, and for what the others are refused.** A
statement is given exactly for acceptable requests, which are those that pass all their
checks. Any other request is refused for the first of its checks that does not hold. Making
the checks one after the other, with keys looked up among the columns, comes to the same, so
that no look-up ever fails. All faults are of the request, except that too many columns are
a fault of the columns, and that a name which is not a text is misuse. Exasol refuses every
temporary table. -/
theorem compile_checks (dialect : Dialect) (request : TableRequest) :
    ((∃ sql, request.compile dialect = .ok sql) ↔ request.IsAcceptable dialect) ∧
      (request.IsAcceptable dialect ↔ ∀ check ∈ request.checks dialect, check.holds) ∧
      (∀ fault, request.compile dialect = .error fault ↔
        Check.FirstBroken (request.checks dialect) fault) ∧
      (do request.check dialect; return request.sql dialect) =
        (request.compile dialect).mapError Failure.request ∧
      (∀ fault, request.compile dialect = .error fault → Refuses request.givenNames fault) ∧
      ∀ name columns, compile .exasol (.createTemporary name columns) =
          .error (.noTemporaryTables .exasol) ∧
        (RequestFault.noTemporaryTables .exasol).code? = some .unsupportedOperation := by
  have refused (fault : RequestFault) : request.compile dialect = .error fault ↔
      Check.FirstBroken (request.checks dialect) fault :=
    compile_eq_error_iff.trans (report dialect request).head?_eq_some_iff
  refine ⟨?_, ?_, refused, check_then_sql dialect request, ?_, fun _ _ => ⟨rfl, rfl⟩⟩
  · simp only [compile_eq_ok_iff, exists_and_left, exists_eq', and_true, faults_eq_nil_iff]
  · exact faults_eq_nil_iff.symm.trans (report dialect request).eq_nil_iff
  · intro fault ended
    obtain ⟨earlier, check, later, split, -, -, rfl⟩ := (refused fault).mp ended
    exact refuses_checks dialect request check (by simp [split])

end TableRequest

end Warehouse
