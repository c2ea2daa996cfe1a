import Mathlib.Data.List.Forall2
import Warehouse.Failure

/-! # Computations that succeed and that fail

What it takes for a computation with failures to end with a given result, told step
by step: a sequence succeeds when its steps do, a computation that fails in one way
succeeds as one that may fail in any, and a list of computations succeeds item by
item. The first step that fails is what a sequence fails with. Two computations on
different data are compared step by step in the same way
(`Computation.Corresponds`). -/

namespace Warehouse

variable {ε α β : Type}

namespace Computation

theorem bind_eq_ok_iff {computation : Except ε α} {next : α → Except ε β} {result : β} :
    (computation >>= next) = .ok result ↔
      ∃ middle, computation = .ok middle ∧ next middle = .ok result := by
  cases computation <;> simp [bind, Except.bind]

/-- A sequence of steps fails if its first step fails. -/
theorem bind_eq_error {computation : Except ε α} {failure : ε}
    (fails : computation = .error failure) (next : α → Except ε β) :
    (computation >>= next) = .error failure := by
  subst fails
  rfl

/-- A sequence of steps fails if what follows its first step fails. -/
theorem bind_eq_error_of_ok {computation : Except ε α} {next : α → Except ε β} {middle : α}
    {failure : ε} (success : computation = .ok middle) (later : next middle = .error failure) :
    (computation >>= next) = .error failure := by
  subst success
  exact later

theorem map_eq_ok_iff {computation : Except ε α} {change : α → β} {result : β} :
    change <$> computation = .ok result ↔ ∃ middle, computation = .ok middle ∧
      change middle = result := by
  cases computation <;> simp [Functor.map, Except.map]

theorem pure_eq_ok_iff {given result : α} :
    (pure given : Except ε α) = .ok result ↔ given = result := by
  simp [pure, Except.pure]

/-- What is built at the end of a computation is built from its result. -/
theorem bind_pure_eq_ok_iff {computation : Except ε α} {build : α → β} {result : β} :
    (computation >>= fun middle => pure (build middle)) = .ok result ↔
      ∃ middle, computation = .ok middle ∧ build middle = result := by
  simp only [bind_eq_ok_iff, pure_eq_ok_iff]

/-- A cell that is read inside of a larger computation is read with the same result. -/
theorem lift_cell_eq_ok_iff {reading : Except CellFault α} {result : α} :
    (liftM reading : Except Failure α) = .ok result ↔ reading = .ok result := by
  change reading.mapError Failure.cell = .ok result ↔ _
  cases reading <;> simp [Except.mapError]

theorem lift_cell_eq_error {reading : Except CellFault α} {fault : CellFault}
    (fails : reading = .error fault) :
    (liftM reading : Except Failure α) = .error (.cell fault) := by
  subst fails
  rfl

theorem lift_type_eq_ok_iff {making : Except TypeFault α} {result : α} :
    (liftM making : Except Failure α) = .ok result ↔ making = .ok result := by
  change making.mapError Failure.type = .ok result ↔ _
  cases making <;> simp [Except.mapError]

theorem lift_type_eq_error {making : Except TypeFault α} {fault : TypeFault}
    (fails : making = .error fault) :
    (liftM making : Except Failure α) = .error (.type fault) := by
  subst fails
  rfl

theorem lift_table_eq_ok_iff {making : Except TableFault α} {result : α} :
    (liftM making : Except Failure α) = .ok result ↔ making = .ok result := by
  change making.mapError Failure.table = .ok result ↔ _
  cases making <;> simp [Except.mapError]

/-- A list of computations succeeds item by item. -/
theorem mapM_eq_ok_iff {step : α → Except ε β} {items : List α} {results : List β} :
    items.mapM step = .ok results ↔
      List.Forall₂ (fun item result => step item = .ok result) items results := by
  induction items generalizing results with
  | nil => cases results <;> simp [pure_eq_ok_iff]
  | cons item rest ih =>
      rw [List.mapM_cons, bind_eq_ok_iff]
      constructor
      · rintro ⟨first, here, later⟩
        obtain ⟨others, there, whole⟩ := bind_eq_ok_iff.mp later
        rw [pure_eq_ok_iff] at whole
        subst whole
        exact .cons here (ih.mp there)
      · rintro (_ | ⟨here, there⟩)
        exact ⟨_, here, bind_eq_ok_iff.mpr ⟨_, ih.mpr there, rfl⟩⟩

/-- What every step of a list of computations ensures holds of all their results. -/
theorem forall_of_mapM_eq_ok {step : α → Except ε β} {items : List α} {results : List β}
    {holds : β → Prop} (sound : ∀ item result, step item = .ok result → holds result)
    (success : items.mapM step = .ok results) : ∀ result ∈ results, holds result := by
  have pointwise := mapM_eq_ok_iff.mp success
  induction pointwise with
  | nil => simp
  | cons here _ ih =>
      rw [List.forall_mem_cons]
      exact ⟨sound _ _ here, ih (mapM_eq_ok_iff.mpr ‹_›)⟩

/-- A list of computations fails as the first of them that fails. -/
theorem mapM_eq_error_of_first {step : α → Except ε β} {before after : List α} {item : α}
    {failure : ε} (fine : ∀ earlier ∈ before, ∃ result, step earlier = .ok result)
    (fails : step item = .error failure) :
    (before ++ item :: after).mapM step = .error failure := by
  induction before with
  | nil =>
      rw [List.nil_append, List.mapM_cons, fails]
      rfl
  | cons earlier before ih =>
      rw [List.forall_mem_cons] at fine
      obtain ⟨⟨result, here⟩, behind⟩ := fine
      rw [List.cons_append, List.mapM_cons, here, ih behind]
      rfl

/-- Where every item has a result, picking the results that are there picks all of them. -/
theorem mapM_some_filterMap (step : α → Except ε β) (items : List α) :
    (do return (← items.mapM fun item => some <$> step item).filterMap id) = items.mapM step := by
  induction items with
  | nil => rfl
  | cons item rest ih =>
      rw [List.mapM_cons, List.mapM_cons, ← ih]
      cases step item with
      | error failure => rfl
      | ok result => cases rest.mapM fun item => some <$> step item <;> rfl

/-! ## Computations side by side -/

theorem exists_of_forall₂ {relates : α → β → Prop} {items : List α} {partners : List β}
    (related : List.Forall₂ relates items partners) {item : α} (member : item ∈ items) :
    ∃ partner ∈ partners, relates item partner := by
  induction related with
  | nil => cases member
  | @cons first partner _ _ here _ ih =>
      rcases List.mem_cons.mp member with rfl | behind
      · exact ⟨partner, List.mem_cons_self, here⟩
      · obtain ⟨other, there, relation⟩ := ih behind
        exact ⟨other, List.mem_cons_of_mem _ there, relation⟩

/-- Two computations fail in the same way, or both succeed with related results. -/
inductive Corresponds (relates : α → β → Prop) : Except ε α → Except ε β → Prop where
  | failed (failure : ε) : Corresponds relates (.error failure) (.error failure)
  | ok {first : α} {second : β} (related : relates first second) :
      Corresponds relates (.ok first) (.ok second)

variable {γ δ : Type} {relates : α → β → Prop} {further : γ → δ → Prop}

theorem Corresponds.eq {first second : Except ε α} {relates : α → α → Prop}
    (corresponds : Corresponds relates first second)
    (same : ∀ result partner, relates result partner → result = partner) : first = second := by
  cases corresponds with
  | failed failure => rfl
  | ok related => rw [same _ _ related]

theorem Corresponds.of_eq {first second : Except ε α} (same : first = second) :
    Corresponds Eq first second := by
  subst same
  cases first with
  | error failure => exact .failed failure
  | ok result => exact .ok rfl

/-- Two computations differ by a change of the result if their results do. -/
theorem corresponds_map_iff {first : Except ε α} {second : Except ε β} {change : β → α} :
    Corresponds (fun result partner => result = change partner) first second ↔
      first = second.map change := by
  constructor
  · rintro (_ | related)
    · rfl
    · exact congrArg Except.ok related
  · rintro rfl
    cases second with
    | error failure => exact .failed failure
    | ok result => exact .ok rfl

theorem Corresponds.bind {first : Except ε α} {second : Except ε β} {next : α → Except ε γ}
    {other : β → Except ε δ} (early : Corresponds relates first second)
    (late : ∀ result partner, relates result partner →
      Corresponds further (next result) (other partner)) :
    Corresponds further (first >>= next) (second >>= other) := by
  cases early with
  | failed failure => exact .failed failure
  | ok related => exact late _ _ related

/-- What goes on in the same way with related results cannot tell corresponding computations
apart. -/
theorem Corresponds.bind_eq {first : Except ε α} {second : Except ε β} {next : α → Except ε γ}
    {other : β → Except ε γ} (corresponds : Corresponds relates first second)
    (same : ∀ result partner, relates result partner → next result = other partner) :
    (first >>= next) = (second >>= other) := by
  cases corresponds with
  | failed failure => rfl
  | ok related => exact same _ _ related

theorem Corresponds.lift_cell {first : Except CellFault α} {second : Except CellFault β}
    (corresponds : Corresponds relates first second) :
    Corresponds relates (liftM first : Except Failure α) (liftM second : Except Failure β) := by
  cases corresponds with
  | failed fault => exact .failed (Failure.cell fault)
  | ok related => exact .ok related

theorem Corresponds.lift_type {first : Except TypeFault α} {second : Except TypeFault β}
    (corresponds : Corresponds relates first second) :
    Corresponds relates (liftM first : Except Failure α) (liftM second : Except Failure β) := by
  cases corresponds with
  | failed fault => exact .failed (Failure.type fault)
  | ok related => exact .ok related

/-- Lists of computations over related items correspond if the computations do. -/
theorem corresponds_mapM {step : α → Except ε γ} {other : β → Except ε δ} {items : List α}
    {partners : List β} (related : List.Forall₂ relates items partners)
    (each : ∀ item partner, relates item partner →
      Corresponds further (step item) (other partner)) :
    Corresponds (List.Forall₂ further) (items.mapM step) (partners.mapM other) := by
  induction related with
  | nil => exact .ok .nil
  | cons here _ ih =>
      rw [List.mapM_cons, List.mapM_cons]
      apply (each _ _ here).bind
      intro result partner first
      apply ih.bind
      intro results partners rest
      exact .ok (.cons first rest)

/-- Steps that take related items for the same take related lists for the same. -/
theorem mapM_eq_of_forall₂ {relates : α → α → Prop} {step : α → Except ε β}
    {items partners : List α} (related : List.Forall₂ relates items partners)
    (each : ∀ item partner, relates item partner → step item = step partner) :
    items.mapM step = partners.mapM step := by
  induction related with
  | nil => rfl
  | cons here _ ih => rw [List.mapM_cons, List.mapM_cons, each _ _ here, ih]

end Computation

end Warehouse
