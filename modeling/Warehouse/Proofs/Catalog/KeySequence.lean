import Warehouse.Proofs.Catalog.Representation
import Warehouse.Proofs.Catalog.SnowflakeDescription
import Warehouse.Proofs.Text.DecimalNumeral

/-! # The order of reported keys

Snowflake numbers the key columns of a table and may report them in any order, each number by
itself or as a text. The keys are read in the order of their numbers, keys of one number in the
order in which they are reported (`Snowflake.primaryKeys_inSequence`); where no number occurs
twice the order of the rows makes no difference. -/

namespace Warehouse.Catalog

open Warehouse.Computation

/-! ## Sorting by numbers -/

section Sorting

variable {α : Type} (number : α → Int) (items : List α)

/-- Sorting leaves the items of one number in their order. -/
theorem filter_mergeSort (wanted : Int) :
    (items.mergeSort fun first second => number first ≤ number second).filter
      (number · = wanted) = items.filter (number · = wanted) := by
  have ordered : (items.filter (number · = wanted)).Pairwise
      fun first second => decide (number first ≤ number second) = true := by
    refine List.pairwise_iff_forall_sublist.mpr fun {first second} pair => ?_
    have here := List.mem_filter.mp (pair.subset List.mem_cons_self)
    have there := List.mem_filter.mp (pair.subset (List.mem_cons_of_mem _ List.mem_cons_self))
    rw [of_decide_eq_true here.2, of_decide_eq_true there.2]
    exact decide_eq_true (Int.le_refl wanted)
  have kept : (items.filter (number · = wanted)).Sublist
      (items.mergeSort fun first second => number first ≤ number second) :=
    List.sublist_mergeSort (by simpa using fun _ _ _ => Int.le_trans)
      (by simpa using fun _ _ => Int.le_total _ _) ordered List.filter_sublist
  have within := kept.filter fun item => decide (number item = wanted)
  simp only [List.filter_filter, Bool.and_self] at within
  have same := (List.mergeSort_perm items fun first second =>
    decide (number first ≤ number second)).filter fun item => decide (number item = wanted)
  exact (within.eq_of_length same.length_eq.symm).symm

end Sorting

namespace Snowflake

/-! ## Keys in sequence -/

/-- The row names a key column and has a cell that denotes its number. -/
structure TellsKey (row : Row) (key : Value × Int) : Prop where
  name : row.cell "column_name" = .ok key.1
  sequence : ∃ cell, row.cell "key_sequence" = .ok cell ∧ cell.DenotesInteger key.2

/-- The keys are the given ones, their numbers do not decrease, and keys of one number stand in
the order in which they were given. -/
structure InSequence (given ordered : List (Value × Int)) : Prop where
  perm : ordered.Perm given
  ascending : ordered.Pairwise fun first second => first.2 ≤ second.2
  stable : ∀ number, ordered.filter (·.2 = number) = given.filter (·.2 = number)

/-- The commands that ask for the keys of a table, each with its answer. -/
def keyExchange (name : TableName) (shown rows : List Row) : Exchange := [
  ((lookup name).sql.text .snowflake, shown), ((keys name).sql.text .snowflake, rows)]

/-- Numbered keys, sorted by their numbers. -/
def sequenced (given : List (Value × Int)) : List (Value × Int) :=
  given.mergeSort fun first second => first.2 ≤ second.2

variable {rows : List Row} {given : List (Value × Int)}

theorem inSequence_sequenced (given : List (Value × Int)) : InSequence given (sequenced given) where
  perm := List.mergeSort_perm given _
  ascending := List.pairwise_mergeSort' (fun first second => first.2 ≤ second.2) given
  stable := filter_mergeSort Prod.snd given

/-- Where no number occurs twice, the order in which the keys are given makes no difference. -/
theorem sequenced_eq_of_perm {others : List (Value × Int)} (same : others.Perm given)
    (distinct : (given.map Prod.snd).Nodup) : sequenced others = sequenced given := by
  obtain ⟨perm, ascending, -⟩ := inSequence_sequenced given
  have apart : (sequenced given).Pairwise fun first second => first.2 ≠ second.2 :=
    List.pairwise_map.mp ((perm.map Prod.snd).nodup_iff.mpr distinct)
  apply mergeSort_eq_of_perm (same.trans perm.symm)
  rw [List.pairwise_map]
  exact (ascending.and apart).imp fun both => lt_of_le_of_ne both.1 both.2

theorem TellsKey.integer?_eq {row : Row} {key : Value × Int} (tells : TellsKey row key) :
    row.integer? "key_sequence" = .ok (some key.2) := by
  obtain ⟨cell, here, denotes⟩ := tells.sequence
  rw [Row.integer?, here]
  exact denotes.integer?_eq

/-- The names of numbered keys are read in the order of the numbers. -/
theorem sequenced_read_eq (tells : List.Forall₂ TellsKey rows given) (name : TableName) :
    (keys name).read rows = .ok ((sequenced given).map Prod.fst) := by
  have told : ∀ row ∈ rows, row.integer? "key_sequence" = .ok (some (sequenceOf row)) := by
    intro row member
    obtain ⟨key, -, here⟩ := exists_of_forall₂ tells member
    rw [sequenceOf_eq here.integer?_eq, here.integer?_eq]
  have ordered : List.Forall₂ TellsKey
      (rows.mergeSort fun first second => sequenceOf first ≤ sequenceOf second)
      (sequenced given) := by
    refine forall₂_mergeSort tells fun here there => ?_
    rw [sequenceOf_eq here.integer?_eq, sequenceOf_eq there.integer?_eq]
  refine keys_read_eq told ?_ name
  rw [List.forall₂_map_right_iff]
  exact ordered.imp fun _ _ here => here.name

/-- Over a connection that reports the keys of a table which is there, the names of the keys are
answered in the order of their numbers. -/
theorem primaryKeys_outcome {σ : Type} {name : TableName} {object : ObjectId} {shown : List Row}
    (found : (lookup name).read shown = .ok (some object))
    (tells : List.Forall₂ TellsKey rows given) {connection : Connection σ} {state : σ}
    (answers : connection.Answers state (keyExchange name shown rows)) :
    ((primaryKeys .snowflake name).run connection state).outcome =
      .ok ((sequenced given).map Prod.fst) := by
  have known : (objectId .snowflake name).Reaches
      [((lookup name).sql.text .snowflake, shown)] object := reaches_askFound .snowflake found
  have named : (keysOf .snowflake name object).Reaches
      [((keys name).sql.text .snowflake, rows)] ((sequenced given).map Prod.fst) :=
    reaches_keysOf .snowflake rfl (sequenced_read_eq tells name)
  exact (Dialogue.Reaches.run_eq (known.bind named) answers).1

/-- **Reported keys are answered in the order of their numbers.** The numbers may be given by
themselves or as texts. All keys are answered and none twice, and keys of one number keep the
order in which they are reported. If no number occurs twice, the answer is the same for every
order of the rows. -/
theorem primaryKeys_inSequence {σ : Type} {name : TableName} {object : ObjectId}
    {shown : List Row} (found : (lookup name).read shown = .ok (some object))
    (tells : List.Forall₂ TellsKey rows given) {connection : Connection σ} {state : σ}
    (answers : connection.Answers state (keyExchange name shown rows)) :
    (∃ ordered, InSequence given ordered ∧
      ((primaryKeys .snowflake name).run connection state).outcome =
        .ok (ordered.map Prod.fst)) ∧
    ((given.map Prod.snd).Nodup → ∀ others, others.Perm rows →
      ∀ (other : Connection σ) (start : σ), other.Answers start (keyExchange name shown others) →
        ((primaryKeys .snowflake name).run other start).outcome =
          ((primaryKeys .snowflake name).run connection state).outcome) := by
  have outcome := primaryKeys_outcome found tells answers
  refine ⟨⟨sequenced given, inSequence_sequenced given, outcome⟩, ?_⟩
  intro distinct others same other start answered
  have permuted : Relation.Comp List.Perm (List.Forall₂ TellsKey) others given :=
    ⟨rows, same, tells⟩
  rw [← List.forall₂_comp_perm_eq_perm_comp_forall₂] at permuted
  obtain ⟨reported, told, again⟩ := permuted
  rw [outcome, primaryKeys_outcome found told answered, sequenced_eq_of_perm again distinct]

/-- Three keys of a table, the tenth in front of the ninth, numbered by texts and by a number. -/
theorem primaryKeys_inSequence_orders :
    let name : TableName := ⟨"SHOP", "ORDERS"⟩
    let shown : Row := [("database_name", .text "DB"), ("schema_name", .text "SHOP"),
      ("name", .text "ORDERS")]
    let tenth : Row := [("column_name", .text "NR"), ("key_sequence", .text " 10 ")]
    let ninth : Row := [("column_name", .text "YEAR"), ("key_sequence", .text "9")]
    let second : Row := [("column_name", .text "SHOP"), ("key_sequence", .number 2)]
    let given : List (Value × Int) := [(.text "NR", 10), (.text "YEAR", 9), (.text "SHOP", 2)]
    let asked := fun rows => ((primaryKeys .snowflake name).run Connection.prepared
      [[shown], rows]).outcome
    (∃ ordered, InSequence given ordered ∧
      asked [tenth, ninth, second] = .ok (ordered.map Prod.fst)) ∧
    asked [ninth, second, tenth] = asked [tenth, ninth, second] := by
  intro name shown tenth ninth second given asked
  have found : (lookup name).read [shown] =
      .ok (some (some "DB.SHOP.ORDERS")) := by decide
  have tells : List.Forall₂ TellsKey [tenth, ninth, second] given := by
    refine .cons ⟨rfl, _, rfl, ?_⟩ (.cons ⟨rfl, _, rfl, ?_⟩ (.cons ⟨rfl, _, rfl, ?_⟩ .nil))
    · exact Value.denotesInteger_of_numeral (by decide) (by decide)
    · exact Value.denotesInteger_of_numeral (by decide) (by decide)
    · exact Value.denotesInteger_of_numeral (by decide) (by decide)
  have answers : Connection.prepared.Answers [[shown], [tenth, ninth, second]]
      (keyExchange name [shown] [tenth, ninth, second]) := ⟨_, rfl, _, rfl, trivial⟩
  have turned : [ninth, second, tenth].Perm [tenth, ninth, second] := by
    exact @List.perm_append_comm _ [ninth, second] [tenth]
  obtain ⟨ordered, same⟩ := primaryKeys_inSequence found tells answers
  exact ⟨ordered, same (by decide) _ turned Connection.prepared _ ⟨_, rfl, _, rfl, trivial⟩⟩

/-- Where the number of the first key cannot be read, no keys are answered. -/
theorem primaryKeys_outcome_of_unread {σ : Type} {name : TableName} {object : ObjectId}
    {shown : List Row} {first : Row} {fault : CellFault}
    (found : (lookup name).read shown = .ok (some object))
    (unread : first.integer? "key_sequence" = .error fault) {connection : Connection σ} {state : σ}
    (answers : connection.Answers state (keyExchange name shown (first :: rows))) :
    ((primaryKeys .snowflake name).run connection state).outcome = .error (.cell fault) := by
  have known : (objectId .snowflake name).Reaches
      [((lookup name).sql.text .snowflake, shown)] object := reaches_askFound .snowflake found
  have read : (keys name).read (first :: rows) = .error (.cell fault) := by
    simp only [keys, List.mapM_cons, lift_cell_eq_error unread]
    rfl
  have asked : (keysOf .snowflake name object).Fails
      [((keys name).sql.text .snowflake, first :: rows)] (.cell fault) :=
    (Dialogue.reaches_lift_cell rfl).bind_fails (fails_askTable read)
  exact (Dialogue.Fails.run_eq (known.bind_fails asked) answers).1

/-- A key is not answered if its number is given by itself and has too many digits, or if it is
given by a numeral with too large a power of ten. -/
theorem primaryKeys_overlong :
    let name : TableName := ⟨"SHOP", "ORDERS"⟩
    let shown : Row := [("database_name", .text "DB"), ("schema_name", .text "SHOP"),
      ("name", .text "ORDERS")]
    let asked := fun sequence => ((primaryKeys .snowflake name).run Connection.prepared
      [[shown], [[("column_name", .text "NR"), ("key_sequence", sequence)]]]).outcome
    let power := "1e1000000000000000000"
    asked (.number Text.leastOverlong) = .error (.cell .overlongNumber) ∧
      (∃ (numeral : Text.Decimal.Numeral) (number : Int), numeral.text = power ∧
        numeral.value = number) ∧
      asked (.text power) = .error (.cell .notDecimal) := by
  intro name shown asked power
  have found : (lookup name).read [shown] =
      .ok (some (some "DB.SHOP.ORDERS")) := by decide
  have unanswered : ∀ sequence fault, Value.integer? sequence = .error fault →
      asked sequence = .error (.cell fault) := by
    intro sequence fault unread
    let row : Row := [("column_name", .text "NR"), ("key_sequence", sequence)]
    have cell : row.cell "key_sequence" = .ok sequence := rfl
    exact primaryKeys_outcome_of_unread found (bind_eq_error_of_ok cell unread)
      ⟨_, rfl, _, rfl, trivial⟩
  refine ⟨unanswered _ _ ?_, ?_, unanswered _ _ (by decide)⟩
  · rw [Value.integer?, Value.trimmed?_leastOverlong]
    rfl
  · let numeral : Text.Decimal.Numeral := {
      sign := .none, whole := ['1'], fraction := none
      power := some ⟨'e', .none, "1000000000000000000".toList, by decide, by decide,
        List.all_eq_true.mp (by decide)⟩
      digits_ne := by simp
      isDigit := by simp }
    obtain ⟨number, same⟩ := @numeral.exists_intCast (by decide)
    exact ⟨numeral, number, by decide, same⟩

end Snowflake

end Warehouse.Catalog
