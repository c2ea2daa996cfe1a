import Warehouse.Proofs.Catalog.Description
import Warehouse.Proofs.Catalog.Representation
import Warehouse.Proofs.Dialogue.Indifference
import Warehouse.Proofs.Session.Composition

/-! # Reading over different drivers

Whether a table or a list of names is read, no step of it tells alike answers apart. Over two
connections whose answers are always alike, the same statements are sent, and the same is read
or the same failure met (`Session.read_agree`). Numbers with too many digits, which can be read
from their numerals only, are not given in both forms. -/

namespace Warehouse

/-! ## Queries -/

namespace Catalog

variable {α : Type} {dialect : Dialect} {name : TableName}

theorem indifferent_askTable {query : Query α} (same : query.Indifferent) :
    (askTable dialect name query).Indifferent AlikeRows :=
  (Dialogue.indifferent_record _).bind fun _ => Dialogue.indifferent_fetch_read _ same

theorem inherited_indifferent :
    Dialogue.Property.Inherited fun _ dialogue => dialogue.Indifferent AlikeRows where
  ofExcept _ := Dialogue.indifferent_ofExcept
  bind := Dialogue.Indifferent.bind

/-- No query about a table tells alike answers apart. -/
theorem indifferent_queries (dialect : Dialect) (name : TableName) :
    HoldsOfQueries (fun _ dialogue => dialogue.Indifferent AlikeRows) dialect name where
  lookup := indifferent_askTable (indifferent_lookup dialect name)
  temporary := indifferent_askTable (Snowflake.indifferent_temporary name)
  count := indifferent_askTable (indifferent_countQuery dialect name)
  columns asked := indifferent_askTable (indifferent_columnsQuery asked)
  keys asked := indifferent_askTable (indifferent_keysQuery asked)
  distribution asked := indifferent_askTable (Synapse.indifferent_distribution asked)
  index asked := indifferent_askTable (Synapse.indifferent_index asked)
  missing := trivial
  loaded definition := Dialogue.indifferent_record (loadedEntry dialect definition)

end Catalog

/-! ## Sessions -/

namespace Session

open Catalog

theorem indifferent_ask (dialect : Dialect) (name : TableName) (question : TableQuestion) :
    (question.ask dialect name).Indifferent AlikeRows :=
  TableQuestion.holds_ask inherited_indifferent (fun dialect => indifferent_queries dialect name)
    dialect question

theorem indifferent_names (dialect : Dialect) (listing : Listing) :
    (listing.names dialect).Indifferent AlikeRows :=
  (Dialogue.indifferent_record _).bind fun _ =>
    Dialogue.indifferent_fetch_read _ (Listing.indifferent_query dialect listing)

/-- **Over connections whose answers differ in the form of a driver only, every question about
a table and every list of names sends the same statements and ends in the same way.** -/
theorem read_agree {σ τ : Type} {related : σ → τ → Prop} {first : Connection σ}
    {second : Connection τ} (alike : first.Alike AlikeRows related second) {here : σ} {there : τ}
    (start : related here there) (dialect : Dialect) :
    (∀ (name : TableName) (question : TableQuestion),
      ((question.ask dialect name).run first here).Agree related
        ((question.ask dialect name).run second there)) ∧
      ∀ listing : Listing, ((listing.names dialect).run first here).Agree related
        ((listing.names dialect).run second there) :=
  ⟨fun name question => (indifferent_ask dialect name question).run_agree alike start,
    fun listing => (indifferent_names dialect listing).run_agree alike start⟩

/-- The rows of a table are counted alike whether the count comes last and as a number or
first, in capitals and as a padded numeral. -/
theorem read_agree_count :
    let row : Row := [("region", .text "north"), ("count", .number 3)]
    let other : Row := [("COUNT", .text " 3\t"), ("Region", .text "north")]
    let first : Connection Unit := ⟨fun _ state => (.ok [row], state)⟩
    let second : Connection Unit := ⟨fun _ state => (.ok [other], state)⟩
    let counting := TableQuestion.rowCount.ask .exasol ⟨"shop", "orders"⟩
    (counting.run first ()).Agree (fun _ _ => True) (counting.run second ()) := by
  intro row other first second counting
  have count : Row.AlikeEntry row[1] other[0] := {
    name := by decide
    cell := @Value.Alike.number _ _ _ 3 (by decide +kernel) (.number (by decide +kernel))
      (.numeral (by decide)) }
  have region : Row.AlikeEntry row[0] other[1] := {
    name := by decide
    cell := .same _ }
  have rows : row.Alike other := {
    distinct := by decide
    entries := ⟨[row[1], row[0]], .swap _ _ _, .cons count (.cons region .nil)⟩ }
  have alike : first.Alike AlikeRows (fun _ _ => True) second :=
    fun _ _ _ _ => ⟨.ok (.cons rows .nil), trivial⟩
  exact (read_agree alike trivial .exasol).1 ⟨"shop", "orders"⟩ .rowCount

/-- A table is not found under a number with too many digits, but under its numeral it is. -/
theorem read_disagree_overlong :
    let digits := toString Text.leastOverlong
    let asked := fun number : Value => ((TableQuestion.objectId.ask .teradata
      ⟨"shop", "orders"⟩).run Connection.prepared [[[("object_id", number)]]]).outcome
    asked (.number Text.leastOverlong) = .error (.cell .overlongNumber) ∧
      asked (.text digits) = .ok (.text (some digits)) := by
  intro digits asked
  have numeral : (Value.text digits).trimmed? = .ok (some digits) :=
    congrArg (Except.ok ∘ some) (Text.trim_toString Text.leastOverlong)
  -- only what is read in the digits matters; they are not to be computed
  generalize digits = word at numeral ⊢
  have read : ∀ number, (lookup .teradata ⟨"shop", "orders"⟩).read [[("object_id", number)]] =
      (liftM (number.trimmed?.map some) : Except Failure (Option (Option String))) := by
    intro number
    have cell : Row.text? [("object_id", number)] "object_id" = number.trimmed? := rfl
    simp only [lookup, Teradata.lookup, cell]
    cases number.trimmed? <;> rfl
  constructor
  · have unread := read (.number Text.leastOverlong)
    rw [Value.trimmed?_leastOverlong] at unread
    exact ((((fails_askTable unread).bind _).map Answer.text).run_eq ⟨_, rfl, trivial⟩).1
  · have found := read (.text word)
    rw [numeral] at found
    exact (((reaches_askFound .teradata found).map Answer.text).run_eq ⟨_, rfl, trivial⟩).1

end Session

end Warehouse
