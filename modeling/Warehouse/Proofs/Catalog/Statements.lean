import Warehouse.Proofs.Catalog.Templates
import Warehouse.Proofs.Dialogue.Computation

/-! # Statements follow their templates

The statement of every query about a table has the text of its template, with the names
of the table in the holes and in Synapse with the number that was looked up. -/

namespace Warehouse

/-- What an inquiry about a table puts into the holes. -/
def TableName.values (name : TableName) (number : Int) : Values where
  text
    | .schema => name.schema
    | .table => name.table
    | .object => Catalog.Synapse.objectName name
    | .pattern => ""
  number := number

namespace Catalog

open Warehouse.Computation

/-- The statement is the one with the purpose, about the table and its number. -/
def Asks (dialect : Dialect) (name : TableName) (number? : Option Int) (purpose : Purpose)
    (statement : String) : Prop :=
  ∃ found ∈ template dialect (hasSessionMark name.table) purpose,
    ∃ number, (found.isNumbered = true → number? = some number) ∧
      statement = Sql.text dialect (found.fill (name.values number))

variable {dialect : Dialect} {name : TableName} {number? : Option Int} {purpose : Purpose}

/-- A statement whose pieces match a template without a number. -/
theorem Asks.of_matches {found : Template} {sql : Sql}
    (listed : template dialect (hasSessionMark name.table) purpose = some found)
    (unnumbered : found.isNumbered = false)
    (same : Template.Matches dialect.quoteStyle (name.values 0) sql found) :
    Asks dialect name number? purpose (sql.text dialect) := by
  refine ⟨found, listed, 0, fun numbered => ?_, same.textIn_eq⟩
  rw [unnumbered] at numbered
  cases numbered

theorem asks_lookup (dialect : Dialect) (name : TableName) :
    Asks dialect name number? .object ((lookup dialect name).sql.text dialect) := by
  cases dialect with
  | synapse => exact .of_matches rfl rfl ⟨by decide, rfl, by decide, trivial⟩
  | teradata | exasol =>
      exact .of_matches rfl rfl ⟨by decide, rfl, by decide, rfl, trivial⟩
  | snowflake =>
      exact .of_matches rfl rfl ⟨by decide, rfl, by decide, rfl, trivial⟩

theorem asks_temporary (name : TableName) :
    Asks .snowflake name number? .temporary ((Snowflake.temporary name).sql.text .snowflake) :=
  .of_matches rfl rfl ⟨by decide, rfl, by decide, rfl, trivial⟩

theorem asks_count (dialect : Dialect) {name : TableName} (schema : name.schema ≠ "") :
    Asks dialect name number? .count ((countQuery dialect name).sql.text dialect) := by
  cases dialect <;>
    simp only [countQuery, Sql.qualified, schema, ↓reduceIte] <;>
    exact .of_matches rfl rfl ⟨by decide, rfl, by decide, rfl, trivial⟩

/-! ## Statements about a number -/

/-- The number that identifies a table, where the identification is a number. -/
def numberOf (object : ObjectId) : Option Int := Text.integer? (object.getD "")

/-- A statement about a number can be built only where there is one. -/
theorem Synapse.exists_number {α : Type} {object : ObjectId} {build : String → Query α}
    {query : Query α}
    (found : (Synapse.objectNumber object >>= fun shown => pure (build shown)) = .ok query) :
    ∃ number, numberOf object = some number ∧ query = build (toString number) := by
  obtain ⟨shown, read, rfl⟩ := bind_pure_eq_ok_iff.mp found
  unfold Synapse.objectNumber at read
  rcases known : Text.integer? (object.getD "") with _ | number
  · rw [known] at read
    cases read
  · rw [known] at read
    cases read
    exact ⟨number, known, rfl⟩

/-- A statement that is the text of a template around the number. -/
theorem Asks.of_numbered {object : ObjectId} {number : Int} {front back : Sql}
    {before behind first last : String} (known : numberOf object = some number)
    (listed : Synapse.template (Synapse.viewsFor (hasSessionMark name.table)) purpose =
      some [.run front, .numbered before behind, .run back])
    (opened : first = Sql.text .synapse front ++ before)
    (closed : last = behind ++ Sql.text .synapse back) :
    Asks .synapse name (numberOf object) purpose
      (Sql.text .synapse [.plain (first ++ toString number ++ last)]) := by
  have same := Template.textIn_numbered (name.values number) opened closed
  exact ⟨_, listed, number, fun _ => known, same⟩

theorem Synapse.asks_columns {object : ObjectId} {query : Query (List Column)}
    (found : Synapse.columns name object = .ok query) :
    Asks .synapse name (numberOf object) .columns (query.sql.text .synapse) := by
  obtain ⟨number, known, rfl⟩ := Synapse.exists_number found
  refine .of_numbered known rfl ?_ (by decide)
  unfold Synapse.views
  cases hasSessionMark name.table <;> decide +kernel

theorem Synapse.asks_keys {object : ObjectId} {query : Query (List Value)}
    (found : Synapse.keys name object = .ok query) :
    Asks .synapse name (numberOf object) .keys (query.sql.text .synapse) := by
  obtain ⟨number, known, rfl⟩ := Synapse.exists_number found
  rw [@String.append_assoc (_ ++ toString number)]
  refine .of_numbered known rfl ?_ (by decide)
  unfold Synapse.views
  cases hasSessionMark name.table <;> decide +kernel

theorem Synapse.asks_distribution {object : ObjectId} {query : Query Distribution}
    (found : Synapse.distribution name object = .ok query) :
    Asks .synapse name (numberOf object) .distribution (query.sql.text .synapse) := by
  obtain ⟨number, known, rfl⟩ := Synapse.exists_number found
  rw [← @String.append_empty (_ ++ toString number)]
  refine .of_numbered known rfl ?_ (by decide)
  unfold Synapse.views
  cases hasSessionMark name.table <;> decide +kernel

theorem Synapse.asks_index {object : ObjectId} {query : Query Index}
    (found : Synapse.index name object = .ok query) :
    Asks .synapse name (numberOf object) .index (query.sql.text .synapse) := by
  obtain ⟨number, known, rfl⟩ := Synapse.exists_number found
  rw [@String.append_assoc (_ ++ toString number)]
  refine .of_numbered known rfl ?_ (by decide)
  unfold Synapse.views
  cases hasSessionMark name.table <;> decide +kernel

/-! ## All dialects -/

theorem asks_columnsQuery {object : ObjectId} {query : Query (List Column)}
    (schema : name.schema ≠ "") (found : columnsQuery dialect name object = .ok query) :
    Asks dialect name (numberOf object) .columns (query.sql.text dialect) := by
  cases dialect with
  | synapse => exact Synapse.asks_columns found
  | teradata | exasol =>
      cases found
      exact .of_matches rfl rfl
        ⟨by decide +kernel, rfl, by decide +kernel, rfl, by decide +kernel, trivial⟩
  | snowflake =>
      cases found
      simp only [Snowflake.columns, Sql.qualified, schema, ↓reduceIte]
      exact .of_matches rfl rfl ⟨by decide, rfl, by decide, rfl, trivial⟩

theorem asks_keysQuery {object : ObjectId} {query : Query (List Value)}
    (schema : name.schema ≠ "") (found : keysQuery dialect name object = .ok query) :
    Asks dialect name (numberOf object) .keys (query.sql.text dialect) := by
  cases dialect with
  | synapse => exact Synapse.asks_keys found
  | teradata | exasol =>
      cases found
      exact .of_matches rfl rfl
        ⟨by decide, rfl, by decide, rfl, by decide, trivial⟩
  | snowflake =>
      cases found
      simp only [Snowflake.keys, Sql.qualified, schema, ↓reduceIte]
      exact .of_matches rfl rfl ⟨by decide, rfl, by decide, rfl, trivial⟩

end Catalog

/-! ## Lists of names -/

namespace Listing

/-- What a list of names puts into the holes. -/
def values (listing : Listing) : Values where
  text
    | .schema => match listing with
        | tables schema | views schema => schema
        | users _ | roles _ => ""
    | .pattern => match listing with
        | users (some like) | roles (some like) => "%" ++ like ++ "%"
        | _ => ""
    | .table | .object => ""
  number := 0

theorem textIn_ofNames {style : QuoteStyle} {values : Values} {all like : Sql}
    {opening condition : String} {text? : Option String}
    (unrestricted : opening = Sql.textIn style all)
    (restricted : opening ++ condition = Sql.textIn style like)
    (held : ∀ text ∈ text?, values.text .pattern = "%" ++ text ++ "%") :
    Sql.textIn style (.plain opening :: pattern condition text?) =
      Sql.textIn style (Template.fill values (ofNames text?.isSome all like)) := by
  cases text? with
  | none => simp [pattern, ofNames, Template.fill, Part.fill, Piece.text, unrestricted]
  | some text =>
      simp [pattern, ofNames, Template.fill, Part.fill, Piece.text, ← restricted, held text rfl,
        String.append_assoc]

/-- The statement for a list has the text of its template. -/
theorem text_query (dialect : Dialect) (listing : Listing) :
    (listing.query dialect).sql.text dialect =
      Sql.text dialect ((template dialect listing.kind).fill listing.values) := by
  cases listing with
  | tables schema | views schema =>
      cases dialect with
      | synapse | teradata =>
          exact Template.Matches.textIn_eq ⟨by decide, rfl, by decide, trivial⟩
      | exasol | snowflake => exact Template.Matches.textIn_eq ⟨by decide, rfl, trivial⟩
  | users like | roles like =>
      cases dialect <;>
        exact textIn_ofNames (by decide) (by decide) (by rintro _ ⟨⟩; rfl)

end Listing

end Warehouse
