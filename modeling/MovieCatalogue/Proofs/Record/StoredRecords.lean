import Mathlib.Data.Set.Function
import MovieCatalogue.Proofs.Record.CatalogueTables
import MovieCatalogue.Proofs.Record.Merging

/-!
Contract: records and the rows that they are stored as.

Owns: the columns of the nine tables, written out, and that they are those of the fields; that the row
of a record is stored as it is and decodes to the record; and that every row which such a table can
hold is the row of one record, so that records and stored rows correspond to each other.
Does not own: which of these rows a table accepts beside those that it already has.
-/

namespace MovieCatalogue.Record

open MovieCatalogue.Storage

variable {entity : Entity}

/-- The row of a record is stored as it is. -/
theorem normalize_toRow (member : entity ∈ catalogue) (record : entity.Records) :
    normalize entity.spec (entity.toRow record) = .ok (entity.toRow record) :=
  normalize_of_holds (nodup_columnNames member) (Contents.holds_toRow entity.fields record)

/-- The row of a record decodes to the record. -/
theorem ofRow_toRow (member : entity ∈ catalogue) (now : Int64) (record : entity.Records) :
    entity.ofRow now (entity.toRow record) = .ok record := by
  have recordHolds : entity.spec.Holds (entity.toRow record) :=
    Contents.holds_toRow entity.fields record
  obtain ⟨again, same, decodes⟩ := exists_record member recordHolds
  cases Contents.toRow_injective entity.fields same
  exact decodes now

/-! ## Tables -/

/-- The tables of the catalogue, column by column. -/
def tables : List Spec :=
  [{ name := "users"
     columns := [⟨"id", .integer, false⟩]
     primaryKey := ["id"] },
   { name := "movie"
     columns :=
       [⟨"id", .integer, false⟩, ⟨"title", .text, false⟩, ⟨"imdb_id", .integer, true⟩,
        ⟨"tmdb_id", .integer, true⟩, ⟨"poster_path", .text, true⟩, ⟨"release_date", .date, true⟩,
        ⟨"budget", .integer, true⟩, ⟨"rating", .real, false⟩, ⟨"vote_count", .integer, false⟩,
        ⟨"genres", .text, false⟩]
     primaryKey := ["id"]
     unique := [["imdb_id"], ["tmdb_id"]] },
   { name := "rating"
     columns :=
       [⟨"user", .integer, false⟩, ⟨"movie", .integer, false⟩, ⟨"rating", .real, false⟩,
        ⟨"timestamp", .integer, false⟩]
     primaryKey := ["user", "movie"] },
   { name := "tag"
     columns :=
       [⟨"user", .integer, false⟩, ⟨"movie", .integer, false⟩, ⟨"name", .text, false⟩,
        ⟨"timestamp", .integer, false⟩]
     primaryKey := ["user", "movie", "name"] },
   { name := "review"
     columns :=
       [⟨"user", .integer, false⟩, ⟨"movie", .integer, false⟩, ⟨"title", .text, true⟩,
        ⟨"body", .text, false⟩, ⟨"timestamp", .integer, false⟩]
     primaryKey := ["user", "movie"] },
   { name := "watchlist"
     columns :=
       [⟨"user", .integer, false⟩, ⟨"movie", .integer, false⟩, ⟨"added_at", .integer, false⟩]
     primaryKey := ["user", "movie"] },
   { name := "genre"
     columns := [⟨"id", .text, false⟩]
     primaryKey := ["id"] },
   { name := "section"
     columns :=
       [⟨"id", .integer, false⟩, ⟨"name", .text, false⟩, ⟨"description", .text, true⟩,
        ⟨"position", .integer, false⟩, ⟨"filter", .text, true⟩, ⟨"sort", .text, true⟩]
     primaryKey := ["id"]
     unique := [["name"]] },
   { name := "request"
     columns :=
       [⟨"id", .integer, false⟩, ⟨"path", .text, false⟩, ⟨"verb", .text, false⟩,
        ⟨"response_status_code", .text, true⟩, ⟨"start_time", .real, false⟩,
        ⟨"end_time", .real, true⟩, ⟨"with_token", .boolean, false⟩]
     primaryKey := ["id"] }]

/-- The fields of the entities have these columns. -/
theorem spec_of_mem_tables {spec : Spec} (declared : (entity, spec) ∈ catalogue.zip tables) :
    entity ∈ catalogue ∧ spec = entity.spec := by
  have each : ∀ paired ∈ catalogue.zip tables, paired.2 = paired.1.spec := by decide
  exact ⟨(List.of_mem_zip declared).1, each _ declared⟩

/-- Records and the rows that their table can hold correspond to each other: a record is stored as
its row, which decodes to the record, and every stored row decodes to a record whose row it is. -/
theorem records_correspond_to_rows {spec : Spec} (declared : (entity, spec) ∈ catalogue.zip tables) :
    (∀ now (record : entity.Records),
        normalize spec (entity.toRow record) = .ok (entity.toRow record) ∧
          entity.ofRow now (entity.toRow record) = .ok record) ∧
      (∀ now row stored, normalize spec row = .ok stored →
        ∃ record, entity.ofRow now stored = .ok record ∧ entity.toRow record = stored) ∧
      Set.BijOn entity.toRow Set.univ {stored | ∃ row, normalize spec row = .ok stored} := by
  obtain ⟨member, rfl⟩ := spec_of_mem_tables declared
  have recorded now {row stored : Row} (normal : normalize entity.spec row = .ok stored) :
      ∃ record, entity.ofRow now stored = .ok record ∧ entity.toRow record = stored := by
    have held : entity.spec.Holds stored := holds_of_normalize (nodup_columnNames member) normal
    obtain ⟨record, isRow, decodes⟩ := exists_record member held
    exact ⟨record, decodes now, isRow⟩
  refine ⟨fun now record => ⟨normalize_toRow member record, ofRow_toRow member now record⟩,
    fun now _ _ normal => recorded now normal, fun record _ => ⟨_, normalize_toRow member record⟩,
    (Contents.toRow_injective entity.fields).injOn, ?_⟩
  rintro stored ⟨row, normal⟩
  obtain ⟨record, -, isRow⟩ := recorded 0 normal
  exact ⟨record, trivial, isRow⟩

/-- A movie that came out in a year that is written with a sign. -/
def earlyMovie : movie.Records :=
  ((1 : Int64), "", (none : Option Int64), some (-5 : Int64), none, some ⟨-44, 3, 15, by decide⟩,
    (none : Option Int64), .zero, (0 : Int64), "x", ())

theorem records_correspond_to_rows_movie :
    (movie, movie.spec) ∈ catalogue.zip tables ∧
      normalize movie.spec (movie.toRow earlyMovie) = .ok (movie.toRow earlyMovie) ∧
        movie.ofRow 0 (movie.toRow earlyMovie) = .ok earlyMovie := by
  have declared : (movie, movie.spec) ∈ catalogue.zip tables := .tail _ (.head _)
  exact ⟨declared, (records_correspond_to_rows declared).1 0 earlyMovie⟩

end MovieCatalogue.Record
