import MovieCatalogue.Record.Entity
import MovieCatalogue.Storage.Store

/-!
Contract: the nine entities of the catalogue.

Owns: users, movies, ratings, tags, reviews, watchlists, genres, sections and the
request log: their tables, keys, fields and unique constraints.
Does not own: the paths under which they are served; see `Endpoint.Registry`.
-/

namespace MovieCatalogue.Record

open MovieCatalogue.Number

/-- People, known by number only. -/
def user : Entity where
  name := "User"
  table := "users"
  key := ["id"]
  fields := [.required "id" .integer]

/-- Movies with the numbers that other databases know them by. -/
def movie : Entity where
  name := "Movie"
  table := "movie"
  key := ["id"]
  fields :=
    [.required "id" .integer,
     .required "title" .text,
     .optional "imdb_id" .integer,
     .optional "tmdb_id" .integer,
     .optional "poster_path" .text,
     .optional "release_date" .date,
     .optional "budget" .integer,
     .withDefault "rating" .real Binary64.zero,
     .withDefault "vote_count" .integer 0,
     .withDefault "genres" .text ""]
  unique := [["imdb_id"], ["tmdb_id"]]

/-- The rating that a user gives a movie. -/
def rating : Entity where
  name := "Rating"
  table := "rating"
  key := ["user", "movie"]
  fields :=
    [.required "user" .integer,
     .required "movie" .integer,
     .required "rating" .real,
     .stamped "timestamp"]

/-- A word that a user attaches to a movie. -/
def tag : Entity where
  name := "Tag"
  table := "tag"
  key := ["user", "movie", "name"]
  fields :=
    [.required "user" .integer,
     .required "movie" .integer,
     .required "name" .text,
     .stamped "timestamp"]

/-- What a user writes about a movie. -/
def review : Entity where
  name := "Review"
  table := "review"
  key := ["user", "movie"]
  fields :=
    [.required "user" .integer,
     .required "movie" .integer,
     .optional "title" .text,
     .required "body" .text,
     .stamped "timestamp"]

/-- A movie that a user means to watch. -/
def watchlist : Entity where
  name := "Watchlist"
  table := "watchlist"
  key := ["user", "movie"]
  fields :=
    [.required "user" .integer,
     .required "movie" .integer,
     .stamped "added_at"]

/-- A genre, known by its name. -/
def genre : Entity where
  name := "Genre"
  table := "genre"
  key := ["id"]
  fields := [.required "id" .text]

/-- A named selection of movies: filter and sort tokens, separated by semicolons. -/
def movieSection : Entity where
  name := "Section"
  table := "section"
  key := ["id"]
  fields :=
    [.required "id" .integer,
     .required "name" .text,
     .optional "description" .text,
     .withDefault "position" .integer 0,
     .optional "filter" .text,
     .optional "sort" .text]
  unique := [["name"]]

/-- One answered request. -/
def requestLog : Entity where
  name := "Request"
  table := "request"
  key := ["id"]
  fields :=
    [.required "id" .integer,
     .required "path" .text,
     .required "verb" .text,
     .optional "response_status_code" .text,
     .required "start_time" .real,
     .optional "end_time" .real,
     .withDefault "with_token" .boolean false]

def catalogue : List Entity :=
  [user, movie, rating, tag, review, watchlist, genre, movieSection, requestLog]

/-- The store with an empty table for each entity. -/
def emptyStore : Storage.Store :=
  .ofSpecs (catalogue.map Entity.spec)

def sectionFilter (record : movieSection.Records) : Option String :=
  record.2.2.2.2.1

def sectionSort (record : movieSection.Records) : Option String :=
  record.2.2.2.2.2.1

end MovieCatalogue.Record
