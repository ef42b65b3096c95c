import MovieCatalogue.Endpoint.Operation
import MovieCatalogue.Record.Catalogue

/-!
Contract: which entity is served under which route.

Owns: registries, in which a route names one entity and a route that is given
again takes the later one, and the standard registry of the catalogue.
Does not own: what is done with the entity.
-/

namespace MovieCatalogue.Endpoint

open MovieCatalogue.Record

/-- Entities under their route names. -/
abbrev Registry := Fields Entity

namespace Registry

/-- Serves an entity under a route. -/
def serve (registry : Registry) (route : String) (entity : Entity) : Registry :=
  Fields.put route entity registry

def entity? (registry : Registry) (route : String) : Option Entity :=
  Fields.get? route registry

/-- The routes with their entities, in the order of texts. -/
def routes (registry : Registry) : List (String × Entity) :=
  registry.mergeSort fun a b => Text.leTexts a.1 b.1

/-- Every entity of the catalogue under its plural name. -/
def standard : Registry :=
  [("users", user),
   ("movies", movie),
   ("ratings", rating),
   ("tags", tag),
   ("reviews", review),
   ("watchlists", watchlist),
   ("genres", genre),
   ("sections", movieSection),
   ("requests", requestLog)]

end Registry

end MovieCatalogue.Endpoint
