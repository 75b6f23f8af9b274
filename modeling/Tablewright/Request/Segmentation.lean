/-
What a request asks to store, and the templates every request is compared with unless another table is
given.

Every rule that applies contributes its entity, in the order of the table; an entity whose name
was contributed before is left out. Only when no rule applies the fallbacks are consulted, and the
first that applies contributes its entity alone.
-/
import Tablewright.Request.Template

set_option autoImplicit false

namespace Tablewright

/-! ## The templates -/

namespace Catalog

/-- A field without constraints. -/
def optional (name : Text) (kind : FieldKind) : Field := ⟨name, kind, []⟩

/-- A field with a value in every row. -/
def required (name : Text) (kind : FieldKind) : Field := ⟨name, kind, [.required]⟩

/-- Personalized playlists curated for the user. -/
def madeForYouPlaylists : Template where
  triggers := ["made for you"]
  entity :=
    ⟨"made_for_you_playlists", "Personalized playlists curated for the user", [
      required "title" .shortText,
      optional "description" .longText,
      optional "imageUrl" .shortText,
      optional "playlistType" .shortText,
      optional "trackCount" .integer]⟩

/-- Popular albums trending or featured. -/
def popularAlbums : Template where
  triggers := ["popular albums", "popular album"]
  entity :=
    ⟨"popular_albums", "Popular albums trending or featured", [
      required "title" .shortText,
      required "artist" .shortText,
      optional "imageUrl" .shortText,
      optional "releaseYear" .integer,
      optional "genre" .shortText,
      optional "popularity" .integer]⟩

/-- Songs recently played by the user. -/
def recentlyPlayedSongs : Template where
  triggers := ["recently played", "recent"]
  entity :=
    ⟨"recently_played_songs", "Songs recently played by the user", [
      required "title" .shortText,
      required "artist" .shortText,
      optional "album" .shortText,
      optional "duration" .integer,
      required "playedAt" .timestamp]⟩

/-- Songs the user liked or saved. -/
def favoriteSongs : Template where
  triggers := ["favorite songs", "favourite songs", "liked songs"]
  entity :=
    ⟨"favorite_songs", "Songs the user liked or saved", [
      required "title" .shortText,
      required "artist" .shortText,
      optional "album" .shortText,
      optional "duration" .integer,
      optional "likedAt" .timestamp]⟩

/-- Custom playlists created by the user. -/
def userPlaylists : Template where
  triggers := ["user playlists", "my playlists"]
  entity :=
    ⟨"user_playlists", "Custom playlists created by the user", [
      required "title" .shortText,
      optional "description" .longText,
      optional "imageUrl" .shortText,
      optional "isPublic" .boolean,
      optional "trackCount" .integer]⟩

/-- General album information. -/
def albums : Template where
  triggers := ["album"]
  entity :=
    ⟨"albums", "General album information", [
      required "title" .shortText,
      required "artist" .shortText,
      optional "imageUrl" .shortText,
      optional "category" .shortText]⟩

/-- General song information. -/
def songs : Template where
  triggers := ["song"]
  entity :=
    ⟨"songs", "General song information", [
      required "title" .shortText,
      required "artist" .shortText,
      optional "album" .shortText,
      optional "duration" .integer]⟩

/-- General playlist information. -/
def playlists : Template where
  triggers := ["playlist"]
  entity :=
    ⟨"playlists", "General playlist information", [
      required "title" .shortText,
      optional "description" .longText,
      optional "imageUrl" .shortText]⟩

/-- The table of templates. -/
def table : TemplateTable where
  rules := [madeForYouPlaylists, popularAlbums, recentlyPlayedSongs, favoriteSongs, userPlaylists]
  fallbacks := [albums, songs, playlists]

end Catalog

/-! ## What is found -/

/-- The entities found in a request (`SegmentationResult`). -/
structure Segmentation where
  /-- The request as it was given. -/
  request : Text
  /-- The entities in the order of the table. -/
  entities : List Entity
deriving DecidableEq

namespace Segmentation

/-- The entities of the templates that apply, names seen before left out. -/
def contributions (normalRequest : Text) (seen : List Text) : List Template → List Entity
  | [] => []
  | t :: r =>
    if t.applies normalRequest && !seen.contains t.entity.name then
      t.entity :: contributions normalRequest (t.entity.name :: seen) r
    else contributions normalRequest seen r

/-- The entity of the first template that applies. -/
def fallback (normalRequest : Text) (ts : List Template) : List Entity :=
  match ts.find? (·.applies normalRequest) with
  | some t => [t.entity]
  | none => []

/-- Find the entities in a request by a table of templates (`segment_request`). Where no template
applies, the first of the fallbacks that does gives the only entity. -/
def ofRequest (table : TemplateTable) (request : Text) : Segmentation :=
  let normalRequest := Request.normal request
  let found := contributions normalRequest [] table.rules
  { request
    entities := if found.isEmpty then fallback normalRequest table.fallbacks else found }

/-- What to do with the entities found. -/
def recommendation (s : Segmentation) : Text :=
  match s.entities with
  | [] => "No entities detected; ask the user to clarify what should be stored."
  | [_] => "Single entity detected."
  | _ => "Multiple entities detected. Create separate tables for each."

/-- The members of a segmentation as an object. -/
def members (s : Segmentation) : Members :=
  [("entitiesFound", .int s.entities.length), ("entities", .arr (s.entities.map Entity.toJson)),
    ("recommendation", .str s.recommendation)]

end Segmentation

end Tablewright
