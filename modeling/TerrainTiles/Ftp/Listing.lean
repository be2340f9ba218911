import TerrainTiles.Ftp.Server
import TerrainTiles.Text.Integer

/-!
# Remote listings

A listing gives the size of each file of a remote directory, where the server
tells it. A name listed twice keeps its first place and its last size.
-/

namespace TerrainTiles.Ftp

abbrev Listing := List (String × Option Int)

namespace Listing

def insert (listing : Listing) (name : String) (size : Option Int) : Listing :=
  match listing with
  | [] => [(name, size)]
  | (key, old) :: rest =>
    if key = name then (key, size) :: rest else (key, old) :: insert rest name size

def contains (listing : Listing) (name : String) : Bool := (listing.lookup name).isSome

/-- The size of a listed file; `none` if it is not known. -/
def size? (listing : Listing) (name : String) : Option Int := (listing.lookup name).join

theorem contains_iff {listing : Listing} {name : String} :
    listing.contains name ↔ listing.lookup name ≠ none := by
  simp [contains, Option.isSome_iff_ne_none]

theorem contains_eq_false_iff {listing : Listing} {name : String} :
    listing.contains name = false ↔ listing.lookup name = none := by
  simp [contains]

theorem size?_eq_some_iff {listing : Listing} {name : String} {size : Int} :
    listing.size? name = some size ↔ listing.lookup name = some (some size) := by
  simp [size?, Option.join_eq_some_iff]

theorem lookup_insert (listing : Listing) (name other : String) (size : Option Int) :
    (listing.insert name size).lookup other =
      if other = name then some size else listing.lookup other := by
  have hb (key : String) : (other == key) = decide (other = key) := by
    by_cases h : other = key <;> simp [h]
  induction listing with
  | nil => by_cases h : other = name <;> simp [insert, List.lookup_cons, hb, h]
  | cons entry rest ih =>
    obtain ⟨key, old⟩ := entry
    by_cases hk : key = name
    · subst hk
      by_cases ho : other = key <;> simp [insert, List.lookup_cons, hb, ho]
    · by_cases ho : other = key
      · subst ho; simp [insert, hk]
      · simp [insert, List.lookup_cons, hk, hb, ho, ih]

end Listing

/-- The size of a file by its facts. What is not a file has none. -/
def sizeFact (facts : Facts) : Except Fault (Option (Option Int)) :=
  if (facts.lookup "type").getD "file" = "file" then
    match facts.lookup "size" with
    | none => .ok (some none)
    | some text => (Text.readInteger text).map (some ∘ some) |>.mapError .integer
  else .ok none

def listEntries (listing : Listing) : List (String × Facts) → Except Fault Listing
  | [] => .ok listing
  | (name, facts) :: rest => do
    match ← sizeFact facts with
    | some size => listEntries (listing.insert name size) rest
    | none => listEntries listing rest

/-- The listing that a catalogue gives, unless it ends early. -/
def Catalogue.listing (catalogue : Catalogue) : Except Fault Listing := do
  let listing ← listEntries [] catalogue.entries
  match catalogue.failure with
  | some fault => throw fault
  | none => return listing

/-- Joins remote paths: an absolute second part stands alone, and no slash is doubled. -/
def joinRemote (first second : String) : String :=
  if second.toList.head? = some '/' then second
  else if first = "" ∨ first.toList.getLast? = some '/' then first ++ second
  else first ++ "/" ++ second

def remoteName (path : String) : String := String.ofList (Text.lastPiece '/' path.toList)

end TerrainTiles.Ftp
