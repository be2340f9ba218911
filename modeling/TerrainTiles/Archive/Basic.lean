import TerrainTiles.Fault

/-!
# Zip archives

An archive is a list of entries, each with a name and a payload, which can be
damaged. Names may repeat; by name the last entry is found.
-/

namespace TerrainTiles

namespace Archive

structure Entry where
  name : String
  payload : Except Fault Bytes

end Archive

structure Archive where
  entries : List Archive.Entry

namespace Archive

def names (archive : Archive) : List String := archive.entries.map Entry.name

/-- The last entry of a name. -/
def find? (archive : Archive) (name : String) : Option Entry :=
  archive.entries.reverse.find? (·.name = name)

theorem find?_isSome (archive : Archive) (name : String) :
    (archive.find? name).isSome = true ↔ name ∈ archive.names := by
  simp [find?, names, List.find?_isSome]

end Archive

end TerrainTiles
