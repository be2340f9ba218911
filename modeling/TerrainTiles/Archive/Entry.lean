import TerrainTiles.Archive.Reader
import TerrainTiles.Text.Case

/-!
# The tile in an archive

An archive holds its tile under one of three names, tried in order: the tile's
own, that name in lowercase, and the own name inside a folder named after the
archive. Main statement: `resolve` returns the first of the candidates that
occurs, and fails only if none does.
-/

namespace TerrainTiles.Archive

def hasArchiveSuffix (path : Path) : Bool := Text.lowercase path.suffix = ".zip"

/-- The names a tile may have in an archive, in the order they are tried. -/
def candidates (path : Path) (tile : String) : List String :=
  [tile, Text.lowercase tile, path.stem ++ "/" ++ tile]

def missing (path : Path) (tile : String) : Fault := .entryMissing path.text tile path.name

def resolve (archive : Archive) (path : Path) (tile : String) : Except Fault String :=
  match (candidates path tile).find? (· ∈ archive.names) with
  | some name => .ok name
  | none => .error (missing path tile)

def read (archive : Archive) (name : String) : Except Fault Bytes :=
  match archive.find? name with
  | some entry => entry.payload
  | none => .error (.reported {
      kind := .key, details := [.text s!"There is no item named {Text.quoted name} in the archive"] })

def readTile (files : FileSystem) (path : Path) (tile : String) (unpacker : Unpacker := .plain) :
    Except Fault Bytes := do
  if !hasArchiveSuffix path then throw (.notArchive path.text)
  let data ← (files.read path).mapError .file
  let archive ← ofBytes data unpacker
  let name ← archive.resolve path tile
  archive.read name

theorem resolve_eq_ok {archive : Archive} {path : Path} {tile name : String}
    (h : archive.resolve path tile = .ok name) :
    name ∈ candidates path tile ∧ name ∈ archive.names := by
  unfold resolve at h
  split at h
  · next found hf =>
    cases h
    exact ⟨List.mem_of_find?_eq_some hf, by simpa using List.find?_some hf⟩
  · simp at h

theorem resolve_eq_error_iff (archive : Archive) (path : Path) (tile : String) (fault : Fault) :
    archive.resolve path tile = .error fault ↔
      fault = missing path tile ∧ ∀ name ∈ candidates path tile, name ∉ archive.names := by
  unfold resolve
  split
  · next found hf =>
    simp only [reduceCtorEq, false_iff, not_and]
    intro _ hn
    exact hn found (List.mem_of_find?_eq_some hf) (by simpa using List.find?_some hf)
  · next hf =>
    have hn : ∀ name ∈ candidates path tile, name ∉ archive.names := by
      simpa using List.find?_eq_none.mp hf
    simp only [Except.error.injEq]
    exact ⟨fun h => ⟨h.symm, hn⟩, fun h => h.1.symm⟩

end TerrainTiles.Archive
