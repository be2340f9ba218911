import TerrainTiles.Fault
import TerrainTiles.Text.Template

/-!
# Local copies

A tile is kept as a plain file or as an archive beside it. The archive's name is
made from the plain file's stem by a template, so finding it can fail; the plain
file is looked for first, and an archive is then not considered.
-/

namespace TerrainTiles

structure LocalCopy where
  plain : Path
  template : String := "\x7bstem\x7d.zip"

namespace LocalCopy

def archive (copy : LocalCopy) : Except Fault Path := do
  let name ← (Text.fillTemplate [("stem", copy.plain.stem)] copy.template).mapError .template
  (copy.plain.withName name).mapError .naming

def plainExists (copy : LocalCopy) (files : FileSystem) : Bool := files.isFile copy.plain

def archiveExists (copy : LocalCopy) (files : FileSystem) : Except Fault Bool :=
  copy.archive.map files.isFile

/-- The copy to decode, if there is one. -/
def locate (copy : LocalCopy) (files : FileSystem) : Except Fault (Option Path) := do
  if copy.plainExists files then return some copy.plain
  let path ← copy.archive
  return if files.isFile path then some path else none

def isPresent (copy : LocalCopy) (files : FileSystem) : Except Fault Bool :=
  (copy.locate files).map Option.isSome

def removeArchive (copy : LocalCopy) (files : FileSystem) : Except Fault FileSystem := do
  let path ← copy.archive
  (files.unlink path).mapError .file

end LocalCopy

end TerrainTiles
