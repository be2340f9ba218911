import TerrainTiles.Proofs.Files.Footprint
import TerrainTiles.Proofs.World.Frame

/-!
# What a world's files are touched by

`World.Touches` is what may happen to the files while archives are fetched. All that is
done for one fetch touches no more than its archive (`admits_touches`).
-/

namespace TerrainTiles.World

variable {archives : Path → Prop} {path : Path}

/-- The files that differ are the archives, and the new directories are above them. -/
def Touches (archives : Path → Prop) (before after : World) : Prop :=
  before.files.Touches archives after.files

variable {before after : World}

instance (archives : Path → Prop) : IsPreorder World (Touches archives) where
  refl world := Std.Refl.refl world.files
  trans _ _ _ h h' := IsTrans.trans (r := FileSystem.Touches archives) _ _ _ h h'

theorem touches_of_files_eq (h : after.files = before.files) : Touches archives before after := by
  unfold Touches
  rw [h]
  exact Std.Refl.refl _

theorem admits_touches (hpath : archives path) : Admits path (Touches archives) where
  quiet _ _ h := touches_of_files_eq h.files
  room world := FileSystem.touches_makeDirectories hpath world.files
  create _ _ _ h := (FileSystem.touches_create hpath h).1
  append _ _ chunk hl := FileSystem.touches_append hpath hl chunk
  unlink _ _ h := FileSystem.touches_unlink hpath h

end TerrainTiles.World
