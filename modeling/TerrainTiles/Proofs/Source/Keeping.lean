import TerrainTiles.Proofs.Descriptor.Confinement
import TerrainTiles.Proofs.Source.Naming

/-!
# Where sources keep their tiles

In the cache at a site, the files of a source's tiles stand right in the
subdirectory that is named after the source (`keptIn`): ids, tile names and the
names of archives all lead one level down.
-/

namespace TerrainTiles.Source

variable {source : Source} {r : Realm} {cache : Path}

theorem below_id (h : source ∈ all) (hcache : r.site.path [] = cache) (hid : r.id = source.id)
    (name : String) : (cache / source.id).below [name] = r.file name := by
  subst hcache
  rw [div_id h, ← hid]
  simp [Realm.file, Site.path, Path.below]

theorem keptIn (h : source ∈ all) (hcache : r.site.path [] = cache) (hid : r.id = source.id)
    (index : TileIndex) : (source.localCopy cache (source.fileName index)).KeptIn r := by
  refine ⟨⟨_, isEntry_fileName h index, ?_⟩, fun path ha => ?_⟩
  · rw [plain_below h, below_id h hcache hid]
  · obtain ⟨name, hname, -, rfl⟩ := archive_below h ha
    exact ⟨name, hname, below_id h hcache hid name⟩

end TerrainTiles.Source
