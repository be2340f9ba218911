import TerrainTiles.Proofs.Descriptor.Archive
import TerrainTiles.Proofs.Descriptor.Fetching
import TerrainTiles.Proofs.World.Footprint

/-!
# What a descriptor touches

A fetch by one of the real fetchers touches the archive it was asked for and no other
file (`touches_fetch`). So whatever is done with a descriptor touches its own archive
only (`touches_afterAll`).
-/

namespace TerrainTiles

variable {archives : Path → Prop} {path : Path}

theorem World.Decoded.touches {before after : World} (h : before.Decoded after) :
    before.Touches archives after := World.touches_of_files_eq (by rw [h.rest])

theorem Fetcher.touches_fetch {f : Fetcher} (hreal : f.isReal) (hpath : archives path)
    (world : World) : world.Touches archives ((Fetcher.fetch path).run (f, world)).2.2 := by
  have hadmits : World.Admits path (World.Touches archives) := World.admits_touches hpath
  cases f with
  | http f => exact (Http.Fetcher.keeps_fetch hadmits (f, world)).2
  | ftp f => exact (Ftp.Fetcher.keeps_fetch hadmits (f, world)).2
  | scripted => simp [isReal] at hreal

namespace Descriptor

variable {d : Descriptor} {world : World}

def IsArchive (d : Descriptor) (path : Path) : Prop := d.copy.archive = .ok path

theorem touches_getTile (hreal : ∀ f, d.fetcher = some f → f.isReal) (world : World) :
    world.Touches d.IsArchive (getTile.run (d, world)).2.2 := by
  have hasked : ∀ {fetcher path}, d.fetcher = some fetcher → d.IsArchive path →
      world.Touches d.IsArchive (asked fetcher path world).2.2 := fun hf ha =>
    Fetcher.touches_fetch (hreal _ hf) ha (world.record (.fetchBegun _))
  obtain ⟨left, hasks, hdecoded⟩ := asks_getTile d world
  refine IsTrans.trans _ _ _ ?_ hdecoded.touches
  generalize (getTile.run (d, world)).2.1.fetcher = after at hasks
  cases hasks with
  | idle => exact Std.Refl.refl world
  | once hf ha => exact hasked hf ha
  | cleaned hf ha hunlink =>
    exact IsTrans.trans _ _ _ (hasked hf ha) (FileSystem.touches_unlink ha hunlink)

theorem touches_call {s : Descriptor × World} (hreal : ∀ f, s.1.fetcher = some f → f.isReal)
    (call : Call) : s.2.Touches s.1.IsArchive (call.after s).2 := by
  obtain ⟨d, world⟩ := s
  cases call with
  | getTile => exact touches_getTile hreal world
  | dispose => exact World.touches_of_files_eq (files_dispose d world)
  | disableRemote => exact Std.Refl.refl world

theorem touches_afterAll (calls : List Call) {s : Descriptor × World}
    (hreal : ∀ f, s.1.fetcher = some f → f.isReal) :
    s.2.Touches s.1.IsArchive (afterAll calls s).2 := by
  induction calls generalizing s with
  | nil => exact Std.Refl.refl s.2
  | cons call rest ih =>
    have halike : Alike s.1 (call.after s).1 := call.alike s
    have hrest := ih (halike.lasting Fetcher.lasting_isReal hreal)
    have hsame : (call.after s).1.IsArchive = s.1.IsArchive := by
      unfold IsArchive
      rw [halike.copy]
    rw [hsame] at hrest
    exact IsTrans.trans _ _ _ (touches_call hreal call) hrest

end Descriptor

end TerrainTiles
