import TerrainTiles.Proofs.Descriptor.History

/-!
# How a call uses its fetcher

`Asks` lists what a call of `getTile` does with the fetcher and with the files: it
leaves both alone, or it asks the fetcher once for the archive and may then remove
what has come of it. All that happens besides is that something is decoded
(`asks_getTile`).
-/

namespace TerrainTiles

structure World.Decoded (before after : World) : Prop where
  rest : after = { before with decoder := after.decoder, events := after.events }
  events : Records (fun event => event.isDecode) before after

theorem World.decoded_refl (world : World) : Decoded world world := ⟨rfl, records_of_eq rfl⟩

namespace Descriptor

open Act

variable {d d' : Descriptor} {fetcher : Fetcher} {path : Path} {world : World}

/-- The fetcher and the world that are left when the fetcher was used. -/
inductive Asks (d : Descriptor) (world : World) : Option Fetcher → World → Prop where
  | idle : Asks d world d.fetcher world
  | once {fetcher : Fetcher} {path : Path} (hf : d.fetcher = some fetcher)
      (ha : d.copy.archive = .ok path) :
      Asks d world (some (asked fetcher path world).2.1) (asked fetcher path world).2.2
  | cleaned {fetcher : Fetcher} {path : Path} {files : FileSystem} (hf : d.fetcher = some fetcher)
      (ha : d.copy.archive = .ok path)
      (hunlink : (asked fetcher path world).2.2.files.unlink path = .ok files) :
      Asks d world (some (asked fetcher path world).2.1)
        ((asked fetcher path world).2.2.withFiles files)

theorem decoded_finish (d : Descriptor) (preferred : Option Path) (world : World) :
    ((finish preferred).run (d, world)).2.1.fetcher = d.fetcher ∧
      World.Decoded world ((finish preferred).run (d, world)).2.2 := by
  rw [run_finish_eq]
  rcases d.chosen preferred world.files with fault | _ | path
  · exact ⟨rfl, world.decoded_refl⟩
  · exact ⟨rfl, world.decoded_refl⟩
  · dsimp only
    rw [run_decodeFile_presented]
    cases hp : d.presented path world.files world.decoder.unpacker with
    | error fault => exact ⟨rfl, world.decoded_refl⟩
    | ok given =>
      obtain ⟨data, event⟩ := given
      -- The record of the decode is the only one, whatever the decoder answers.
      have hdecoded : ∀ decoder, World.Decoded world { world.record event with decoder } :=
        fun _ => ⟨rfl, [event], rfl, by simpa using isDecode_of_presented hp⟩
      dsimp only
      rcases (world.decoder.decode data d.tileName).1 with _ | _ | _
      · exact ⟨rfl, hdecoded _⟩
      · exact ⟨rfl, hdecoded _⟩
      · exact ⟨rfl, hdecoded _⟩

theorem asks_fetchRemote (d : Descriptor) (world : World) :
    Asks d world (fetchRemote.run (d, world)).2.1.fetcher (fetchRemote.run (d, world)).2.2 := by
  cases hf : d.fetcher with
  | none =>
    rw [run_fetchRemote_none hf]
    exact .idle
  | some fetcher =>
    cases ha : d.copy.archive with
    | error fault =>
      rw [run_fetchRemote_nameless hf ha]
      exact .idle
    | ok path =>
      rw [run_fetchRemote hf ha]
      dsimp only
      cases (asked fetcher path world).1 with
      | ok outcome => exact .once hf ha
      | error fault =>
        dsimp only
        split
        · next files hunlink => exact .cleaned hf ha hunlink
        · exact .once hf ha

theorem asks_acquireRemote (d : Descriptor) (world : World) :
    ∃ left, Asks d world (acquireRemote.run (d, world)).2.1.fetcher left ∧
      World.Decoded left (acquireRemote.run (d, world)).2.2 := by
  have hasks := asks_fetchRemote d world
  rw [run_acquireRemote]
  generalize fetchRemote.run (d, world) = fetched at hasks ⊢
  obtain ⟨_ | value | _ | _ | _, d', left⟩ := fetched
  · exact ⟨left, hasks, left.decoded_refl⟩
  · obtain ⟨hfetcher, hdecoded⟩ := decoded_finish { d' with state := .onDisk } (some value) left
    refine ⟨left, ?_, hdecoded⟩
    rw [hfetcher]
    exact hasks
  · exact ⟨left, hasks, left.decoded_refl⟩
  · exact ⟨left, hasks, left.decoded_refl⟩
  · exact ⟨left, hasks, left.decoded_refl⟩

theorem asks_getTile (d : Descriptor) (world : World) :
    ∃ left, Asks d world (getTile.run (d, world)).2.1.fetcher left ∧
      World.Decoded left (getTile.run (d, world)).2.2 := by
  rw [run_getTile]
  cases d.settled? with
  | some answer => exact ⟨world, .idle, world.decoded_refl⟩
  | none =>
    cases d.probed world.files with
    | error fault => exact ⟨world, .idle, world.decoded_refl⟩
    | ok state =>
      -- What the descriptor is known by does not change with its state.
      have hstate : ∀ {fetcher left}, Asks { d with state } world fetcher left →
          Asks d world fetcher left := by
        intro fetcher left hasks
        cases hasks with
        | idle => exact .idle
        | once hf ha => exact .once hf ha
        | cleaned hf ha hunlink => exact .cleaned hf ha hunlink
      dsimp only
      split
      · split
        · obtain ⟨left, hasks, hdecoded⟩ := asks_acquireRemote { d with state } world
          exact ⟨left, hstate hasks, hdecoded⟩
        · exact ⟨world, .idle, world.decoded_refl⟩
      · obtain ⟨hfetcher, hdecoded⟩ := decoded_finish { d with state } none world
        refine ⟨world, ?_, hdecoded⟩
        rw [hfetcher]
        exact .idle

end Descriptor

end TerrainTiles
