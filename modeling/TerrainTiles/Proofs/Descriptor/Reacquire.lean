import TerrainTiles.Archive.Stored
import TerrainTiles.Proofs.Descriptor.Call

/-!
# What disposing loses

With a deterministic decoder, a cached tile is what some local copy decodes to,
and stays so until it is disposed of (`Backed`). Acquiring again asks no remote
place. It starts from the plain file though, even where the tile came out of an
archive that was fetched because the plain file could not be decoded, so it gives
the same tile exactly if the plain file, where there is one, decodes to it
(`reacquire_iff`).
-/

namespace TerrainTiles.Descriptor

open Act

variable {f : Reader} {d : Descriptor} {world : World}
  {s : Descriptor × World} {path : Path} {tile : Tile}

/-- One of the descriptor's two files is there and decodes to the tile. -/
def Decodes (f : Reader) (d : Descriptor) (files : FileSystem) (tile : Tile) : Prop :=
  ∃ path, (path = d.copy.plain ∨ d.copy.archive = .ok path) ∧ files.isFile path ∧
    decodedAt f files path d.tileName = .ok (some tile)

structure Backed (f : Reader) (s : Descriptor × World) : Prop where
  decoder : s.2.decoder = .deterministic f
  state : ∀ loan, s.1.cached = some loan → s.1.state = .ready
  decodes : ∀ loan, s.1.cached = some loan → Decodes f s.1 s.2.files loan.tile

theorem backed_of_none (hd : s.2.decoder = .deterministic f) (hc : s.1.cached = none) :
    Backed f s :=
  ⟨hd, by simp [hc], by simp [hc]⟩

-- ---------------------------------------------------------------------------
-- Calls
-- ---------------------------------------------------------------------------

theorem chosen_some {preferred : Option Path} {files : FileSystem}
    (hpreferred : ∀ p, preferred = some p → d.copy.archive = .ok p)
    (h : d.chosen preferred files = .ok (some path)) :
    (path = d.copy.plain ∨ d.copy.archive = .ok path) ∧ files.isFile path := by
  unfold chosen at h
  split at h
  · next p hp =>
    cases h
    obtain ⟨hsome, hfile⟩ := Option.filter_eq_some_iff.mp hp
    exact ⟨.inr (hpreferred _ hsome), hfile⟩
  · obtain ⟨hfile, hplain | ⟨-, ha⟩⟩ := locate_some h
    · exact ⟨.inl hplain, hfile⟩
    · exact ⟨.inr ha, hfile⟩

theorem backed_finish (hd : world.decoder = .deterministic f) {preferred : Option Path}
    (hc : d.cached = none) (hpreferred : ∀ p, preferred = some p → d.copy.archive = .ok p) :
    Backed f ((finish preferred).run (d, world)).2 := by
  obtain ⟨result, d', left, hrun, hreading, hfinished⟩ := run_finish d preferred world
  rw [hrun]
  have hleft := hreading.decoder f hd
  cases hfinished with
  | nameless => exact backed_of_none hleft hc
  | empty => exact backed_of_none hleft rfl
  | @lent path tile hchosen hdecoded =>
    obtain ⟨hpath, hfile⟩ := chosen_some hpreferred hchosen
    refine ⟨hleft, fun _ _ => rfl, ?_⟩
    rintro loan ⟨⟩
    refine ⟨path, hpath, ?_⟩
    rw [hreading.files]
    exact ⟨hfile, hdecoded f hd⟩

theorem backed_acquireRemote (hd : world.decoder = .deterministic f) (hc : d.cached = none) :
    Backed f (acquireRemote.run (d, world)).2 := by
  obtain ⟨result, fetcher, left, hrun, -, -, hdecoder, hvalue⟩ := fetchRemote_frame d world
  have hleft := hdecoder.trans hd
  rw [run_acquireRemote, hrun]
  rcases result with fault | value | _ | _ | _
  · exact backed_of_none hleft hc
  · refine backed_finish hleft hc ?_
    rintro _ ⟨⟩
    exact hvalue value rfl
  · exact backed_of_none hleft hc
  · exact backed_of_none hleft hc
  · exact backed_of_none hleft hc

theorem backed_getTile (h : Backed f (d, world)) : Backed f (getTile.run (d, world)).2 := by
  rw [run_getTile]
  cases hs : d.settled? with
  | some answer => exact h
  | none =>
    have hc := cached_of_settled_none hs
    cases d.probed world.files with
    | error fault => exact h
    | ok state =>
      dsimp only
      split
      · split
        · exact backed_acquireRemote h.decoder hc
        · exact backed_of_none h.decoder hc
      · exact backed_finish h.decoder hc (by simp)

theorem backed_call (h : Backed f s) (call : Call) : Backed f (call.after s) := by
  obtain ⟨d, world⟩ := s
  cases call with
  | getTile => exact backed_getTile h
  | dispose =>
    change Backed f (dispose.run (d, world)).2
    rw [run_dispose]
    exact backed_of_none ((closed_frame d world).2.decoder.trans h.decoder) rfl
  | disableRemote => exact ⟨h.decoder, h.state, h.decodes⟩

theorem backed_afterAll (h : Backed f s) (calls : List Call) : Backed f (afterAll calls s) := by
  induction calls generalizing s with
  | nil => exact h
  | cons call rest ih => exact ih (backed_call h call)

-- ---------------------------------------------------------------------------
-- Acquiring again
-- ---------------------------------------------------------------------------

theorem locate_of_decodes {files : FileSystem} (h : Decodes f d files tile) :
    ∃ path, d.copy.locate files = .ok (some path) ∧
      (decodedAt f files path d.tileName = .ok (some tile) ↔
        (files.isFile d.copy.plain →
          decodedAt f files d.copy.plain d.tileName = .ok (some tile))) := by
  obtain ⟨path, hpath, hfile, hdecoded⟩ := h
  cases hplain : files.isFile d.copy.plain with
  | true =>
    refine ⟨d.copy.plain, ?_, by simp⟩
    simp [LocalCopy.locate, LocalCopy.plainExists, hplain, pure, Except.pure]
  | false =>
    rcases hpath with rfl | ha
    · rw [hplain] at hfile
      cases hfile
    · refine ⟨path, ?_, by simp [hdecoded]⟩
      simp [LocalCopy.locate, LocalCopy.plainExists, hplain, ha, hfile, bind, Except.bind, pure,
        Except.pure]

theorem run_getTile_located (hc : d.cached = none) (hs : d.state = .unknown)
    (hl : d.copy.locate world.files = .ok (some path)) :
    getTile.run (d, world) = (finish none).run ({ d with state := .onDisk }, world) := by
  have hsettled : d.settled? = none := by simp [settled?, hc, hs]
  have hprobed : d.probed world.files = .ok .onDisk := by
    simp [probed, hs, LocalCopy.isPresent, hl, Except.map]
  rw [run_getTile, hsettled, hprobed]
  rfl

theorem reacquire (hd : world.decoder = .deterministic f) (hc : d.cached = none)
    (hs : d.state = .unknown) (h : Decodes f d world.files tile) :
    World.Reading world (getTile.run (d, world)).2.2 ∧
      ((∃ loan, (getTile.run (d, world)).1 = .ok (some loan) ∧ loan.tile = tile) ↔
        (world.files.isFile d.copy.plain →
          decodedAt f world.files d.copy.plain d.tileName = .ok (some tile))) := by
  obtain ⟨path, hlocate, hplain⟩ := locate_of_decodes h
  obtain ⟨result, d', left, hrun, hreading, hfinished⟩ :=
    run_finish { d with state := .onDisk } none world
  rw [run_getTile_located hc hs hlocate, hrun, ← hplain]
  refine ⟨hreading, ?_⟩
  have hchosen : ({ d with state := .onDisk } : Descriptor).chosen none world.files =
      .ok (some path) := hlocate
  cases hfinished with
  | nameless hother => rw [hchosen] at hother; cases hother
  | empty hother _ hdecoded =>
    rw [hchosen] at hother
    cases hother
    refine iff_of_false (by simp) (hdecoded f path tile hd rfl)
  | lent hother hdecoded =>
    rw [hchosen] at hother
    cases hother
    have hdecoded := hdecoded f hd
    constructor
    · rintro ⟨_, ⟨⟩, rfl⟩
      exact hdecoded
    · intro hsame
      refine ⟨_, rfl, ?_⟩
      rw [show decodedAt f world.files path d.tileName = _ from hdecoded] at hsame
      cases hsame
      rfl

/-- A tile that was disposed of comes again without a fetch, and the same, unless
there is a plain file that decodes to something else. -/
theorem reacquire_iff (hfresh : s.1.cached = none) (hd : s.2.decoder = .deterministic f)
    (calls : List Call) {loan : Loan} (hcached : (afterAll calls s).1.cached = some loan) :
    let before := afterAll calls s
    let answer := getTile.run (dispose.run before).2
    World.Records (fun event => event.isFetch = false) before.2 answer.2.2 ∧
      ((∃ loan', answer.1 = .ok (some loan') ∧ loan'.tile = loan.tile) ↔
        (before.2.files.isFile before.1.copy.plain →
          decodedAt f before.2.files before.1.copy.plain before.1.tileName =
            .ok (some loan.tile))) := by
  -- Nothing is cached at the start, so the invariant holds there for want of a tile.
  have hbacked := backed_afterAll (backed_of_none hd hfresh) calls
  revert hcached hbacked
  rcases afterAll calls s with ⟨d, world⟩
  intro hcached hbacked
  have hquiet := (closed_frame d world).2
  have hdecoder := hquiet.decoder.trans hbacked.decoder
  have hdecodes := hbacked.decodes loan hcached
  dsimp only at hcached hdecodes ⊢
  rw [run_dispose]
  rw [← hquiet.files] at hdecodes ⊢
  obtain ⟨hreading, hiff⟩ := reacquire (d := { d with
      fetcher := (d.closed world).1, cached := none,
      state := if d.state = .ready then .unknown else d.state })
    hdecoder rfl (if_pos (hbacked.state loan hcached)) hdecodes
  refine ⟨World.Records.trans (hquiet.events.mono fun _ h => h.1) hreading.events, hiff⟩

/-- A descriptor whose fetcher brings a good archive, with or without a plain
file; the only content that is a raster is the byte 1. -/
def restored (plain : Option Bytes) : Descriptor × World :=
  ({ copy := { plain := ⟨.root, ["dem", "t.tif"]⟩ },
     fetcher := some (.scripted { steps :=
       [{ write := some (Archive.write [{ name := "t.tif", content := [1] }]) }] }) },
   { files := ⟨(["dem"], .directory) ::
       plain.toList.map fun content => (["dem", "t.tif"], .file content)⟩
     decoder := .ofRasters fun data =>
       if data = [1] then some ⟨.int16, [[250]], none, ⟨1, 0, 0, 0, -1, 0⟩, none⟩ else none })

def Returns (plain : Option Bytes) : Prop :=
  let before := afterAll [.getTile, .disableRemote] (restored plain)
  ∃ loan, before.1.cached = some loan ∧
    ∃ loan', (getTile.run (dispose.run before).2).1 = .ok (some loan') ∧ loan'.tile = loan.tile

/-- The tile comes again from the archive, and from a plain file that decodes to it. -/
theorem reacquire_iff_restored :
    (restored none).1.cached = none ∧ (restored (some [1])).1.cached = none ∧
      (∃ f, (restored none).2.decoder = .deterministic f ∧
        (restored (some [1])).2.decoder = .deterministic f) ∧
      Returns none ∧ Returns (some [1]) := by
  obtain ⟨f, hf⟩ : ∃ f, ∀ plain, (restored plain).2.decoder = .deterministic f :=
    ⟨_, fun _ => rfl⟩
  refine ⟨rfl, rfl, ⟨f, hf _, hf _⟩, ?archive, ?plain⟩
  case archive =>
    have hcached : (afterAll [.getTile, .disableRemote] (restored none)).1.cached.isSome := by
      decide +kernel
    have hplain : (afterAll [.getTile, .disableRemote] (restored none)).2.files.isFile
        (afterAll [.getTile, .disableRemote] (restored none)).1.copy.plain = false := by
      decide +kernel
    obtain ⟨loan, hloan⟩ := Option.isSome_iff_exists.mp hcached
    refine ⟨loan, hloan, (reacquire_iff rfl (hf none) [.getTile, .disableRemote] hloan).2.mpr ?_⟩
    rw [hplain]
    rintro ⟨⟩
  case plain =>
    have hcached : (afterAll [.getTile, .disableRemote] (restored (some [1]))).1.cached.isSome := by
      decide +kernel
    have hnone : let s := afterAll [.getTile, .disableRemote] (restored (some [1]))
        s.1.copy.archive.toOption.all fun path => !s.2.files.isFile path := by
      decide +kernel
    obtain ⟨loan, hloan⟩ := Option.isSome_iff_exists.mp hcached
    refine ⟨loan, hloan,
      (reacquire_iff rfl (hf (some [1])) [.getTile, .disableRemote] hloan).2.mpr ?_⟩
    have hdecodes := (backed_afterAll (backed_of_none (hf (some [1])) rfl)
      [.getTile, .disableRemote]).decodes loan hloan
    -- There is no archive, so it was the plain file that was decoded.
    generalize afterAll [.getTile, .disableRemote] (restored (some [1])) = s at hnone hdecodes ⊢
    obtain ⟨path, rfl | ha, hfile, hdecoded⟩ := hdecodes
    · exact fun _ => hdecoded
    · simp [ha, hfile, Except.toOption] at hnone

/-- Where the plain file is broken, the tile that was cached does not come again. -/
theorem lost_restored :
    ∃ loan, (afterAll [.getTile, .getTile] (restored (some [0]))).1.cached = some loan ∧
      ¬ ∃ loan', (getTile.run (dispose.run
          (afterAll [.getTile, .getTile] (restored (some [0])))).2).1 = .ok (some loan') ∧
        loan'.tile = loan.tile := by
  have hcached : (afterAll [.getTile, .getTile] (restored (some [0]))).1.cached.isSome := by
    decide +kernel
  have hlost : (getTile.run (dispose.run
      (afterAll [.getTile, .getTile] (restored (some [0])))).2).1.toOption.all Option.isNone := by
    decide +kernel
  obtain ⟨loan, hloan⟩ := Option.isSome_iff_exists.mp hcached
  refine ⟨loan, hloan, ?_⟩
  rintro ⟨loan', hloan', -⟩
  rw [hloan'] at hlost
  cases hlost

end TerrainTiles.Descriptor
