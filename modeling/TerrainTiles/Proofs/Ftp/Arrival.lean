import TerrainTiles.Proofs.Ftp.Course

/-!
# Archives that arrive over FTP

Where a file can be written, a fetch succeeds if the session that is held, or one
that can be opened, lists the archive and the transfer brings all of it, of the
listed size if one is listed (`fetch_arrives`). A session can be opened with a
server that accepts it and whose directory can be listed, with or without facts
(`Server.Lists`).
-/

namespace TerrainTiles.Ftp

open Act

structure Server.Lists (server : Server) (directory : String) (listing : Listing) : Prop where
  connect : server.connect = none
  login : server.login = none
  passive : server.passive = none
  command : server.command = none
  listed : server.listed directory = .ok listing

theorem Server.Lists.refusal_eq_none {server : Server} {directory : String} {listing : Listing}
    (h : server.Lists directory listing) : server.refusal = none := by
  simp [refusal, h.connect, h.login, h.passive, h.command]

theorem Transfer.Whole.ending_eq {transfer : Transfer} {listing : Listing} {name : String}
    (h : transfer.Whole listing name) : transfer.ending (listing.size? name) = .ok .ok := by
  have hsize : ∀ size ∈ listing.size? name, (transfer.chunks.flatten.length : Int) = size :=
    fun size hs => h.measured size (Listing.size?_eq_some_iff.mp hs)
  simp only [ending, h.unbroken, if_pos hsize]

namespace Fetcher

variable {s : Fetcher × World} {path : Path} {c : Connection} {listing : Listing}

/-- The connection and the listing that a fetch uses: those of the session that is
held, or of one that can be opened. -/
inductive Reaches (f : Fetcher) (world : World) (c : Connection) (listing : Listing) : Prop where
  | held {session : Session} (h : f.session = some session) (hl : f.listing = some listing)
      (hc : session.connection = some c)
  | anew (h : f.session = none)
      (hc : c = Session.connecting { host := f.host, channel := f.channel } world)
      (hl : c.server.Lists f.directory listing)

theorem Reaches.record {f : Fetcher} {world : World} (h : f.Reaches world c listing)
    (event : Event) : f.Reaches (world.record event) c listing := by
  cases h with
  | held h hl hc => exact .held h hl hc
  | anew h hc hl =>
    refine .anew h (hc.trans ?_) hl
    unfold Session.connecting World.nextServer World.record
    dsimp only
    split <;> rfl

theorem run_open (h : s.1.Reaches s.2 c listing) :
    ∃ session f left, Fetcher.open.run s = (.ok session, f, left) ∧ f.listing = some listing ∧
      session.connection = some c := by
  cases h with
  | @held session h hl hc => exact ⟨session, s.1, s.2, run_open_held h, hl, hc⟩
  | anew h hc hl =>
    obtain ⟨asked, -, hopen⟩ := run_open_anew h
    have hc : s.1.newSession.connecting s.2 = c := hc.symm
    rw [hc] at hopen
    simp only [hl.refusal_eq_none, hl.listed] at hopen
    exact ⟨_, _, asked, hopen, rfl, rfl⟩

/-- A fetch that finds the archive listed and gets all of it puts it at the path. -/
theorem fetch_arrives (hroom : s.2.files.Receptive path) (h : s.1.Reaches s.2 c listing)
    (hlisted : listing.lookup path.name ≠ none)
    (hw : (c.server.transfer c.transfers (s.1.remoteFile path.name)).Whole listing path.name) :
    ∃ t, (fetch path).run s = (.ok (.success path), t) ∧ t.2.files.content? path =
      some (c.server.transfer c.transfers (s.1.remoteFile path.name)).chunks.flatten := by
  obtain ⟨session, f, opened, hopen, hl, hc⟩ := run_open h
  have hsizes : f.sizes = listing := by simp [sizes, hl]
  have hfiles : opened.files = s.2.files := by
    have hquiet := (keeps_open s).2
    rw [hopen] at hquiet
    exact hquiet.files
  obtain ⟨loc, files, hholds, hrun⟩ := run_fetch_listed hopen hc
    (hsizes ▸ Listing.contains_iff.mpr hlisted) (hfiles ▸ hroom)
  simp only [hsizes, hw.ending_eq] at hrun
  exact ⟨_, hrun, hholds.content?⟩

end Fetcher

end TerrainTiles.Ftp
