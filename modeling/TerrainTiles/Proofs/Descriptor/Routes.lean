import TerrainTiles.Proofs.Archive.Naming
import TerrainTiles.Proofs.Descriptor.Reacquire
import TerrainTiles.Proofs.Descriptor.Work
import TerrainTiles.Proofs.Ftp.Arrival
import TerrainTiles.Proofs.Http.Arrival

/-!
# Routes to a tile

A tile's content can be found as a plain file, inside an archive beside it, or inside
an archive that is fetched over HTTP or FTP (`Supplied`). What comes of it is decided
by the decoder's answer for the content alone (`answers_of_supplied`), so the route
does not matter (`same_by_every_route`).

An archive has to be named as one for that: where the template gives a name that is
nothing but the archive's ending, its bytes are decoded as if they were the tile's
(`unread_mere_ending`).
-/

namespace TerrainTiles.Descriptor

open Act

def settledBy (answer : Except Fault (Option Tile)) : State × Option Tile :=
  match answer with
  | .ok (some tile) => (.ready, some tile)
  | .ok none => (.absent, none)
  | .error _ => (.localError, none)

/-- The tile's content can be had: it is the plain file's, or it is in an archive that
is there or that the fetcher can bring, where neither file is. -/
inductive Supplied (copy : LocalCopy) (content : Bytes) : Option Fetcher → World → Prop where
  | plain {fetcher : Option Fetcher} {world : World}
      (hfile : world.files.content? copy.plain = some content) :
      Supplied copy content fetcher world
  | archive {fetcher : Option Fetcher} {world : World} {path : Path} {data : Bytes}
      (ha : copy.archive = .ok path) (hplain : world.files.isFile copy.plain = false)
      (hfile : world.files.content? path = some data)
      (hc : Archive.Carries world.decoder.unpacker data path copy.plain.name content) :
      Supplied copy content fetcher world
  | http {f : Http.Fetcher} {world : World} {path : Path} {response : Http.Response}
      {interrupted rest : List Http.Reply}
      (ha : copy.archive = .ok path) (hnone : copy.locate world.files = .ok none)
      (hroom : world.files.Receptive path)
      (hreplies : world.replies f.channel = interrupted ++ .answered response :: rest)
      (hi : ∀ reply ∈ interrupted, reply.Interrupts (f.describe path.name))
      (hn : interrupted.length ≤ Http.waits.length)
      (hr : response.statusFault? (f.describe path.name) = none) (hw : response.Whole)
      (hc : Archive.Carries world.decoder.unpacker response.chunks.flatten path
        copy.plain.name content) :
      Supplied copy content (some (.http f)) world
  | ftp {f : Ftp.Fetcher} {world : World} {path : Path} {c : Ftp.Connection}
      {listing : Ftp.Listing} {transfer : Ftp.Transfer}
      (ha : copy.archive = .ok path) (hnone : copy.locate world.files = .ok none)
      (hroom : world.files.Receptive path) (hreaches : f.Reaches world c listing)
      (hlisted : listing.lookup path.name ≠ none)
      (ht : c.server.transfer c.transfers (f.remoteFile path.name) = transfer)
      (hw : transfer.Whole listing path.name)
      (hc : Archive.Carries world.decoder.unpacker transfer.chunks.flatten path
        copy.plain.name content) :
      Supplied copy content (some (.ftp f)) world

variable {f : Reader} {copy : LocalCopy} {content : Bytes} {fetcher : Option Fetcher}
  {d : Descriptor} {world : World} {path : Path} {preferred : Option Path}

def Answers (answer : Except Fault (Option Tile))
    (ended : Except Fault (Option Loan) × (Descriptor × World)) : Prop :=
  ended.1.map (·.map (·.tile)) = .ok (settledBy answer).2 ∧
    ended.2.1.state = (settledBy answer).1

-- ---------------------------------------------------------------------------
-- Decoding
-- ---------------------------------------------------------------------------

theorem answers_finish (hd : world.decoder = .deterministic f)
    (hchosen : d.chosen preferred world.files = .ok (some path)) :
    Answers (decodedAt f world.files path d.tileName) ((finish preferred).run (d, world)) := by
  obtain ⟨answer, left, hrun, -, hanswer⟩ := run_decodeFile d path world
  rw [← hanswer f hd, run_finish_eq, hchosen]
  dsimp only
  rw [hrun]
  rcases answer with fault | _ | tile
  · exact ⟨rfl, rfl⟩
  · exact ⟨rfl, rfl⟩
  · exact ⟨rfl, rfl⟩

theorem decodedAt_plain (hs : Archive.hasArchiveSuffix path = false)
    {files : FileSystem} (hfile : files.content? path = some content) (tile : String) :
    decodedAt f files path tile = f content tile := by
  simp [decodedAt, hs, hfile]

theorem decodedAt_archive (hs : Archive.hasArchiveSuffix path) {files : FileSystem} {data : Bytes}
    (hfile : files.content? path = some data) {tile : String}
    (hc : Archive.Carries f.unpacker data path tile content) :
    decodedAt f files path tile = f content tile := by
  simp [decodedAt, hs, Archive.readTile_of_carries hs hfile hc, bind, Except.bind]

theorem isFile_of_content? {files : FileSystem} (h : files.content? path = some content) :
    files.isFile path := by
  unfold FileSystem.content? at h
  unfold FileSystem.isFile
  rcases hat : files.at? path with - | (_ | file)
  all_goals simp only [hat, reduceCtorEq] at h ⊢

theorem locate_plain {files : FileSystem} (h : files.content? copy.plain = some content) :
    copy.locate files = .ok (some copy.plain) := by
  simp [LocalCopy.locate, LocalCopy.plainExists, isFile_of_content? h, pure, Except.pure]

theorem locate_archive {files : FileSystem} {data : Bytes} (ha : copy.archive = .ok path)
    (hplain : files.isFile copy.plain = false) (h : files.content? path = some data) :
    copy.locate files = .ok (some path) := by
  simp [LocalCopy.locate, LocalCopy.plainExists, hplain, ha, isFile_of_content? h, bind,
    Except.bind, pure, Except.pure]

-- ---------------------------------------------------------------------------
-- Routes
-- ---------------------------------------------------------------------------

theorem answers_located (hd : world.decoder = .deterministic f)
    (hl : copy.locate world.files = .ok (some path)) (fetcher : Option Fetcher) :
    Answers (decodedAt f world.files path copy.plain.name)
      (getTile.run (fresh copy fetcher, world)) := by
  rw [run_getTile_located rfl rfl hl]
  exact answers_finish (d := { fresh copy fetcher with state := .onDisk }) hd hl

/-- What was fetched is decoded, since it is preferred to any other file. -/
theorem answers_fetched (hd : world.decoder = .deterministic f) {fetcher fetcher' : Fetcher}
    (ha : copy.archive = .ok path) (hl : copy.locate world.files = .ok none) {left : World}
    (hasked : asked fetcher path world = (.ok (.success path), fetcher', left)) {data : Bytes}
    (hfile : left.files.content? path = some data) (hs : Archive.hasArchiveSuffix path)
    (hc : Archive.Carries f.unpacker data path copy.plain.name content) :
    Answers (f content copy.plain.name) (getTile.run (fresh copy (some fetcher), world)) := by
  have hprobed : (fresh copy (some fetcher)).probed world.files = .ok .remote := by
    simp [probed, fresh, LocalCopy.isPresent, hl, Except.map]
  have hdecoder : left.decoder = .deterministic f := by
    have hframe := (asked_frame fetcher path world).2.2
    rw [hasked] at hframe
    exact hframe.trans hd
  rw [run_getTile_fetched ⟨rfl, .remote, hprobed, .inl rfl⟩ rfl rfl ha hasked,
    ← decodedAt_archive (f := f) hs hfile hc]
  refine answers_finish (d := { fresh copy (some fetcher) with
    fetcher := some fetcher', state := .onDisk }) hdecoder ?_
  simp [chosen, Option.filter, isFile_of_content? hfile]

theorem answers_of_supplied (hd : world.decoder = .deterministic f)
    (hplain : Archive.hasArchiveSuffix copy.plain = false)
    (harchive : ∀ path, copy.archive = .ok path → Archive.hasArchiveSuffix path)
    (h : Supplied copy content fetcher world) :
    Answers (f content copy.plain.name) (getTile.run (fresh copy fetcher, world)) := by
  have hunpacker : world.decoder.unpacker = f.unpacker := by rw [hd, Decoder.unpacker]
  cases h with
  | plain hfile =>
    rw [← decodedAt_plain (f := f) hplain hfile copy.plain.name]
    exact answers_located hd (locate_plain hfile) fetcher
  | archive ha hnone hfile hc =>
    rw [hunpacker] at hc
    rw [← decodedAt_archive (f := f) (harchive _ ha) hfile hc]
    exact answers_located hd (locate_archive ha hnone hfile) fetcher
  | @http g _ path response interrupted rest ha hnone hroom hreplies hi hn hr hw hc =>
    obtain ⟨t, hrun, hcontent⟩ := Http.Fetcher.fetch_arrives
      (s := (g, world.record (.fetchBegun path))) hroom hreplies hi hn hr hw
    have hasked : asked (.http g) path world = (.ok (.success path), .http t.1, t.2) :=
      congrArg (Fetcher.dispatch.lift Fetcher.http) hrun
    exact answers_fetched hd ha hnone hasked hcontent (harchive _ ha) (hunpacker ▸ hc)
  | @ftp g _ path c listing transfer ha hnone hroom hreaches hlisted ht hw hc =>
    subst ht
    obtain ⟨t, hrun, hcontent⟩ := Ftp.Fetcher.fetch_arrives
      (s := (g, world.record (.fetchBegun path))) hroom (hreaches.record _) hlisted hw
    have hasked : asked (.ftp g) path world = (.ok (.success path), .ftp t.1, t.2) :=
      congrArg (Fetcher.dispatch.lift Fetcher.ftp) hrun
    exact answers_fetched hd ha hnone hasked hcontent (harchive _ ha) (hunpacker ▸ hc)

/-- What comes of a tile's content is the same by every route, for all templates that
name archives: the tile and its state, or that there is none or that the content cannot
be read. -/
theorem same_by_every_route (f : Reader) (content : Bytes) (name : String) :
    ∃ (state : State) (tile : Option Tile),
      (state = .ready ∨ state = .absent ∨ state = .localError) ∧
      ∀ copy fetcher world, copy.plain.name = name →
        Archive.hasArchiveSuffix copy.plain = false → ".zip".toList <:+ copy.template.toList →
        (∀ path, copy.archive = .ok path → path.name ≠ ".zip") →
        world.decoder = .deterministic f → Supplied copy content fetcher world →
          let ended := getTile.run (fresh copy fetcher, world)
          ended.1.map (·.map (·.tile)) = .ok tile ∧ ended.2.1.state = state := by
  refine ⟨(settledBy (f content name)).1, (settledBy (f content name)).2, ?_, ?_⟩
  · rcases f content name with fault | _ | tile
    · exact .inr (.inr rfl)
    · exact .inr (.inl rfl)
    · exact .inl rfl
  · rintro copy fetcher world rfl hplain htemplate hname hd hsupplied
    exact answers_of_supplied hd hplain
      (fun path ha => Archive.hasArchiveSuffix_archive htemplate ha (hname path ha)) hsupplied

def decodeOne : Reader where
  decode data name :=
    if data = [1] then
      .ok (Raster.decode ⟨.int16, [[250]], none, ⟨1, 0, 0, 0, -1, 0⟩, none⟩ name)
    else .error .unreadableRaster
  unpacker := .oneBlock

def shelf (files : List (String × Bytes)) : World where
  files := ⟨(["d"], .directory) :: files.map fun (name, data) => (["d", name], .file data)⟩
  decoder := .deterministic decodeOne

def zipped (name : String) : Bytes :=
  Archive.write [{ name := "readme", content := [0] }, { name, content := [1] }]

/-- An archive of the byte 1, deflated, under the name, and of something else. -/
def deflated (name : String) : Bytes :=
  Archive.write [{ name := "readme", content := [0] },
    { name, content := [1, 1, 0, 0xfe, 0xff, 1], crc := Archive.checksum [1], method := 8, size := 1 }]

def inTwoChunks : Http.Response where
  headers := [("Content-Length", "203")]
  chunks := [(deflated "T.tif").take 5, (deflated "T.tif").drop 5]

/-- The byte 1 as the content of `T.tif` by four routes, the remote ones with deflated
archives; the first connection fails. -/
def routes : List (Option Fetcher × World) :=
  [(none, shelf [("T.tif", [1])]),
   (none, shelf [("T.zip", zipped "t.tif")]),
   (some (.http { base := "http://host", channel := 0 }),
     { shelf [] with replies := fun _ => [.failed Http.noRoute, .answered inTwoChunks] }),
   (some (.ftp { host := "host", directory := "/d", channel := 0 }), { shelf [] with
     servers := fun _ => [{
       names := .ok ["T.zip"], sizes := [("/d/T.zip", .ok none)]
       files := fun _ => [("/d/T.zip", { chunks := [deflated "T/T.tif"] })] }] })]

theorem supplied_routes :
    ∀ s ∈ routes, Supplied { plain := ⟨.root, ["d", "T.tif"]⟩ } [1] s.1 s.2 := by
  have ha : LocalCopy.archive { plain := ⟨.root, ["d", "T.tif"]⟩ } = .ok ⟨.root, ["d", "T.zip"]⟩ :=
    rfl
  intro s hs
  simp only [routes, List.mem_cons, List.not_mem_nil, or_false] at hs
  rcases hs with rfl | rfl | rfl | rfl
  · exact .plain (by decide +kernel)
  · exact .archive ha (by decide +kernel) rfl (by decide +kernel)
  · have hreplies : [Http.Reply.failed Http.noRoute, .answered inTwoChunks] =
        [.failed Http.noRoute] ++ .answered inTwoChunks :: [] := rfl
    have hlength : inTwoChunks.chunks.flatten.length = 203 := by decide +kernel
    refine .http ha rfl ⟨rfl, ⟨_, rfl⟩⟩ hreplies ?_ (by decide) rfl ⟨rfl, ?_⟩ (by decide +kernel)
    · simpa using .refused rfl rfl
    · rw [hlength]
      intro text htext
      obtain rfl : "203" = text := by simpa [inTwoChunks, Http.Response.header?] using htext
      exact fun _ => rfl
  · exact .ftp ha rfl ⟨rfl, ⟨_, rfl⟩⟩ (.anew rfl rfl ⟨rfl, rfl, rfl, rfl, rfl⟩)
      (by decide +kernel) rfl ⟨rfl, nofun⟩ (by decide +kernel)

theorem same_by_every_route_brought :
    ∃ state tile, ∀ s ∈ routes,
      let ended := getTile.run (fresh { plain := ⟨.root, ["d", "T.tif"]⟩ } s.1, s.2)
      ended.1.map (·.map (·.tile)) = .ok tile ∧ ended.2.1.state = state := by
  obtain ⟨state, tile, -, hsame⟩ := same_by_every_route decodeOne [1] "T.tif"
  have ha : LocalCopy.archive { plain := ⟨.root, ["d", "T.tif"]⟩ } = .ok ⟨.root, ["d", "T.zip"]⟩ :=
    rfl
  refine ⟨state, tile, fun s hs => hsame _ s.1 s.2 rfl (by decide +kernel) ?_ ?_ ?_
    (supplied_routes s hs)⟩
  · exact ⟨"\x7bstem\x7d".toList, rfl⟩
  · intro path hpath
    obtain rfl := Except.ok.inj (hpath.symm.trans ha)
    decide +kernel
  · simp only [routes, List.mem_cons, List.not_mem_nil, or_false] at hs
    rcases hs with rfl | rfl | rfl | rfl <;> rfl

/-- Where the template is the mere ending, the plain file gives the tile, and the archive
that holds the same content is read as if it were the content. -/
theorem unread_mere_ending :
    let copy : LocalCopy := { plain := ⟨.root, ["d", "t.tif"]⟩, template := ".zip" }
    let plain := shelf [("t.tif", [1])]
    let archived := shelf [(".zip", zipped "t.tif")]
    Archive.hasArchiveSuffix copy.plain = false ∧ ".zip".toList <:+ copy.template.toList ∧
      Supplied copy [1] none plain ∧ Supplied copy [1] none archived ∧
      (getTile.run (fresh copy none, plain)).2.1.state = .ready ∧
      (getTile.run (fresh copy none, archived)).2.1.state = .localError := by
  have ha : LocalCopy.archive { plain := ⟨.root, ["d", "t.tif"]⟩, template := ".zip" } =
      .ok ⟨.root, ["d", ".zip"]⟩ := rfl
  refine ⟨by decide +kernel, List.suffix_rfl, ?_, ?_, by decide +kernel, by decide +kernel⟩
  · exact .plain (by decide +kernel)
  · exact .archive ha (by decide +kernel) rfl (by decide +kernel)

end TerrainTiles.Descriptor
