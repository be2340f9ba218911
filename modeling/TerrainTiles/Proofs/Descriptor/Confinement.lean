import TerrainTiles.Proofs.Descriptor.Call
import TerrainTiles.Proofs.Fetcher.Confinement

/-!
# Acquiring a tile stays in its realm

A tile is kept in a realm if its plain file and its archive are files of the realm.
With a fetcher of the realm, acquiring such a tile and letting go of it are confined
to the realm (`confined_getTile`, `confined_dispose`): the descriptor finds, decodes
and answers the same in worlds that look alike from there.
-/

namespace TerrainTiles

open Act

variable {r : Realm} {files files' : FileSystem} {path : Path}

def Realm.Has (r : Realm) (path : Path) : Prop := ∃ name, Path.IsEntry name ∧ path = r.file name

theorem Realm.Has.isFile_eq (h : r.Has path) (ha : r.site.Agrees r.id files files') :
    files'.isFile path = files.isFile path := by
  obtain ⟨name, hname, rfl⟩ := h
  exact ha.isFile_eq r.entry hname

theorem Realm.Has.read_eq (h : r.Has path) (ha : r.site.Agrees r.id files files') :
    files'.read path = files.read path := by
  obtain ⟨name, hname, rfl⟩ := h
  exact ha.read_eq r.entry hname

theorem Archive.readTile_congr (h : files'.read path = files.read path) (tile : String)
    (unpacker : Archive.Unpacker) :
    Archive.readTile files' path tile unpacker = Archive.readTile files path tile unpacker := by
  unfold Archive.readTile
  rw [h]

namespace LocalCopy

variable {copy : LocalCopy}

structure KeptIn (r : Realm) (copy : LocalCopy) : Prop where
  plain : r.Has copy.plain
  archive : ∀ path, copy.archive = .ok path → r.Has path

theorem KeptIn.locate_eq (h : copy.KeptIn r) (ha : r.site.Agrees r.id files files') :
    copy.locate files' = copy.locate files := by
  unfold locate plainExists
  rw [h.plain.isFile_eq ha]
  cases harchive : copy.archive with
  | error => rfl
  | ok path => simp only [bind, Except.bind, (h.archive path harchive).isFile_eq ha]

theorem KeptIn.has_of_locate (h : copy.KeptIn r) (hl : copy.locate files = .ok (some path)) :
    r.Has path := by
  obtain ⟨-, rfl | ⟨-, ha⟩⟩ := Descriptor.locate_some hl
  · exact h.plain
  · exact h.archive path ha

end LocalCopy

namespace Descriptor

variable {preferred : Option Path} {fetcher fetcher' : Fetcher} {d d' : Descriptor}

inductive Same (r : Realm) (d : Descriptor) : Descriptor → Prop
  | intro {fetcher : Option Fetcher}
      (fetchers : Option.Rel (Fetcher.Same r) d.fetcher fetcher) (kept : d.copy.KeptIn r) :
      Same r d { d with fetcher }

theorem Same.remoteEnabled_eq (h : Same r d d') : d'.remoteEnabled = d.remoteEnabled := by
  obtain ⟨hrel, -⟩ := h
  unfold remoteEnabled
  dsimp only
  generalize d.fetcher = held at hrel
  cases hrel <;> rfl

theorem Same.settled?_eq (h : Same r d d') : d'.settled? = d.settled? := by
  obtain ⟨-, -⟩ := h
  rfl

theorem confined_setState (state : State) :
    Confined r (Same r) Eq (setState state) (setState state) :=
  .modifyOwn fun _ _ ⟨hrel, hkept⟩ => ⟨hrel, hkept⟩

theorem confined_giveUp (state : State) (message : String) :
    Confined r (Same r) Eq (giveUp state message) (giveUp state message) := by
  refine (Confined.modifyOwn ?_).bind fun _ _ _ => .pure rfl
  rintro d _ ⟨hrel, hkept⟩
  exact ⟨hrel, hkept⟩

-- ---------------------------------------------------------------------------
-- Fetching
-- ---------------------------------------------------------------------------

def Fetched (r : Realm) (outcome outcome' : Outcome Path) : Prop :=
  outcome' = outcome ∧ ∀ path, outcome = .success path → r.Has path

theorem confined_onFetcher {α : Type} {V : α → α → Prop} {act act' : Act Fetcher α}
    (hf : Fetcher.Same r fetcher fetcher') (h : Confined r (Fetcher.Same r) V act act') :
    Confined r (Same r) V (onFetcher fetcher act) (onFetcher fetcher' act') := by
  refine h.focus ?_ ?_
  · rintro d _ ⟨hrel, -⟩
    generalize d.fetcher = held at hrel
    cases hrel with
    | some h => exact h
    | none => exact hf
  · rintro d _ f f' ⟨-, hkept⟩ hown
    exact ⟨.some hown, hkept⟩

theorem confined_removeArchive : Confined r (Same r) Eq removeArchive removeArchive := by
  rintro ⟨d, world⟩ ⟨_, world'⟩ ⟨hrel, hkept⟩ ht
  rw [run_removeArchive, run_removeArchive]
  dsimp only
  cases ha : d.copy.archive with
  | error fault =>
    have hfault : ∀ files, d.copy.removeArchive files = .error fault := by
      simp [LocalCopy.removeArchive, ha, bind, Except.bind]
    rw [hfault, hfault]
    exact ⟨.error fault, ⟨hrel, hkept⟩, ht, .refl world⟩
  | ok path =>
    obtain ⟨name, hname, rfl⟩ := hkept.archive path ha
    rw [removeArchive_of_archive ha, removeArchive_of_archive (d := { d with fetcher := _ }) ha,
      Realm.file]
    rcases ht.files.unlink r.entry hname with
      ⟨e, hunlink, hunlink'⟩ | ⟨left, left', hunlink, hunlink', hagrees, hbeside⟩
    · rw [hunlink, hunlink']
      exact ⟨.error _, ⟨hrel, hkept⟩, ht, .refl world⟩
    · rw [hunlink, hunlink']
      exact ⟨.ok rfl, ⟨hrel, hkept⟩, ht.withFiles hagrees, .withFiles hbeside⟩

theorem confined_requestArchive (hf : Fetcher.Same r fetcher fetcher') :
    Confined r (Same r) (Fetched r) (requestArchive fetcher) (requestArchive fetcher') := by
  refine Confined.own.bind ?_
  rintro d _ ⟨-, hkept⟩
  have harchive : Ends (fun path path' => path' = path ∧ r.Has path) d.copy.archive
      d.copy.archive := by
    cases ha : d.copy.archive with
    | error fault => exact .error fault
    | ok path => exact .ok ⟨rfl, hkept.archive path ha⟩
  refine (Confined.ofExcept harchive).bind ?_
  rintro _ _ ⟨rfl, name, hname, rfl⟩
  refine (Confined.emit _ _).bind fun _ _ _ => ?_
  refine (confined_onFetcher hf (Fetcher.confined_fetch hname)).mono ?_
  rintro _ _ ⟨rfl, hvalue⟩
  exact ⟨rfl, fun found h => ⟨name, hname, hvalue found h⟩⟩

theorem confined_fetchRemote :
    Confined r (Same r) (Fetched r) fetchRemote fetchRemote := by
  refine Confined.own.bind ?_
  rintro ⟨copy, _, _, _, _, _, _⟩ _ ⟨hrel, -⟩
  cases hrel with
  | none => exact .pure ⟨rfl, by simp⟩
  | some hf =>
    refine (confined_requestArchive hf).attempt.bind ?_
    rintro _ _ (⟨houtcome⟩ | ⟨fault⟩)
    · exact .pure houtcome
    · exact confined_removeArchive.bind fun _ _ _ => .pure ⟨rfl, by simp⟩

-- ---------------------------------------------------------------------------
-- Decoding
-- ---------------------------------------------------------------------------

theorem confined_decodeFile (hpath : r.Has path) :
    Confined r (Same r) Eq (decodeFile path) (decodeFile path) := by
  refine Confined.own.bind ?_
  rintro d _ ⟨-, -⟩
  refine Confined.files.bind fun files files' ha => ?_
  have hread := hpath.read_eq ha
  have hname : ({ d with fetcher := _ } : Descriptor).tileName = d.tileName := rfl
  refine Confined.unpacker.bind ?_
  rintro unpacker _ rfl
  split
  · rw [Archive.readTile_congr hread]
    refine (Confined.ofExcept (.refl (fun _ => rfl) _)).bind ?_
    rintro data _ rfl
    exact (Confined.emit _ _).bind fun _ _ _ => .decode _ _
  · rw [hread]
    exact (Confined.emit _ _).bind fun _ _ _ => .decode _ _

def Chosen (r : Realm) (chosen chosen' : Option Path) : Prop :=
  chosen' = chosen ∧ ∀ path, chosen = some path → r.Has path

theorem confined_chooseFile (h : ∀ path, preferred = some path → r.Has path) :
    Confined r (Same r) (Chosen r) (chooseFile preferred) (chooseFile preferred) := by
  refine Confined.own.bind ?_
  rintro d _ ⟨-, hkept⟩
  refine Confined.files.bind fun files files' ha => ?_
  have hfilter : preferred.filter files'.isFile = preferred.filter files.isFile := by
    cases preferred with
    | none => rfl
    | some path => simp only [Option.filter_some, (h path rfl).isFile_eq ha]
  rw [hfilter]
  cases hpreferred : preferred.filter files.isFile with
  | some path =>
    refine .pure ⟨rfl, ?_⟩
    rintro _ ⟨⟩
    exact h path (Option.filter_eq_some_iff.mp hpreferred).1
  | none =>
    dsimp only
    rw [hkept.locate_eq ha]
    cases hlocate : d.copy.locate files with
    | error fault => exact .fail fault
    | ok found => exact .pure ⟨rfl, fun path hfound => hkept.has_of_locate (hfound ▸ hlocate)⟩

theorem confined_decodeLocal (h : ∀ path, preferred = some path → r.Has path) :
    Confined r (Same r) Eq (decodeLocal preferred) (decodeLocal preferred) := by
  refine Confined.own.bind ?_
  rintro d _ ⟨-, -⟩
  refine (confined_chooseFile h).bind ?_
  rintro _ chosen ⟨rfl, hchosen⟩
  cases chosen with
  | none => exact .pure rfl
  | some path =>
    refine (confined_decodeFile (hchosen path rfl)).attempt.bind ?_
    rintro _ _ (@⟨found, _, rfl⟩ | ⟨fault⟩)
    · cases found <;> exact .pure rfl
    · exact .pure rfl

theorem confined_lend (tile : Tile) : Confined r (Same r) Eq (lend tile) (lend tile) := by
  refine Confined.own.bind ?_
  rintro d _ ⟨hrel, hkept⟩
  refine (Confined.modifyOwn fun _ _ _ => ?_).bind fun _ _ _ => .pure rfl
  exact ⟨hrel, hkept⟩

theorem confined_dropTile : Confined r (Same r) Eq dropTile dropTile :=
  .modifyOwn fun _ _ ⟨hrel, hkept⟩ => ⟨hrel, hkept⟩

theorem confined_finish (h : ∀ path, preferred = some path → r.Has path) :
    Confined r (Same r) Eq (finish preferred) (finish preferred) := by
  refine (confined_decodeLocal h).bind ?_
  rintro outcome _ rfl
  cases outcome with
  | success tile => exact confined_lend tile
  | _ => exact confined_dropTile.bind fun _ _ _ => confined_giveUp _ _

-- ---------------------------------------------------------------------------
-- The whole acquisition
-- ---------------------------------------------------------------------------

theorem confined_probe : Confined r (Same r) Eq probe probe := by
  refine Confined.own.bind ?_
  rintro d _ ⟨-, hkept⟩
  dsimp only
  split
  · refine Confined.files.bind fun files files' ha => ?_
    rw [LocalCopy.isPresent, LocalCopy.isPresent, hkept.locate_eq ha]
    refine (Confined.ofExcept (.refl (fun _ => rfl) _)).bind ?_
    rintro present _ rfl
    exact confined_setState _
  · exact .pure rfl

theorem confined_acquireRemote : Confined r (Same r) Eq acquireRemote acquireRemote := by
  refine Confined.own.bind ?_
  rintro d _ ⟨-, -⟩
  refine confined_fetchRemote.bind ?_
  rintro _ outcome ⟨rfl, hpath⟩
  cases outcome with
  | success path =>
    refine (confined_setState _).bind fun _ _ _ => confined_finish ?_
    rintro _ ⟨⟩
    exact hpath path rfl
  | absent message => exact confined_giveUp _ _
  | recoverable message => exact confined_giveUp _ _
  | fatal message cause => exact (confined_giveUp _ _).bind fun _ _ _ => .fail _

theorem confined_acquire : Confined r (Same r) Eq acquire acquire := by
  refine confined_probe.bind fun _ _ _ => Confined.own.bind fun d d' h => ?_
  rw [h.remoteEnabled_eq]
  obtain ⟨-, -⟩ := h
  dsimp only
  split
  · split
    · exact confined_acquireRemote
    · exact .pure rfl
  · exact confined_finish (by simp)

theorem confined_acquireOnce : Confined r (Same r) Eq acquireOnce acquireOnce := by
  refine Confined.own.bind fun d d' h => ?_
  rw [h.settled?_eq]
  cases d.settled? with
  | some answer => exact .ofExcept (.refl (fun _ => rfl) answer)
  | none => exact confined_acquire

theorem confined_getTile : Confined r (Same r) Eq getTile getTile := by
  refine Confined.own.bind fun d d' h => ?_
  rw [h.settled?_eq]
  cases d.settled? with
  | some answer => exact .ofExcept (.refl (fun _ => rfl) answer)
  | none => exact confined_acquireOnce

theorem confined_dispose : Confined r (Same r) Eq dispose dispose := by
  refine Confined.own.bind ?_
  rintro ⟨_, _, state, _, _, _, _⟩ _ ⟨hrel, -⟩
  have hrest : Confined r (Same r) Eq
      (dropTile >>= fun _ => if state = .ready then setState .unknown else pure ())
      (dropTile >>= fun _ => if state = .ready then setState .unknown else pure ()) := by
    refine confined_dropTile.bind fun _ _ _ => ?_
    split
    · exact confined_setState _
    · exact .pure rfl
  cases hrel with
  | none => exact hrest
  | some hf => exact (confined_onFetcher hf Fetcher.confined_close).attempt.bind fun _ _ _ => hrest

end Descriptor

end TerrainTiles
