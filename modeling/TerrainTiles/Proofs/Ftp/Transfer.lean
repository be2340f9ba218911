import TerrainTiles.Ftp.Fetcher
import TerrainTiles.Proofs.World.Frame

/-!
# What an FTP fetch leaves

Connecting, listing and closing touch no file. A transfer that ends well left all
it brought at the path, of the listed size if one is listed (`retrieve_ok`). So a
successful fetch leaves what one transfer on the connection it still holds brought
(`fetch_success`), and one that ends otherwise leaves the files as they were or
no file at the path (`fetch_unsuccessful`). A fetch that fails may leave anything.
-/

namespace TerrainTiles.Ftp

open Act
open FileSystem (holds_create)

/-- A transfer that brought all there is of a file: nothing broke it off, and it has the
size that the file is listed with, if it is. -/
structure Transfer.Whole (transfer : Transfer) (listing : Listing) (name : String) : Prop where
  unbroken : transfer.failure = none
  measured : ∀ size, listing.lookup name = some (some size) →
    (transfer.chunks.flatten.length : Int) = size

def Connection.begun (c : Connection) : Connection := { c with transfers := c.transfers + 1 }

-- ---------------------------------------------------------------------------
-- Frames of sessions
-- ---------------------------------------------------------------------------

namespace Session

variable {s t : Session × World} {path : Path} {remote : String}

def Alike (s s' : Session) : Prop := s' = { s with connection := s'.connection }

instance : IsPreorder Session Alike where
  refl _ := rfl
  trans s s' s'' h h' := by
    unfold Alike at *
    rw [h', h]

theorem keeps_call {event : Event} (hf : event.isFetch = false) (hd : event.isDecode = false)
    (failure : Option Fault) : (call event failure).Keeps Alike World.Quiet := by
  refine .bind (.emit hf hd) fun _ => ?_
  cases failure with
  | none => exact .pure _
  | some fault => exact .fail fault

theorem keeps_setConnection (c : Option Connection) :
    (setConnection c).Keeps Alike World.Quiet := .modifyOwn fun _ => rfl

theorem keeps_newConnection : newConnection.Keeps Alike World.Quiet := by
  intro s
  let world := (s.2.nextServer s.1.channel).2
  have h : World.Quiet s.2 (world.record (.ftpCreated world.connections)) :=
    IsTrans.trans _ _ _ (s.2.quiet_nextServer s.1.channel) (world.quiet_record rfl rfl)
  exact ⟨rfl, ⟨h.decoder, h.replies, h.events⟩, h.files⟩

theorem keeps_closeConnection (c : Connection) :
    (closeConnection c).Keeps Alike World.Quiet := keeps_call rfl rfl _

theorem keeps_prepare (session : Session) (c : Connection) :
    (prepare session c).Keeps Alike World.Quiet :=
  .bind (keeps_call rfl rfl _) fun _ => .bind (keeps_call rfl rfl _) fun _ =>
    .bind (keeps_call rfl rfl _) fun _ => keeps_call rfl rfl _

theorem keeps_open : Session.open.Keeps Alike World.Quiet := by
  refine .bind .own fun session => ?_
  cases session.connection with
  | some _ => exact .pure _
  | none =>
    refine .bind keeps_newConnection fun c =>
      .bind (.attempt (keeps_prepare session c)) fun result => ?_
    cases result with
    | ok => exact keeps_setConnection _
    | error fault => exact .bind (keeps_closeConnection c) fun _ => .fail fault

theorem keeps_close : close.Keeps Alike World.Quiet := by
  refine .bind .own fun session => ?_
  cases session.connection with
  | none => exact .pure _
  | some c =>
    refine .bind (keeps_setConnection _) fun _ =>
      .bind (.attempt (keeps_call rfl rfl _)) fun result => ?_
    cases result with
    | ok => exact .pure _
    | error fault =>
      dsimp only
      split
      · exact keeps_closeConnection c
      · exact .fail fault

theorem keeps_requireOpen : requireOpen.Keeps Alike World.Quiet := by
  refine .bind .own fun session => ?_
  cases session.connection with
  | none => exact .fail _
  | some c => exact .pure c

theorem keeps_sizesOf (c : Connection) (directory : String) (listing : Listing)
    (names : List String) : (sizesOf c directory listing names).Keeps Alike World.Quiet := by
  induction names generalizing listing with
  | nil => exact .pure _
  | cons entry rest ih =>
    refine .bind (.emit rfl rfl) fun _ => ?_
    split
    · exact ih _
    · split
      · exact ih _
      · exact .fail _

theorem keeps_listSizes (directory : String) : (listSizes directory).Keeps Alike World.Quiet := by
  refine .bind keeps_requireOpen fun c => .bind (.emit rfl rfl) fun _ => ?_
  split
  · exact .pure _
  · split
    · exact .bind (.emit rfl rfl) fun _ =>
        .bind (.ofExcept _) fun names => keeps_sizesOf c _ _ names
    · exact .fail _

theorem keeps_beginTransfer (c : Connection) (remote : String) :
    (beginTransfer c remote).Keeps Alike World.Quiet :=
  .bind (.emit rfl rfl) fun _ => .bind (keeps_setConnection _) fun _ => .pure _

theorem keeps_checkSize (path : Path) (expected : Option Int) :
    (checkSize path expected).Keeps Alike World.Quiet := by
  unfold checkSize
  cases expected with
  | none => exact .pure _
  | some size => exact .bind .files fun files => .bind (.ofExcept _) fun content => .pure _

theorem keeps_retrieve {R : World → World → Prop} [IsPreorder World R] (h : World.Admits path R)
    (remote : String) (expected : Option Int) :
    (retrieve remote path expected).Keeps Alike R := by
  refine .bind (h.quietly keeps_requireOpen) fun c => .bind h.makeDirectories fun _ =>
    h.store (keeps_beginTransfer c remote) fun transfer => ?_
  cases transfer.failure with
  | none => exact h.quietly (keeps_checkSize path expected)
  | some fault =>
    dsimp only
    split
    · exact .pure _
    · exact .fail fault

-- ---------------------------------------------------------------------------
-- One transfer
-- ---------------------------------------------------------------------------

theorem requireOpen_ok {c : Connection} (h : requireOpen.run s = (.ok c, t)) :
    s.1.connection = some c ∧ t = s := by
  simp only [requireOpen, run_bind_ok, run_own, Prod.mk.injEq, Except.ok.injEq] at h
  obtain ⟨_, _, ⟨rfl, rfl⟩, h⟩ := h
  cases hc : s.1.connection with
  | none => simp [hc] at h
  | some found =>
    simp only [hc, run_pure, Prod.mk.injEq, Except.ok.injEq] at h
    exact ⟨by rw [h.1], h.2.symm⟩

theorem run_beginTransfer (c : Connection) (remote : String) (s : Session × World) :
    (beginTransfer c remote).run s = (.ok (c.server.transfer c.transfers remote),
      { s.1 with connection := some c.begun },
      s.2.record (.ftpRetrieved c.number remote blockSize)) := rfl

theorem checkSize_ok {expected : Option Int} {content : Bytes}
    (hcontent : s.2.files.content? path = some content)
    (h : (checkSize path expected).run s = (.ok .ok, t)) :
    t = s ∧ ∀ size, expected = some size → (content.length : Int) = size := by
  cases expected with
  | none => cases h; exact ⟨rfl, by simp⟩
  | some size =>
    simp only [checkSize, run_bind_ok, run_files, run_ofExcept, run_pure, Prod.mk.injEq,
      Except.ok.injEq] at h
    obtain ⟨_, _, ⟨rfl, rfl⟩, found, _, ⟨hread, rfl⟩, hsize, rfl⟩ := h
    have hfound : s.2.files.content? path = some found := by
      rw [← FileSystem.toOption_read]
      cases hr : s.2.files.read path with
      | error e => simp [hr] at hread
      | ok data =>
        simp only [hr, mapError_ok, Except.ok.injEq] at hread
        simp [hread, Except.toOption]
    cases hcontent.symm.trans hfound
    refine ⟨rfl, fun _ he => ?_⟩
    cases he
    split at hsize
    · assumption
    · cases hsize

/-- A transfer that ends well: it was the next one on the open connection, nothing
broke it off, and what it brought is at the path and of the expected size. -/
theorem retrieve_ok {expected : Option Int}
    (h : (retrieve remote path expected).run s = (.ok .ok, t)) :
    ∃ c, s.1.connection = some c ∧ t.1.connection = some c.begun ∧
      t.2.events = .ftpRetrieved c.number remote blockSize :: s.2.events ∧
      (c.server.transfer c.transfers remote).failure = none ∧
      (∀ size, expected = some size →
        ((c.server.transfer c.transfers remote).chunks.flatten.length : Int) = size) ∧
      t.2.files.content? path = some (c.server.transfer c.transfers remote).chunks.flatten := by
  simp only [retrieve, run_bind_ok, run_makeDirectories, run_createFile_ok, run_beginTransfer,
    run_writeChunks, Prod.mk.injEq, Except.ok.injEq] at h
  obtain ⟨c, _, hopen, _, _, ⟨-, rfl⟩, file, _, ⟨files, hcreate, rfl⟩, _, _, ⟨rfl, rfl⟩, _, _,
    ⟨-, rfl⟩, h⟩ := h
  obtain ⟨hc, rfl⟩ := requireOpen_ok hopen
  split at h
  · next hunbroken =>
    have hholds := ((holds_create hcreate).appendAll
      (c.server.transfer c.transfers remote).chunks).content?
    obtain ⟨rfl, hsize⟩ := checkSize_ok hholds h
    exact ⟨c, hc, rfl, rfl, hunbroken, hsize, hholds⟩
  · next fault hbroken =>
    -- A broken transfer is reported as a status, but never as a good one.
    split at h
    · next status hstatus =>
      simp only [run_pure, Prod.mk.injEq, Except.ok.injEq] at h
      obtain ⟨rfl, -⟩ := h
      unfold statusOf? at hstatus
      split at hstatus
      · split at hstatus <;> cases hstatus
      · split at hstatus <;> cases hstatus
    · simp at h

end Session

-- ---------------------------------------------------------------------------
-- Frames of fetchers
-- ---------------------------------------------------------------------------

namespace Fetcher

variable {s t : Fetcher × World} {path : Path}

def Alike (f f' : Fetcher) : Prop := f' = { f with session := f'.session, listing := f'.listing }

instance : IsPreorder Fetcher Alike where
  refl _ := rfl
  trans f f' f'' h h' := by
    unfold Alike at *
    rw [h', h]

theorem run_within {α : Type} (session : Session) (act : Act Session α) (s : Fetcher × World) :
    (within session act).run s =
      (.ok ((act.run (session, s.2)).1, (act.run (session, s.2)).2.1), s.1,
        (act.run (session, s.2)).2.2) := rfl

theorem run_within_ok {α : Type} {session left : Session} {act : Act Session α}
    {result : Except Fault α} :
    (within session act).run s = (.ok (result, left), t) ↔
      act.run (session, s.2) = (result, left, t.2) ∧ t.1 = s.1 := by
  rw [run_within]
  simp only [Prod.ext_iff, Except.ok.injEq]
  constructor
  · rintro ⟨⟨hresult, hleft⟩, hown, hworld⟩
    exact ⟨⟨hresult, hleft, hworld⟩, hown.symm⟩
  · rintro ⟨⟨hresult, hleft, hworld⟩, hown⟩
    exact ⟨⟨hresult, hleft⟩, hown.symm, hworld⟩

theorem keeps_within {α : Type} {act : Act Session α} {R : World → World → Prop}
    (h : act.Keeps Session.Alike R) (session : Session) : (within session act).Keeps Alike R :=
  fun s => ⟨rfl, (h (session, s.2)).2⟩

theorem keeps_close : close.Keeps Alike World.Quiet := by
  refine .bind .own fun fetcher => .bind (.modifyOwn fun _ => rfl) fun _ => ?_
  cases fetcher.session with
  | none => exact .pure _
  | some session => exact .bind (keeps_within Session.keeps_close _) fun _ => .ofExcept _

theorem keeps_connect (directory : String) :
    (connect directory).Keeps Session.Alike World.Quiet :=
  .bind Session.keeps_open fun _ => Session.keeps_listSizes directory

theorem keeps_open : Fetcher.open.Keeps Alike World.Quiet := by
  refine .bind .own fun fetcher => ?_
  cases fetcher.session with
  | some session => exact .pure session
  | none =>
    refine .bind (keeps_within (keeps_connect _) _) fun ⟨result, session⟩ => ?_
    cases result with
    | ok listing => exact .bind (.modifyOwn fun _ => rfl) fun _ => .pure _
    | error fault =>
      exact .bind (keeps_within Session.keeps_close _) fun _ =>
        .bind (.ofExcept _) fun _ => .fail fault

theorem keeps_fetch {R : World → World → Prop} [IsPreorder World R] (h : World.Admits path R) :
    (fetch path).Keeps Alike R := by
  refine .bind .own fun fetcher => .bind (.attempt (h.quietly keeps_open)) fun opened => ?_
  cases opened with
  | error fault => exact .pure _
  | ok session =>
    refine .bind .own fun fetcher' => ?_
    dsimp only
    split
    · exact .pure _
    · refine .bind (keeps_within (Session.keeps_retrieve h _ _) _) fun ⟨result, session⟩ =>
        .bind (h.quietly (.modifyOwn fun _ => rfl)) fun _ => ?_
      cases result with
      | error fault =>
        exact .bind (h.quietly keeps_close) fun _ => .bind h.unlinks fun _ => .pure _
      | ok status =>
        cases status with
        | ok => exact .pure _
        | fileNotFound => exact .bind h.unlinks fun _ => .pure _
        | readError =>
          exact .bind h.unlinks fun _ => .bind (h.quietly keeps_close) fun _ => .pure _

-- ---------------------------------------------------------------------------
-- A whole fetch
-- ---------------------------------------------------------------------------

theorem exists_listing_of_contains {f : Fetcher} {name : String} (h : f.sizes.contains name) :
    ∃ listing, f.listing = some listing := by
  cases hl : f.listing with
  | none => simp [sizes, hl, Listing.contains] at h
  | some listing => exact ⟨listing, rfl⟩

theorem failure_isSuccess (fault : Fault) (fatal recoverable : String) :
    (failure fault fatal recoverable).isSuccess = false := by
  unfold failure
  split <;> rfl

theorem fetch_success {value : Path} (h : (fetch path).run s = (.ok (.success value), t)) :
    value = path ∧ ∃ session listing c new, t.1.session = some session ∧
      t.1.listing = some listing ∧ session.connection = some (Connection.begun c) ∧
      t.2.events =
        .ftpRetrieved c.number (s.1.remoteFile path.name) blockSize :: new ++ s.2.events ∧
      (c.server.transfer c.transfers (s.1.remoteFile path.name)).Whole listing path.name ∧
      t.2.files.content? path =
        some (c.server.transfer c.transfers (s.1.remoteFile path.name)).chunks.flatten := by
  simp only [fetch, run_bind_ok, run_own_ok, run_attempt_ok] at h
  obtain ⟨_, _, ⟨rfl, rfl⟩, opened, u, hopened, h⟩ := h
  obtain ⟨new, hnew, -⟩ := (keeps_open s).2.events
  rw [hopened] at hnew
  cases opened with
  | error fault =>
    have hs := failure_isSuccess fault
    simp only [run_pure, Prod.mk.injEq, Except.ok.injEq] at h
    exact absurd (h.1 ▸ hs _ _) (by simp [Outcome.isSuccess])
  | ok session =>
    dsimp only at h
    rw [run_bind, run_own] at h
    dsimp only at h
    split at h
    · simp [notFound] at h
    · next hlisted =>
      obtain ⟨listing, hlisting⟩ : ∃ listing, u.1.listing = some listing :=
        exists_listing_of_contains (by simpa using hlisted)
      simp only [run_bind_ok, run_modifyOwn, Prod.mk.injEq] at h
      obtain ⟨⟨result, left⟩, v, hretrieve, _, _, ⟨-, rfl⟩, h⟩ := h
      obtain ⟨hretrieve, hown⟩ := run_within_ok.mp hretrieve
      have hsizes : u.1.sizes = listing := by simp [sizes, hlisting]
      cases result with
      | error fault =>
        simp only [run_bind_ok, run_pure, Prod.mk.injEq, Except.ok.injEq] at h
        obtain ⟨_, _, -, _, _, -, hf, -⟩ := h
        have hs := failure_isSuccess fault
        exact absurd (hf ▸ hs _ _) (by simp [Outcome.isSuccess])
      | ok status =>
        cases status with
        | ok =>
          simp only [run_pure, Prod.mk.injEq, Except.ok.injEq, Outcome.success.injEq] at h
          obtain ⟨rfl, rfl⟩ := h
          obtain ⟨c, -, hc, hevents, hunbroken, hsize, hcontent⟩ := Session.retrieve_ok hretrieve
          refine ⟨rfl, _, listing, c, new, rfl, hown ▸ hlisting, hc, ?_, ⟨hunbroken, ?_⟩, hcontent⟩
          · rw [hevents, hnew, List.cons_append]
          · exact fun size h => hsize size (hsizes ▸ Listing.size?_eq_some_iff.mpr h)
        | fileNotFound =>
          simp only [run_bind_ok, run_pure, Prod.mk.injEq, Except.ok.injEq] at h
          simp [notFound] at h
        | readError =>
          simp only [run_bind_ok, run_pure, Prod.mk.injEq, Except.ok.injEq] at h
          simp at h

theorem fetch_unsuccessful {outcome : Outcome Path} (h : (fetch path).run s = (.ok outcome, t))
    (hu : outcome.isSuccess = false) :
    t.2.files = s.2.files ∨ t.2.files.content? path = none := by
  simp only [fetch, run_bind_ok, run_own_ok, run_attempt_ok] at h
  obtain ⟨_, _, ⟨rfl, rfl⟩, opened, u, hopened, h⟩ := h
  have hfiles := (keeps_open s).2.files
  rw [hopened] at hfiles
  cases opened with
  | error fault => cases h; exact .inl hfiles
  | ok session =>
    dsimp only at h
    rw [run_bind, run_own] at h
    dsimp only at h
    split at h
    · cases h; exact .inl hfiles
    · simp only [run_bind_ok, run_modifyOwn, Prod.mk.injEq] at h
      obtain ⟨⟨result, left⟩, v, hretrieve, _, _, ⟨-, rfl⟩, h⟩ := h
      obtain ⟨hretrieve, -⟩ := run_within_ok.mp hretrieve
      right
      cases result with
      | error fault =>
        simp only [run_bind_ok] at h
        obtain ⟨_, _, -, _, _, hunlink, h⟩ := h
        cases h
        exact content?_of_run_unlink hunlink
      | ok status =>
        cases status with
        | ok => cases h; simp [Outcome.isSuccess] at hu
        | fileNotFound =>
          simp only [run_bind_ok] at h
          obtain ⟨_, _, hunlink, h⟩ := h
          cases h
          exact content?_of_run_unlink hunlink
        | readError =>
          simp only [run_bind_ok] at h
          obtain ⟨_, u, hunlink, _, v, hclose, h⟩ := h
          cases h
          have hfiles := (keeps_close u).2.files
          rw [hclose] at hfiles
          rw [hfiles]
          exact content?_of_run_unlink hunlink

end Fetcher

end TerrainTiles.Ftp
