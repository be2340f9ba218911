import Mathlib.Logic.Relation
import TerrainTiles.Proofs.Ftp.Course

/-!
# What a fetcher does with its connection

`Moved` lists the moves that opening, fetching and closing are made of: to talk to
the server, to make a connection and keep it or give it up again, to go on with the
one that is held, and to part with it (`moves_open`, `moves_fetch`, `moves_close`).
What every move preserves holds after every run of `Use`s (`moves_afterUses`,
`preserved_of_moves`): a session that is held has a connection, and there is one exactly
while there is a listing (`Attached`); what all servers of a channel have in common, the one
that is held has too (`Serves`).
-/

namespace TerrainTiles

open Act

def Event.isTransfer : Event → Bool
  | ftpRetrieved .. => true
  | _ => false

namespace World

structure Conversed (before after : World) : Prop where
  servers : after.servers = before.servers
  connections : after.connections = before.connections
  events : Records (fun event => event.isInquiry ∨ event.isTransfer) before after

theorem Inquired.conversed {before after : World} (h : Inquired before after) :
    Conversed before after :=
  ⟨by rw [h.rest], by rw [h.rest], h.events.mono fun _ => .inl⟩

theorem conversed_withFiles (world : World) (files : FileSystem) :
    Conversed world (world.withFiles files) := ⟨rfl, rfl, records_of_eq rfl⟩

structure Transferred (before after : World) : Prop where
  servers : after.servers = before.servers
  connections : after.connections = before.connections
  events : Records (fun event => event.isTransfer) before after

instance : IsPreorder World Transferred where
  refl _ := ⟨rfl, rfl, records_of_eq rfl⟩
  trans _ _ _ h h' := ⟨h'.servers.trans h.servers, h'.connections.trans h.connections,
    h.events.trans h'.events⟩

theorem Transferred.conversed {before after : World} (h : Transferred before after) :
    Conversed before after := ⟨h.servers, h.connections, h.events.mono fun _ => .inr⟩

theorem transferred_withFiles (world : World) (files : FileSystem) :
    Transferred world (world.withFiles files) := ⟨rfl, rfl, records_of_eq rfl⟩

end World

namespace Ftp

-- ---------------------------------------------------------------------------
-- Transfers
-- ---------------------------------------------------------------------------

namespace Session

variable {s : Session × World} {c : Connection} {path : Path} {remote : String}

theorem transfers_checkSize (path : Path) (expected : Option Int) :
    (checkSize path expected).Keeps Eq World.Transferred := by
  unfold checkSize
  cases expected with
  | none => exact .pure _
  | some size => exact .bind .files fun files => .bind (.ofExcept _) fun content => .pure _

/-- Whatever comes of a transfer, the session stays on its connection. -/
theorem retrieve_stays (hc : s.1.connection = some c) (remote : String) (path : Path)
    (expected : Option Int) :
    ∃ result c' left, (retrieve remote path expected).run s =
        (result, { s.1 with connection := some c' }, left) ∧
      c'.number = c.number ∧ c'.server = c.server ∧ s.2.Transferred left := by
  have hs : { s.1 with connection := some c } = s.1 := by rw [← hc]
  unfold retrieve
  rw [run_bind_of_ok (run_requireOpen hc), run_bind, run_makeDirectories]
  cases (s.2.files.makeDirectories path.parent).1 with
  | error e => exact ⟨_, c, _, by rw [hs]; rfl, rfl, rfl, s.2.transferred_withFiles _⟩
  | ok =>
    dsimp only [mapError_ok]
    rw [run_bind, createFile, run_onFiles]
    dsimp only
    cases (s.2.withFiles (s.2.files.makeDirectories path.parent).2).files.create path with
    | error e => exact ⟨_, c, _, by rw [hs], rfl, rfl, s.2.transferred_withFiles _⟩
    | ok made =>
      dsimp only
      rw [run_bind, run_beginTransfer]
      dsimp only
      rw [run_bind, run_writeChunks]
      dsimp only
      -- From here on only files are looked at.
      generalize hu : (({ s.1 with connection := some c.begun }, World.withFiles _ _) :
        Session × World) = u
      have hworld : s.2.Transferred u.2 := by
        subst hu
        exact ⟨rfl, rfl, [.ftpRetrieved c.number remote blockSize], rfl, by simp [Event.isTransfer]⟩
      have hown : u.1 = { s.1 with connection := some c.begun } := by rw [← hu]
      suffices h : ∀ act : Act Session Status, act.Keeps Eq World.Transferred →
          ∃ result c' left, act.run u = (result, { s.1 with connection := some c' }, left) ∧
            c'.number = c.number ∧ c'.server = c.server ∧ s.2.Transferred left by
        refine h _ ?_
        cases (c.server.transfer c.transfers remote).failure with
        | none => exact transfers_checkSize path expected
        | some fault =>
          dsimp only
          cases statusOf? fault with
          | none => exact .fail fault
          | some status => exact .pure status
      intro act hact
      obtain ⟨hsame, hleft⟩ := hact u
      exact ⟨_, c.begun, _, Prod.ext rfl (Prod.ext (hsame.symm.trans hown) rfl), rfl, rfl,
        IsTrans.trans _ _ _ hworld hleft⟩

end Session

-- ---------------------------------------------------------------------------
-- Moves
-- ---------------------------------------------------------------------------

namespace Fetcher

def joining (f : Fetcher) (world : World) : Session :=
  { f.newSession with connection := some (f.newSession.connecting world) }

inductive Moved : Fetcher × World → Fetcher × World → Prop where
  | converse {f : Fetcher} {world after : World} (h : world.Conversed after) :
      Moved (f, world) (f, after)
  | attach {f : Fetcher} {world asked : World} {listing : Listing} (hf : f.session = none)
      (h : (world.meeting f.channel).Inquired asked) :
      Moved (f, world)
        ({ f with session := some (f.joining world), listing := some listing }, asked)
  | refuse {f : Fetcher} {world asked : World} (hf : f.session = none)
      (h : (world.meeting f.channel).Inquired asked) :
      Moved (f, world) (f, asked.record (.ftpClosed (f.newSession.connecting world).number))
  | dismiss {f : Fetcher} {world asked : World} (hf : f.session = none)
      (h : (world.meeting f.channel).Inquired asked) :
      Moved (f, world) (f, asked.parted (f.newSession.connecting world))
  | proceed {f : Fetcher} {world after : World} {session : Session} {c c' : Connection}
      (hf : f.session = some session) (hc : session.connection = some c)
      (hn : c'.number = c.number) (hs : c'.server = c.server) (h : world.Conversed after) :
      Moved (f, world) ({ f with session := some { session with connection := some c' } }, after)
  | part {f : Fetcher} {world : World} {session : Session} {c : Connection}
      (hf : f.session = some session) (hc : session.connection = some c) :
      Moved (f, world) ({ f with session := none, listing := none }, world.parted c)

variable {s t : Fetcher × World} {f : Fetcher} {session : Session} {path : Path}

abbrev Moves : Fetcher × World → Fetcher × World → Prop := Relation.ReflTransGen Moved

theorem preserved_of_moves {P : Fetcher × World → Prop} (hstep : ∀ s t, Moved s t → P s → P t)
    (h : Moves s t) (hs : P s) : P t := by
  induction h with
  | refl => exact hs
  | tail _ hmove ih => exact hstep _ _ hmove ih

/-- A session that is held has a connection, and it is held exactly while a listing is. -/
structure Attached (f : Fetcher) : Prop where
  connected : ∀ session ∈ f.session, session.connection.isSome
  paired : f.listing.isSome = f.session.isSome

theorem attached_moved (h : Moved s t) (hs : s.1.Attached) : t.1.Attached := by
  cases h with
  | converse | refuse | dismiss => exact hs
  | attach => exact ⟨by simp [joining], by simp⟩
  | proceed hf => exact ⟨by simp, by simpa [hf] using hs.paired⟩
  | part => exact ⟨by simp, rfl⟩

theorem attached_of_moves (h : Moves s t) (hs : s.1.Attached) : t.1.Attached :=
  preserved_of_moves (P := fun s => s.1.Attached) (fun _ _ => attached_moved) h hs

theorem Attached.connection (h : f.Attached) (hf : f.session = some session) :
    ∃ c, session.connection = some c :=
  Option.isSome_iff_exists.mp (h.connected session hf)

theorem Attached.listing_eq_none (h : f.Attached) (hf : f.session = none) : f.listing = none := by
  simpa [hf] using h.paired

theorem moves_open (s : Fetcher × World) : Moves s (Fetcher.open.run s).2 := by
  obtain ⟨f, world⟩ := s
  cases hf : f.session with
  | some session => rw [run_open_held (s := (f, world)) hf]
  | none =>
    obtain ⟨asked, hasked, hopen⟩ := run_open_anew (s := (f, world)) hf
    rw [hopen]
    split
    · exact .single (.refuse hf hasked)
    · split
      · exact .single (.dismiss hf hasked)
      · exact .single (.attach hf hasked)

theorem session_of_run_open (h : Fetcher.open.run s = (.ok session, t)) :
    t.1.session = some session := by
  cases hf : s.1.session with
  | some held =>
    rw [run_open_held hf] at h
    cases h
    exact hf
  | none =>
    obtain ⟨asked, -, hopen⟩ := run_open_anew hf
    rw [hopen] at h
    split at h
    · cases h
    · split at h
      · cases h
      · cases h
        rfl

theorem moves_close (h : s.1.Attached) : Moves s (close.run s).2 := by
  obtain ⟨f, world⟩ := s
  cases hf : f.session with
  | none =>
    rw [run_close_none (s := (f, world)) hf]
    have hsame : { f with session := none, listing := none } = f := by
      rw [← hf, ← h.listing_eq_none hf]
    rw [hsame]
  | some session =>
    obtain ⟨c, hc⟩ := h.connection hf
    rw [run_close_held (s := (f, world)) hf hc]
    exact .single (.part hf hc)

theorem moves_unlink (path : Path) (s : Fetcher × World) : Moves s ((unlink path).run s).2 := by
  obtain ⟨f, world⟩ := s
  rw [run_unlink]
  split
  · exact .single (.converse (world.conversed_withFiles _))
  · exact .refl

theorem moves_bind {α β : Type} {act : Act Fetcher α} {next : α → Act Fetcher β}
    (h : Moves s (act.run s).2)
    (h' : ∀ a t, act.run s = (.ok a, t) → Moves t ((next a).run t).2) :
    Moves s ((act >>= next).run s).2 := by
  rw [run_bind]
  rcases hrun : act.run s with ⟨_ | a, t⟩ <;> rw [hrun] at h
  · exact h
  · exact h.trans (h' a t hrun)

theorem moves_of_run {α : Type} {act : Act Fetcher α} {result : Except Fault α}
    (h : Moves s (act.run s).2) (ht : act.run s = (result, t)) : Moves s t := by
  rwa [ht] at h

theorem moves_finish (f : Fetcher) (path : Path) (result : Except Fault Status)
    (h : s.1.Attached) : Moves s ((f.finish path result).run s).2 := by
  rcases result with fault | _ | _ | _
  · exact moves_bind (moves_close h) fun _ t _ => moves_bind (moves_unlink path t) fun _ _ _ => .refl
  · exact .refl
  · exact moves_bind (moves_unlink path s) fun _ _ _ => .refl
  · refine moves_bind (moves_unlink path s) fun _ t ht => moves_bind (moves_close ?_) fun _ _ _ => .refl
    exact attached_of_moves (moves_of_run (moves_unlink path s) ht) h

theorem moves_fetch (h : s.1.Attached) (path : Path) : Moves s ((fetch path).run s).2 := by
  have hopened := moves_open s
  rcases hopen : Fetcher.open.run s with ⟨fault | session, t⟩ <;> rw [hopen] at hopened
  · rw [run_fetch_unreached hopen]
    exact hopened
  · cases hlisted : t.1.sizes.contains path.name with
    | false =>
      rw [run_fetch_unlisted hopen hlisted]
      exact hopened
    | true =>
      have hattached : t.1.Attached := attached_of_moves hopened h
      obtain ⟨c, hc⟩ := hattached.connection (session_of_run_open hopen)
      obtain ⟨result, c', left, hretrieve, hn, hs, hleft⟩ :=
        Session.retrieve_stays (s := (session, t.2)) hc (s.1.remoteFile path.name) path
          (t.1.sizes.size? path.name)
      rw [run_fetch_transferred hopen hlisted hretrieve]
      -- The transfer and keeping its session are one move.
      have hmove : Moved t
          ({ t.1 with session := some { session with connection := some c' } }, left) :=
        .proceed (session_of_run_open hopen) hc hn hs hleft.conversed
      exact (hopened.tail hmove).trans
        (moves_finish s.1 path result (attached_moved hmove hattached))

-- ---------------------------------------------------------------------------
-- Runs
-- ---------------------------------------------------------------------------

inductive Use where
  | open
  | fetch (path : Path)
  | close
  | outside (change : FileSystem → FileSystem)

def Use.after : Use → Fetcher × World → Fetcher × World
  | .open, s => (Fetcher.open.run s).2
  | fetch path, s => ((Fetcher.fetch path).run s).2
  | close, s => (Fetcher.close.run s).2
  | outside change, (f, world) => (f, world.withFiles (change world.files))

def afterUses (uses : List Use) (s : Fetcher × World) : Fetcher × World :=
  uses.foldl (fun s use => use.after s) s

theorem Use.moves (use : Use) (h : s.1.Attached) : Moves s (use.after s) := by
  cases use with
  | «open» => exact moves_open s
  | fetch path => exact moves_fetch h path
  | close => exact moves_close h
  | outside change => exact .single (.converse (s.2.conversed_withFiles _))

theorem moves_afterUses (uses : List Use) (h : s.1.Attached) : Moves s (afterUses uses s) := by
  induction uses generalizing s with
  | nil => exact .refl
  | cons use rest ih =>
    have huse := use.moves h
    exact huse.trans (ih (attached_of_moves huse h))

structure Idle (f : Fetcher) : Prop where
  session : f.session = none
  listing : f.listing = none

theorem Idle.attached (h : f.Idle) : f.Attached :=
  ⟨by simp [h.session], by simp [h.session, h.listing]⟩

structure Serves (P : Server → Prop) (s : Fetcher × World) : Prop where
  coming : ∀ server ∈ s.2.servers s.1.channel, P server
  held : ∀ session ∈ s.1.session, ∀ c ∈ session.connection, P c.server

theorem serves_of_idle {P : Server → Prop} {world : World} (h : f.Idle)
    (hcoming : ∀ server ∈ world.servers f.channel, P server) : Serves P (f, world) :=
  ⟨hcoming, by simp [h.session]⟩

section

variable {P : Server → Prop} {world asked : World}

theorem forall_nextServer (hplain : P {}) {channel : Channel}
    (h : ∀ server ∈ world.servers channel, P server) :
    P (world.nextServer channel).1 ∧
      ∀ server ∈ (world.nextServer channel).2.servers channel, P server := by
  unfold World.nextServer
  split
  · exact ⟨hplain, h⟩
  · next server hlast => exact ⟨h server (by simp [hlast]), h⟩
  · next server rest _ hmore =>
    rw [hmore] at h
    refine ⟨h server (by simp), fun other ho => h other (List.mem_cons_of_mem _ ?_)⟩
    simpa [World.update] using ho

theorem Serves.meets (hplain : P {}) (h : Serves P (f, world))
    (hasked : (world.meeting f.channel).Inquired asked) :
    P (f.newSession.connecting world).server ∧ ∀ server ∈ asked.servers f.channel, P server := by
  obtain ⟨hnew, hrest⟩ := forall_nextServer hplain h.coming
  refine ⟨hnew, ?_⟩
  rw [hasked.rest]
  exact hrest

theorem servers_parted (world : World) (c : Connection) :
    (world.parted c).servers = world.servers := by
  unfold World.parted
  dsimp only
  split <;> rfl

theorem serves_moved (hplain : P {}) (h : Moved s t) (hs : Serves P s) : Serves P t := by
  cases h with
  | converse h => exact ⟨h.servers ▸ hs.coming, hs.held⟩
  | attach hf h =>
    obtain ⟨hnew, hrest⟩ := hs.meets hplain h
    exact ⟨hrest, by simpa [joining] using hnew⟩
  | refuse hf h => exact ⟨(hs.meets hplain h).2, hs.held⟩
  | dismiss hf h => exact ⟨by simpa only [servers_parted] using (hs.meets hplain h).2, hs.held⟩
  | proceed hf hc hn hsame h =>
    refine ⟨h.servers ▸ hs.coming, ?_⟩
    have hserver := hs.held _ hf _ hc
    simpa [hsame] using hserver
  | part => exact ⟨by simpa only [servers_parted] using hs.coming, by simp⟩

theorem serves_of_moves (hplain : P {}) (h : Moves s t) (hs : Serves P s) : Serves P t :=
  preserved_of_moves (fun _ _ => serves_moved hplain) h hs

end

end Fetcher

end Ftp

end TerrainTiles
