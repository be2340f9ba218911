import TerrainTiles.Ftp.Fetcher
import TerrainTiles.Proofs.World.Realm
import Mathlib.Data.Option.Basic

/-!
# FTP fetching stays in its realm

Connections are counted for all realms together, so two runs may number theirs
differently; nothing else about a session can differ (`Session.Same`). A fetcher on
a channel of the realm that writes a file of the realm is confined to it
(`confined_fetch`).
-/

namespace TerrainTiles.Ftp

open Act

def Connection.Same (c c' : Connection) : Prop :=
  c'.server = c.server ∧ c'.transfers = c.transfers

namespace Session

variable {r : Realm} {c c' : Connection} {session session' : Session} {name : String}

inductive Same (r : Realm) (session : Session) : Session → Prop
  | intro {connection : Option Connection}
      (connections : Option.Rel Connection.Same session.connection connection)
      (line : r.lines session.channel) : Same r session { session with connection }

theorem confined_call (event event' : Event) (failure : Option Fault) :
    Confined r (Same r) Eq (call event failure) (call event' failure) := by
  refine (Confined.emit _ _).bind fun _ _ _ => ?_
  cases failure with
  | some fault => exact .fail fault
  | none => exact .pure rfl

theorem confined_setConnection {connection connection' : Option Connection}
    (h : Option.Rel Connection.Same connection connection') :
    Confined r (Same r) Eq (setConnection connection) (setConnection connection') := by
  refine .modifyOwn ?_
  rintro session _ ⟨-, hline⟩
  exact ⟨h, hline⟩

theorem confined_newConnection :
    Confined r (Same r) Connection.Same newConnection newConnection := by
  rintro ⟨session, world⟩ ⟨_, world'⟩ ⟨hrel, hline⟩ ht
  obtain ⟨hserver, htwin, hbeside⟩ := ht.nextServer hline
  refine ⟨.ok ⟨hserver, rfl⟩, ⟨hrel, hline⟩, ?_, ?_⟩
  · exact ⟨htwin.files, htwin.decoder, htwin.deterministic, htwin.replies, htwin.servers⟩
  · exact ⟨hbeside.files, hbeside.decoder, hbeside.replies, hbeside.servers⟩

theorem confined_closeConnection (h : c.Same c') :
    Confined r (Same r) Eq (closeConnection c) (closeConnection c') := by
  unfold closeConnection
  rw [h.1]
  exact confined_call _ _ _

theorem confined_prepare (session session' : Session) (h : c.Same c') :
    Confined r (Same r) Eq (prepare session c) (prepare session' c') := by
  unfold prepare
  rw [h.1]
  refine (confined_call _ _ _).bind fun _ _ _ => (confined_call _ _ _).bind fun _ _ _ => ?_
  exact (confined_call _ _ _).bind fun _ _ _ => confined_call _ _ _

theorem confined_open : Confined r (Same r) Eq Session.open Session.open := by
  refine Confined.own.bind ?_
  rintro ⟨_, _, _, _, _, _⟩ _ ⟨hrel, -⟩
  cases hrel with
  | some => exact .pure rfl
  | none =>
    refine confined_newConnection.bind fun c c' h => ?_
    refine (confined_prepare _ _ h).attempt.bind ?_
    rintro _ _ (@⟨_, _, -⟩ | ⟨fault⟩)
    · exact confined_setConnection (.some h)
    · exact (confined_closeConnection h).bind fun _ _ _ => .fail fault

theorem confined_quit (h : c.Same c') : Confined r (Same r) Eq (quit c) (quit c') := by
  unfold quit
  rw [h.1]
  exact confined_call _ _ _

theorem confined_close : Confined r (Same r) Eq close close := by
  refine Confined.own.bind ?_
  rintro ⟨_, _, _, _, _, _⟩ _ ⟨hrel, -⟩
  cases hrel with
  | none => exact .pure rfl
  | some h =>
    refine (confined_setConnection .none).bind fun _ _ _ => (confined_quit h).attempt.bind ?_
    rintro _ _ (@⟨_, _, -⟩ | ⟨fault⟩)
    · exact .pure rfl
    · dsimp only
      split
      · exact confined_closeConnection h
      · exact .fail fault

theorem confined_requireOpen :
    Confined r (Same r) Connection.Same requireOpen requireOpen := by
  refine Confined.own.bind ?_
  rintro ⟨_, _, _, _, _, _⟩ _ ⟨hrel, -⟩
  cases hrel with
  | some h => exact .pure h
  | none => exact .fail _

theorem confined_sizesOf (h : c.Same c') (directory : String) (listing : Listing)
    (entries : List String) :
    Confined r (Same r) Eq (sizesOf c directory listing entries)
      (sizesOf c' directory listing entries) := by
  induction entries generalizing listing with
  | nil => exact .pure rfl
  | cons entry rest ih =>
    refine (Confined.emit _ _).bind fun _ _ _ => ?_
    rw [h.1]
    cases c.server.size (joinRemote directory (remoteName entry)) with
    | ok size => exact ih _
    | error fault =>
      dsimp only
      split
      · exact ih _
      · exact .fail fault

theorem confined_listSizes (directory : String) :
    Confined r (Same r) Eq (listSizes directory) (listSizes directory) := by
  refine confined_requireOpen.bind fun c c' h => (Confined.emit _ _).bind fun _ _ _ => ?_
  rw [h.1]
  cases c.server.catalogue.listing with
  | ok listing => exact .pure rfl
  | error fault =>
    dsimp only
    split
    · refine (Confined.emit _ _).bind fun _ _ _ => ?_
      refine (Confined.ofExcept (.refl (fun _ => rfl) _)).bind ?_
      rintro names _ rfl
      exact confined_sizesOf h directory [] names
    · exact .fail fault

theorem confined_checkSize (hname : Path.IsEntry name) (expected : Option Int) :
    Confined r (Same r) Eq (checkSize (r.file name) expected)
      (checkSize (r.file name) expected) := by
  unfold checkSize
  cases expected with
  | none => exact .pure rfl
  | some size =>
    refine Confined.files.bind fun files files' h => ?_
    have hread : files'.read (r.file name) = files.read (r.file name) := h.read_eq r.entry hname
    rw [hread]
    refine (Confined.ofExcept (.refl (fun _ => rfl) _)).bind ?_
    rintro content _ rfl
    exact .pure rfl

theorem confined_beginTransfer (h : c.Same c') (remote : String) :
    Confined r (Same r) Eq (beginTransfer c remote) (beginTransfer c' remote) := by
  refine (Confined.emit _ _).bind fun _ _ _ => ?_
  have hbegun : Connection.Same { c with transfers := c.transfers + 1 }
      { c' with transfers := c'.transfers + 1 } := ⟨h.1, congrArg (· + 1) h.2⟩
  refine (confined_setConnection (.some hbegun)).bind fun _ _ _ => ?_
  rw [h.1, h.2]
  exact .pure rfl

theorem confined_retrieve (remote : String) (hname : Path.IsEntry name) (expected : Option Int) :
    Confined r (Same r) Eq (retrieve remote (r.file name) expected)
      (retrieve remote (r.file name) expected) := by
  refine confined_requireOpen.bind fun c c' h => ?_
  refine (Confined.makeDirectories name).bind fun _ _ _ => ?_
  refine (Confined.createFile hname).bind fun file file' hfile => ?_
  refine (confined_beginTransfer h remote).bind ?_
  rintro transfer _ rfl
  refine (Confined.writeChunks hfile _).bind fun _ _ _ => ?_
  cases transfer.failure with
  | none => exact confined_checkSize hname expected
  | some fault =>
    dsimp only
    cases statusOf? fault with
    | some status => exact .pure rfl
    | none => exact .fail fault

end Session

namespace Fetcher

variable {r : Realm} {α : Type} {V : α → α → Prop} {name : String}
  {session session' : Session} {act act' : Act Session α}

inductive Same (r : Realm) (f : Fetcher) : Fetcher → Prop
  | intro {session : Option Session} (sessions : Option.Rel (Session.Same r) f.session session)
      (line : r.lines f.channel) : Same r f { f with session }

theorem confined_keep {session session' : Option Session}
    (h : Option.Rel (Session.Same r) session session') :
    Confined r (Same r) Eq (Act.modifyOwn fun f => { f with session })
      (Act.modifyOwn fun f => { f with session := session' }) := by
  refine .modifyOwn ?_
  rintro f _ ⟨-, hline⟩
  exact .intro (f := { f with session }) h hline

theorem confined_hold {session session' : Option Session}
    (h : Option.Rel (Session.Same r) session session') (listing : Option Listing) :
    Confined r (Same r) Eq (Act.modifyOwn fun f => { f with session, listing })
      (Act.modifyOwn fun f => { f with session := session', listing }) := by
  refine .modifyOwn ?_
  rintro f _ ⟨-, hline⟩
  exact .intro (f := { f with session, listing }) h hline

theorem confined_within (hsession : Session.Same r session session')
    (h : Confined r (Session.Same r) V act act') :
    Confined r (Same r) (fun left left' => Ends V left.1 left'.1 ∧ Session.Same r left.2 left'.2)
      (within session act) (within session' act') := by
  intro s s' hq ht
  obtain ⟨hends, hown, htwin, hbeside⟩ := h (session, s.2) (session', s'.2) hsession ht
  exact ⟨.ok ⟨hends, hown⟩, hq, htwin, hbeside⟩

theorem confined_close : Confined r (Same r) Eq close close := by
  refine Confined.own.bind ?_
  rintro ⟨_, _, _, _, _⟩ _ ⟨hrel, -⟩
  refine (confined_hold .none none).bind fun _ _ _ => ?_
  cases hrel with
  | none => exact .pure rfl
  | some h =>
    refine (confined_within h Session.confined_close).bind ?_
    rintro ⟨result, left⟩ ⟨result', left'⟩ ⟨hends, -⟩
    exact .ofExcept hends

theorem confined_connect (directory : String) :
    Confined r (Session.Same r) Eq (connect directory) (connect directory) :=
  Session.confined_open.bind fun _ _ _ => Session.confined_listSizes directory

theorem confined_open : Confined r (Same r) (Session.Same r) Fetcher.open Fetcher.open := by
  refine Confined.own.bind ?_
  rintro ⟨_, directory, _, _, _⟩ _ ⟨hrel, hline⟩
  cases hrel with
  | some h => exact .pure h
  | none =>
    refine (confined_within (⟨.none, hline⟩) (confined_connect directory)).bind ?_
    rintro ⟨_, left⟩ ⟨_, left'⟩ ⟨@⟨listing, _, rfl⟩ | ⟨fault⟩, hsession⟩
    · exact (confined_hold (.some hsession) (some listing)).bind fun _ _ _ => .pure hsession
    · refine (confined_within hsession Session.confined_close).bind ?_
      rintro ⟨closed, _⟩ ⟨closed', _⟩ ⟨hends, -⟩
      exact (Confined.ofExcept hends).bind fun _ _ _ => .fail fault

theorem gives_failure (path : Path) (fault : Fault) (fatal recoverable : String) :
    Outcome.Gives path (failure fault fatal recoverable) (failure fault fatal recoverable) := by
  refine ⟨rfl, fun found h => ?_⟩
  unfold failure at h
  split at h <;> cases h

theorem confined_fetch (hname : Path.IsEntry name) :
    Confined r (Same r) (Outcome.Gives (r.file name)) (fetch (r.file name))
      (fetch (r.file name)) := by
  refine Confined.own.bind ?_
  rintro f _ ⟨-, hline⟩
  refine confined_open.attempt.bind ?_
  rintro _ _ (@⟨session, session', hsession⟩ | ⟨fault⟩)
  · refine Confined.own.bind ?_
    rintro g _ ⟨-, -⟩
    change Confined r (Same r) (Outcome.Gives (r.file name))
      (if !g.sizes.contains (r.file name).name then _ else _)
      (if !g.sizes.contains (r.file name).name then _ else _)
    split
    · exact .pure ⟨rfl, by simp [notFound]⟩
    · refine (confined_within hsession (Session.confined_retrieve _ hname _)).bind ?_
      rintro ⟨_, left⟩ ⟨_, left'⟩ ⟨@⟨status, _, rfl⟩ | ⟨fault⟩, hleft⟩
      · refine (confined_keep (.some hleft)).bind fun _ _ _ => ?_
        cases status with
        | ok => exact .pure ⟨rfl, by simp⟩
        | fileNotFound =>
          exact (Confined.unlink hname).bind fun _ _ _ => .pure ⟨rfl, by simp [notFound]⟩
        | readError =>
          refine (Confined.unlink hname).bind fun _ _ _ => confined_close.bind fun _ _ _ => ?_
          exact .pure ⟨rfl, by simp⟩
      · refine (confined_keep (.some hleft)).bind fun _ _ _ => ?_
        refine confined_close.bind fun _ _ _ => (Confined.unlink hname).bind fun _ _ _ => ?_
        exact .pure (gives_failure _ _ _ _)
  · exact .pure (gives_failure _ _ _ _)

end Fetcher

end TerrainTiles.Ftp
