import TerrainTiles.Proofs.Fetcher.Delivery
import TerrainTiles.Proofs.Ftp.Balance
import TerrainTiles.Proofs.Http.Balance

/-!
# What a fetcher holds open

For the two real kinds of fetchers: what stands of all that was opened since a
moment is what the fetcher holds (`Fetcher.Settled.balanced`). Closing leaves nothing
open, unless there is an HTTP session that cannot be closed (`Fetcher.isOpen_afterClose`).
-/

namespace TerrainTiles.Fetcher

open Act

variable {start world after : World} {f : Fetcher} {s : Fetcher × World}

/-- It has a session open, and closing that would fail. -/
def resists : Fetcher → Bool
  | http f => f.isOpen && f.closings.head?.join.isSome
  | _ => false

/-- What closing leaves, also where it fails. -/
def afterClose : Fetcher → Fetcher
  | http f => http f.afterClose
  | ftp f => ftp { f with session := none, listing := none }
  | scripted script => scripted script

theorem close_afterClose (s : Fetcher × World) : (Fetcher.close.run s).2.1 = s.1.afterClose := by
  obtain ⟨f | f | script, world⟩ := s
  · exact congrArg http (Http.Fetcher.close_afterClose (f, world))
  · change ftp (Ftp.Fetcher.close.run (f, world)).2.1 = _
    unfold Ftp.Fetcher.close
    cases hs : f.session <;> simp [Act.run_bind, hs, afterClose, Ftp.Fetcher.run_within]
  · change scripted (Script.close.run (script, world)).2.1 = scripted script
    unfold Script.close
    cases hc : script.closeFailure <;> simp [Act.run_bind, hc]

theorem isOpen_afterClose (f : Fetcher) : f.afterClose.isOpen = f.resists := by
  cases f with
  | http f => cases h : f.isOpen <;> simp [afterClose, Http.Fetcher.afterClose, isOpen, resists, h]
  | ftp f => rfl
  | scripted script => rfl

theorem afterClose_afterClose (h : f.resists = false) : f.afterClose.afterClose = f.afterClose := by
  cases f with
  | http f =>
    have hclosed : f.afterClose.isOpen = false := (isOpen_afterClose (http f)).trans h
    exact congrArg http (if_neg (Bool.eq_false_iff.mp hclosed))
  | ftp f => rfl
  | scripted script => rfl

theorem run_close_of_closed (hreal : f.isReal) (h : f.isOpen = false) (world : World) :
    Fetcher.close.run (f, world) = (.ok (), f.afterClose, world) := by
  cases f with
  | http f =>
    have hclosed : f.afterClose = f := if_neg (Bool.eq_false_iff.mp h)
    change dispatch.lift http (Http.Fetcher.close.run (f, world)) = _
    rw [Http.Fetcher.run_close_closed h, afterClose, hclosed]
    rfl
  | ftp f =>
    have hnone : f.session = none := by simpa [isOpen] using h
    change dispatch.lift ftp (Ftp.Fetcher.close.run (f, world)) = _
    rw [Ftp.Fetcher.run_close_none hnone]
    rfl
  | scripted => simp [isReal] at hreal

def closing : Fetcher → List Event
  | http f => if f.isOpen then [.httpClosed] else []
  | ftp f => match f.session.bind (·.connection) with
    | none => []
    | some c => .ftpQuit c.number c.server.quit.isNone ::
        if c.server.quit.any Fault.isFtp then [.ftpClosed c.number] else []
  | scripted _ => [.scriptClosed]

theorem events_close (s : Fetcher × World) :
    (Fetcher.close.run s).2.2.events = s.1.closing.reverse ++ s.2.events := by
  obtain ⟨f | f | script, world⟩ := s
  · change (Http.Fetcher.close.run (f, world)).2.2.events = _
    cases hopen : f.isOpen with
    | false => simp [Http.Fetcher.run_close_closed hopen, closing, hopen]
    | true =>
      rw [Http.Fetcher.run_close_open hopen]
      cases f.closings.head?.join <;> simp [closing, hopen, World.record]
  · change (Ftp.Fetcher.close.run (f, world)).2.2.events = _
    cases hs : f.session with
    | none => simp [Ftp.Fetcher.run_close_none (s := (f, world)) hs, closing, hs]
    | some session =>
      cases hc : session.connection with
      | none => simp [Ftp.Fetcher.close, Ftp.Session.close, run_bind, Ftp.Fetcher.run_within,
          closing, hs, hc]
      | some c =>
        rw [Ftp.Fetcher.run_close_held (s := (f, world)) hs hc]
        cases hftp : c.server.quit.any Fault.isFtp <;>
          simp [closing, hs, hc, hftp, World.parted, World.record]
  · change (Script.close.run (script, world)).2.2.events = _
    cases hc : script.closeFailure <;> simp [Script.close, run_bind, closing, hc, World.record]

-- ---------------------------------------------------------------------------
-- What is held
-- ---------------------------------------------------------------------------

/-- The FTP connection that is held, by its number. -/
def connections : Fetcher → List Nat
  | ftp f => f.connections
  | _ => []

def holdsSession : Fetcher → Bool
  | http f => f.isOpen
  | _ => false

def ownsSessions : Fetcher → Bool
  | http f => !f.injected
  | _ => false

/-- Nothing is open, and nothing is known of the remote place. -/
def Idle : Fetcher → Prop
  | http f => f.isOpen = false
  | ftp f => f.Idle
  | scripted _ => True

/-- HTTP sessions that it opens can be closed. -/
def ClosesQuietly : Fetcher → Prop
  | http f => f.ClosesQuietly
  | _ => True

theorem lasting_closesQuietly : Lasting ClosesQuietly := by
  intro f f' h hquiet
  cases f <;> cases f' <;> first
    | exact fun failure hmem => hquiet failure (h.closings.subset hmem)
    | exact trivial
    | exact h.elim

/-- The FTP servers that it may meet quit only as FTP calls may fail. -/
def MeetsYielding (fetcher : Fetcher) (world : World) : Prop :=
  ∀ f, fetcher = ftp f → ∀ server ∈ world.servers f.channel, server.Yielding

theorem connections_of_closed (h : f.isOpen = false) : f.connections = [] := by
  cases f with
  | ftp f => exact Ftp.Fetcher.connections_none (by simpa [isOpen] using h)
  | _ => rfl

theorem holdsSession_of_closed (h : f.isOpen = false) : f.holdsSession = false := by
  cases f with
  | http f => exact h
  | _ => rfl

-- ---------------------------------------------------------------------------
-- Balance
-- ---------------------------------------------------------------------------

def Settled (start : World) : Fetcher × World → Prop
  | (http f, world) => Http.Fetcher.Settled start (f, world)
  | (ftp f, world) => Ftp.Fetcher.Settled start (f, world)
  | (scripted _, _) => False

theorem Settled.balanced (h : Settled start s) :
    start.Balanced s.2 s.1.connections s.1.ownsSessions s.1.holdsSession := by
  obtain ⟨f | f | script, world⟩ := s
  · exact Http.Fetcher.Settled.balanced h
  · exact Ftp.Fetcher.Settled.balanced h
  · exact h.elim

theorem settled_start (hreal : f.isReal) (hidle : f.Idle) (hquiet : f.ClosesQuietly)
    (hyielding : f.MeetsYielding world) : Settled world (f, world) := by
  cases f with
  | http f =>
    obtain ⟨base, channel, injected, isOpen, closings⟩ := f
    cases hidle
    exact ⟨hquiet, world.balanced_start _⟩
  | ftp f =>
    have hidle : f.Idle := hidle
    refine ⟨hidle.attached, Ftp.Fetcher.serves_of_idle hidle (hyielding f rfl), ?_⟩
    rw [Ftp.Fetcher.connections_none hidle.session]
    exact world.balanced_start _
  | scripted => simp [isReal] at hreal

theorem ClosesQuietly.resists (h : f.ClosesQuietly) : f.resists = false := by
  cases f with
  | http f => simp [Fetcher.resists, Http.Fetcher.ClosesQuietly.head h]
  | ftp f => rfl
  | scripted script => rfl

theorem Settled.quiet (h : Settled start (f, world)) : f.ClosesQuietly := by
  cases f with
  | http f => exact Http.Fetcher.Settled.quiet h
  | _ => trivial

theorem Settled.aside (h : Settled start (f, world)) (hidled : world.Idled after)
    (hservers : after.servers = world.servers) : Settled start (f, after) := by
  cases f with
  | http f =>
    obtain ⟨hquiet, hbalanced⟩ := h
    exact ⟨hquiet, hidled.balanced hbalanced⟩
  | ftp f =>
    obtain ⟨hattached, ⟨hcoming, hheld⟩, hbalanced⟩ := h
    exact ⟨hattached, ⟨hservers ▸ hcoming, hheld⟩, hidled.balanced hbalanced⟩
  | scripted => exact h

theorem settled_fetch (path : Path) : (Fetcher.fetch path).Preserves (Settled start) := by
  rintro ⟨f | f | script, world⟩ h
  · exact Http.Fetcher.settled_fetch path (f, world) h
  · exact Ftp.Fetcher.settled_of_moves
      (Ftp.Fetcher.moves_fetch (Ftp.Fetcher.Settled.attached h) path) h
  · exact h.elim

theorem settled_close : Fetcher.close.Preserves (Settled start) := by
  rintro ⟨f | f | script, world⟩ h
  · exact Http.Fetcher.settled_close (f, world) h
  · exact Ftp.Fetcher.settled_of_moves
      (Ftp.Fetcher.moves_close (Ftp.Fetcher.Settled.attached h)) h
  · exact h.elim

end TerrainTiles.Fetcher
