import TerrainTiles.Proofs.Ftp.Moves
import TerrainTiles.Proofs.World.Balance

/-!
# FTP connections are ended

While quitting fails only as FTP calls may fail (`Server.Yielding`), every move of a
fetcher keeps the balance: of the connections it made only the one that it holds
stands (`settled_moved`).
-/

namespace TerrainTiles

open World (Balanced)

variable {start world after : World} {live : List Nat} {owned isOpen : Bool}

theorem World.Conversed.idled (h : world.Conversed after) : world.Idled after := by
  refine ⟨h.events.mono fun event he => ?_, h.connections⟩
  cases event <;> simp_all [Event.isInquiry, Event.isTransfer, Event.isIdle]

namespace Ftp

def Server.Yielding (server : Server) : Prop := ∀ fault, server.quit = some fault → fault.isFtp

theorem yielding_default : Server.Yielding {} := nofun

theorem balanced_meeting (h : Balanced start world [] owned isOpen) (channel : Channel) :
    Balanced start (world.meeting channel) [world.connections] owned isOpen := by
  rw [World.meeting_eq]
  exact h.made rfl rfl

theorem balanced_parted {c : Connection} (hc : c.server.Yielding)
    (h : Balanced start world [c.number] owned isOpen) :
    Balanced start (world.parted c) [] owned isOpen := by
  unfold World.parted
  cases hq : c.server.quit with
  | none => exact h.ended (.inl rfl)
  | some fault =>
    have hquit : Balanced start (world.record (.ftpQuit c.number false)) [c.number] owned isOpen :=
      (world.idled_record rfl).balanced h
    simp only [Option.any_some, hc fault hq, if_true]
    exact hquit.ended (.inr rfl)

namespace Fetcher

variable {s t : Fetcher × World}

def connections (f : Fetcher) : List Nat :=
  (f.session.bind (·.connection)).toList.map (·.number)

theorem connections_none {f : Fetcher} (h : f.session = none) : f.connections = [] := by
  simp [connections, h]

structure Settled (start : World) (s : Fetcher × World) : Prop where
  attached : s.1.Attached
  serves : Serves Server.Yielding s
  balanced : start.Balanced s.2 s.1.connections false false

theorem settled_moved (h : Moved s t) (hs : Settled start s) : Settled start t := by
  refine ⟨attached_moved h hs.attached, serves_moved yielding_default h hs.serves, ?_⟩
  have hb := hs.balanced
  cases h with
  | converse h => exact h.idled.balanced hb
  | attach hf h =>
    rw [connections_none hf] at hb
    have hmet := h.conversed.idled.balanced (balanced_meeting hb _)
    rwa [← Session.number_connecting] at hmet
  | refuse hf h =>
    rw [connections_none hf] at hb ⊢
    have hmet := h.conversed.idled.balanced (balanced_meeting hb _)
    rw [← Session.number_connecting] at hmet
    exact hmet.ended (.inr rfl)
  | dismiss hf h =>
    rw [connections_none hf] at hb ⊢
    have hmet := h.conversed.idled.balanced (balanced_meeting hb _)
    rw [← Session.number_connecting] at hmet
    exact balanced_parted (hs.serves.meets yielding_default h).1 hmet
  | proceed hf hc hn hsame h =>
    have hkept := h.idled.balanced hb
    simpa [connections, hf, hc, hn] using hkept
  | part hf hc =>
    refine balanced_parted (hs.serves.held _ hf _ hc) ?_
    simpa [connections, hf, hc] using hb

theorem settled_of_moves (h : Moves s t) (hs : Settled start s) : Settled start t :=
  preserved_of_moves (fun _ _ => settled_moved) h hs

end Fetcher

end Ftp

end TerrainTiles
