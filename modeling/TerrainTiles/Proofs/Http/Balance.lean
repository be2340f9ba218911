import TerrainTiles.Http.Fetcher
import TerrainTiles.Proofs.World.Balance

/-!
# HTTP sessions are closed

A fetcher opens a session before a download unless it has one, and closes what it
opened; one that was handed a session opens and closes none (`settled_fetch`,
`settled_close`). Everything else a download does leaves sessions alone.
-/

namespace TerrainTiles.Http.Fetcher

open Act

variable {start : World} {path : Path} {α : Type} {act : Act Fetcher α}

-- ---------------------------------------------------------------------------
-- What leaves sessions alone
-- ---------------------------------------------------------------------------

theorem idles_takeReply (channel : Channel) : (takeReply channel).Keeps Eq World.Idled := by
  intro s
  refine ⟨rfl, ?_⟩
  change s.2.Idled (s.2.nextReply channel).2
  unfold World.nextReply
  split
  · exact Std.Refl.refl _
  · exact ⟨World.records_of_eq rfl, rfl⟩

theorem idles_request (url : String) : (request url).Keeps Eq World.Idled := by
  refine .bind .own fun fetcher => .bind (.idles_emit rfl) fun _ =>
    .bind (idles_takeReply _) fun reply => ?_
  cases reply with
  | failed fault => exact .fail fault
  | answered response =>
    dsimp only
    split
    · exact .fail _
    · exact .pure _

theorem idles_receive (response : Response) (path : Path) :
    (receive response path).Keeps Eq World.Idled := by
  refine .bind (.idles_onFiles _) fun file => .bind (.idles_emit rfl) fun _ =>
    .bind (.idles_writeChunks file _) fun _ => ?_
  split
  · exact .fail _
  · exact .pure _

theorem idles_checkLength (response : Response) (url : String) (path : Path) :
    (checkLength response url path).Keeps Eq World.Idled := by
  unfold checkLength
  dsimp only
  split
  · exact .pure _
  · refine .bind (.ofExcept _) fun expected => ?_
    split
    · exact .pure _
    · exact .bind (.idles_onFiles _) fun _ => .fail _

-- ---------------------------------------------------------------------------
-- Balance
-- ---------------------------------------------------------------------------

/-- Its sessions can all be closed. -/
def ClosesQuietly (f : Fetcher) : Prop := ∀ failure ∈ f.closings, failure = none

structure Settled (start : World) (s : Fetcher × World) : Prop where
  quiet : s.1.ClosesQuietly
  balanced : start.Balanced s.2 [] (!s.1.injected) s.1.isOpen

theorem settled_of_idles (h : act.Keeps Eq World.Idled) : act.Preserves (Settled start) := by
  intro s hs
  obtain ⟨hown, hworld⟩ := h s
  exact ⟨hown ▸ hs.quiet, hown ▸ hworld.balanced hs.balanced⟩

theorem settled_ensureSession : ensureSession.Preserves (Settled start) := by
  rintro ⟨⟨base, channel, injected, isOpen, closings⟩, world⟩ hs
  cases injected <;> cases isOpen
  · exact ⟨hs.quiet, .opened hs.balanced⟩
  · exact hs
  · exact hs
  · exact hs

/-- A session that cannot be closed is kept, and closing it is tried again the next time. -/
theorem run_close_open {f : Fetcher} (h : f.isOpen) (world : World) :
    close.run (f, world) = match f.closings.head?.join with
      | some fault =>
        (.error fault, { f with closings := f.closings.tail }, world.record .httpClosed)
      | none => (.ok (), { f with isOpen := false, closings := f.closings.tail },
        world.record .httpClosed) := by
  unfold close
  rw [run_bind, run_own]
  dsimp only
  rw [if_pos h, run_bind, run_emit]
  dsimp only
  rw [run_bind, run_modifyOwn]
  cases f.closings.head?.join <;> rfl

theorem run_close_closed {f : Fetcher} (h : f.isOpen = false) (world : World) :
    close.run (f, world) = (.ok (), f, world) := by
  unfold close
  rw [run_bind, run_own]
  simp [h]

def afterClose (f : Fetcher) : Fetcher :=
  if f.isOpen then
    { f with isOpen := f.closings.head?.join.isSome, closings := f.closings.tail }
  else f

theorem close_afterClose (s : Fetcher × World) : (close.run s).2.1 = s.1.afterClose := by
  obtain ⟨f, world⟩ := s
  cases h : f.isOpen with
  | true =>
    rw [run_close_open h, afterClose, if_pos h]
    cases f.closings.head?.join with
    | none => rfl
    | some fault => simp [← h]
  | false =>
    rw [run_close_closed h]
    simp [afterClose, h]

theorem ClosesQuietly.head {f : Fetcher} (h : f.ClosesQuietly) : f.closings.head?.join = none := by
  cases hc : f.closings with
  | nil => rfl
  | cons failure rest => exact h failure (by simp [hc])

theorem ClosesQuietly.tail {f : Fetcher} (h : f.ClosesQuietly) :
    ∀ failure ∈ f.closings.tail, failure = none :=
  fun failure hmem => h failure (List.mem_of_mem_tail hmem)

theorem settled_close : close.Preserves (Settled start) := by
  rintro ⟨f, world⟩ ⟨hquiet, hbalanced⟩
  cases hopen : f.isOpen with
  | false =>
    rw [run_close_closed hopen]
    exact ⟨hquiet, hbalanced⟩
  | true =>
    rw [run_close_open hopen, hquiet.head]
    refine ⟨hquiet.tail, ?_⟩
    rw [hopen] at hbalanced
    cases hinjected : f.injected with
    | false =>
      rw [hinjected] at hbalanced
      simpa [hinjected] using World.Balanced.closed hbalanced
    | true =>
      -- A session that was handed in is never open as its own.
      obtain ⟨count, -, hnone⟩ := hbalanced.sessions
      simp [hinjected] at hnone

theorem settled_download (url : String) (path : Path) :
    (download url path).Preserves (Settled start) := by
  refine .bind settled_ensureSession fun _ => settled_of_idles ?_
  refine .bind (.idles_makeDirectories _) fun _ => .bind (idles_request url) fun response =>
    .bind (.attempt (idles_receive response path)) fun result => ?_
  cases result with
  | ok => exact idles_checkLength response url path
  | error fault => exact .bind (.idles_onFiles _) fun _ => .fail fault

theorem settled_withRetries (h : act.Preserves (Settled start)) (waits : List Nat) :
    (withRetries act waits).Preserves (Settled start) := by
  induction waits with
  | nil => exact h
  | cons wait rest ih =>
    refine .bind (.attempt h) fun result => ?_
    cases result with
    | ok a => exact settled_of_idles (.pure a)
    | error fault =>
      dsimp only
      split
      · exact .bind (settled_of_idles (.idles_emit rfl)) fun _ => ih
      · exact settled_of_idles (.fail fault)

theorem settled_fetch (path : Path) : (fetch path).Preserves (Settled start) := by
  refine .bind (settled_of_idles .own) fun fetcher =>
    .bind (.attempt (settled_withRetries (settled_download _ path) waits)) fun result => ?_
  cases result with
  | ok n => exact settled_of_idles (.pure _)
  | error fault =>
    dsimp only
    split
    · exact settled_of_idles (.bind (.idles_onFiles _) fun _ => .pure _)
    · exact settled_of_idles (.fail fault)

end TerrainTiles.Http.Fetcher
