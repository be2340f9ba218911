import TerrainTiles.Proofs.Ftp.Moves
import TerrainTiles.Proofs.World.Log

/-!
# When a connection is made and listed

`World.renewals` reads off the log which connections were made and which directories
listed on them. Opening a session makes one connection, and lists the directory on it
once unless the session is refused (`renewed_open`). Nothing else that sessions do
renews anything (`World.Unrenewed`).
-/

namespace TerrainTiles

open Act

def Event.isRenewal : Event → Bool
  | ftpCreated _ | ftpListed .. => true
  | _ => false

def Event.renews (n : Nat) : Event → Bool
  | ftpCreated m | ftpListed m _ => m = n
  | _ => false

theorem Event.isRenewal_of_renews {n : Nat} {event : Event} (h : event.renews n) :
    event.isRenewal := by
  cases event <;> first | rfl | cases h

theorem Event.not_isRenewal_of_isTransfer {event : Event} (h : event.isTransfer) :
    event.isRenewal = false := by
  cases event <;> first | rfl | cases h

namespace World

def renewals (before after : World) : List Event := (before.since after).filter Event.isRenewal

def renewalsOf (n : Nat) (before after : World) : List Event :=
  (before.since after).filter (Event.renews n)

structure Unrenewed (before after : World) : Prop where
  connections : after.connections = before.connections
  events : Records (fun event => event.isRenewal = false) before after

instance : IsPreorder World Unrenewed where
  refl _ := ⟨rfl, records_of_eq rfl⟩
  trans _ _ _ h h' := ⟨h'.connections.trans h.connections, h.events.trans h'.events⟩

variable {before after later world : World}

theorem unrenewed_record (world : World) {event : Event} (h : event.isRenewal = false) :
    Unrenewed world (world.record event) := ⟨rfl, [event], rfl, by simpa using h⟩

theorem unrenewed_withFiles (world : World) (files : FileSystem) :
    Unrenewed world (world.withFiles files) := ⟨rfl, records_of_eq rfl⟩

theorem Transferred.unrenewed (h : Transferred before after) : Unrenewed before after :=
  ⟨h.connections, h.events.mono fun _ => Event.not_isRenewal_of_isTransfer⟩

theorem unrenewed_parted (world : World) (c : Ftp.Connection) :
    Unrenewed world (world.parted c) := by
  unfold parted
  dsimp only
  split
  · exact IsTrans.trans _ _ _ (world.unrenewed_record rfl) (unrenewed_record _ rfl)
  · exact world.unrenewed_record rfl

theorem renewalsOf_eq (n : Nat) (before after : World) :
    before.renewalsOf n after = (before.renewals after).filter (Event.renews n) := by
  rw [renewals, List.filter_filter, renewalsOf]
  refine List.filter_congr fun event _ => ?_
  cases hn : event.renews n with
  | false => simp
  | true => simp [Event.isRenewal_of_renews hn]

theorem Unrenewed.renewals_eq (h : Unrenewed before after) : before.renewals after = [] :=
  List.filter_eq_nil_iff.mpr fun event he => by simp [h.events.of_mem_since he]

theorem renewals_trans (h : before.events <:+ after.events) (h' : after.events <:+ later.events) :
    before.renewals later = before.renewals after ++ after.renewals later := by
  rw [renewals, since_trans h h', List.filter_append, renewals, renewals]

theorem renewalsOf_trans (n : Nat) (h : before.events <:+ after.events)
    (h' : after.events <:+ later.events) :
    before.renewalsOf n later =
      before.renewalsOf n after ++ (after.renewals later).filter (Event.renews n) := by
  rw [renewalsOf_eq, renewals_trans h h', List.filter_append, ← renewalsOf_eq]

theorem Unrenewed.renewals_after (h : Unrenewed after later) (hbefore : before.events <:+ after.events) :
    before.renewals later = before.renewals after := by
  rw [renewals_trans hbefore h.events.suffix, h.renewals_eq, List.append_nil]

theorem renewals_record (world : World) {event : Event} (h : event.isRenewal) :
    world.renewals (world.record event) = [event] := by
  rw [renewals, since_record List.suffix_rfl, since_self]
  simp [h]

theorem renewals_meeting (world : World) (channel : Channel) :
    world.renewals (world.meeting channel) = [.ftpCreated world.connections] := by
  have hmet : (world.meeting channel).events =
      [.ftpCreated world.connections] ++ world.events := by
    rw [meeting_eq]
    rfl
  rw [renewals, since_eq hmet]
  rfl

theorem suffix_meeting (world : World) (channel : Channel) :
    world.events <:+ (world.meeting channel).events := by
  rw [meeting_eq]
  exact List.suffix_cons _ _

end World

namespace Ftp

-- ---------------------------------------------------------------------------
-- Sessions
-- ---------------------------------------------------------------------------

namespace Session

variable {s : Session × World} {c : Connection} {directory : String}

theorem unrenewed_call {event : Event} (h : event.isRenewal = false) (failure : Option Fault) :
    (call event failure).Keeps Eq World.Unrenewed := by
  intro s
  rw [run_call]
  exact ⟨rfl, s.2.unrenewed_record h⟩

theorem unrenewed_prepare (session : Session) (c : Connection) :
    (prepare session c).Keeps Eq World.Unrenewed :=
  .bind (unrenewed_call rfl _) fun _ => .bind (unrenewed_call rfl _) fun _ =>
    .bind (unrenewed_call rfl _) fun _ => unrenewed_call rfl _

theorem unrenewed_sizesOf (c : Connection) (directory : String) (listing : Listing)
    (names : List String) : (sizesOf c directory listing names).Keeps Eq World.Unrenewed := by
  induction names generalizing listing with
  | nil => exact .pure listing
  | cons entry rest ih =>
    unfold sizesOf
    dsimp only
    refine .bind (fun s => ⟨rfl, s.2.unrenewed_record rfl⟩) fun _ => ?_
    split
    · exact ih _
    · split
      · exact ih _
      · exact .fail _

theorem unrenewed_close (s : Session × World) : s.2.Unrenewed (close.run s).2.2 := by
  cases hc : s.1.connection with
  | none =>
    unfold close
    rw [run_bind, run_own]
    simp only [hc]
    exact Std.Refl.refl s.2
  | some c =>
    rw [run_close hc]
    exact s.2.unrenewed_parted c

theorem unrenewed_open (hs : s.1.connection = none) :
    (s.2.meeting s.1.channel).Unrenewed (Session.open.run s).2.2 := by
  have hprepared := (unrenewed_prepare s.1 (s.1.connecting s.2) (s.1, s.2.meeting s.1.channel)).2
  unfold Session.open
  rw [run_bind, run_own]
  simp only [hs]
  rw [run_bind_of_ok (run_newConnection s), run_bind, run_attempt]
  rcases hrun : (prepare s.1 (s.1.connecting s.2)).run (s.1, s.2.meeting s.1.channel) with
    ⟨fault | u, own, asked⟩
  · rw [hrun] at hprepared
    have hclosed : (closeConnection (s.1.connecting s.2) >>= fun _ =>
        (Act.fail fault : Act Session Unit)).Keeps Eq World.Unrenewed :=
      .bind (unrenewed_call rfl _) fun _ => .fail fault
    exact IsTrans.trans _ _ _ hprepared (hclosed (own, asked)).2
  · rw [hrun] at hprepared
    exact hprepared

theorem renewals_listSizes (hc : s.1.connection = some c) (directory : String) :
    s.2.events <:+ ((listSizes directory).run s).2.2.events ∧
      s.2.renewals ((listSizes directory).run s).2.2 = [.ftpListed c.number directory] := by
  let listed := s.2.record (.ftpListed c.number directory)
  have hlisted : s.2.events <:+ listed.events := List.suffix_cons _ _
  suffices h : listed.Unrenewed ((listSizes directory).run s).2.2 by
    rw [h.renewals_after hlisted, s.2.renewals_record rfl]
    exact ⟨hlisted.trans h.events.suffix, rfl⟩
  unfold listSizes
  rw [run_bind_of_ok (run_requireOpen hc), run_bind, run_emit]
  dsimp only
  cases c.server.catalogue.listing with
  | ok listing => exact Std.Refl.refl listed
  | error fault =>
    dsimp only
    split
    · have hnames : (Act.emit (.ftpNamed c.number directory) >>= fun _ =>
          Act.ofExcept c.server.names >>= sizesOf c directory []).Keeps Eq World.Unrenewed :=
        .bind (fun s => ⟨rfl, s.2.unrenewed_record rfl⟩) fun _ => .bind (.ofExcept _) fun names =>
          unrenewed_sizesOf c directory [] names
      exact (hnames (s.1, listed)).2
    · exact Std.Refl.refl listed

end Session

-- ---------------------------------------------------------------------------
-- Opening
-- ---------------------------------------------------------------------------

namespace Fetcher

variable {s t : Fetcher × World} {start : World} {n : Nat}

/-- Connecting makes one connection, and lists the directory on it unless it is refused. -/
theorem renewals_connect {session : Session} (hs : session.connection = none) (directory : String)
    (world : World) :
    let connected := ((connect directory).run (session, world)).2.2
    world.events <:+ connected.events ∧ world.renewals connected = .ftpCreated world.connections ::
      match (session.connecting world).server.refusal with
        | some _ => []
        | none => [.ftpListed world.connections directory] := by
  intro connected
  have hmet := world.suffix_meeting session.channel
  have hopened := Session.unrenewed_open (s := (session, world)) hs
  have hmade := hopened.renewals_after hmet
  rw [world.renewals_meeting] at hmade
  have hsuffix := hmet.trans hopened.events.suffix
  cases hr : (session.connecting world).server.refusal with
  | some fault =>
    obtain ⟨asked, -, hopen⟩ := Session.run_open_refused (s := (session, world)) hs hr
    have hconnect : (connect directory).run (session, world) = (_, _, _) := run_bind_of_error hopen
    rw [hopen] at hmade hsuffix
    rw [show connected = _ from congrArg (·.2.2) hconnect]
    exact ⟨hsuffix, hmade⟩
  | none =>
    obtain ⟨asked, -, hopen⟩ := Session.run_open_admitted (s := (session, world)) hs hr
    have hconnect : (connect directory).run (session, world) = _ := run_bind_of_ok hopen
    obtain ⟨hlater, hlisted⟩ := Session.renewals_listSizes
      (s := ({ session with connection := some (session.connecting world) }, asked)) rfl directory
    rw [hopen] at hmade hsuffix
    rw [show connected = _ from congrArg (·.2.2) hconnect]
    refine ⟨hsuffix.trans hlater, ?_⟩
    rw [World.renewals_trans hsuffix hlater, hmade, hlisted, Session.number_connecting]
    rfl

/-- What is left to do when the connection is made and listed renews nothing. -/
theorem unrenewed_open (h : s.1.session = none) :
    ((connect s.1.directory).run (s.1.newSession, s.2)).2.2.Unrenewed
      (Fetcher.open.run s).2.2 := by
  have hnew : ({ host := s.1.host, channel := s.1.channel } : Session) = s.1.newSession := rfl
  unfold Fetcher.open
  rw [run_bind, run_own]
  simp only [h]
  rw [run_bind, run_within, hnew]
  rcases (connect s.1.directory).run (s.1.newSession, s.2) with ⟨fault | listing, session, world⟩
  · have hclosed := Session.unrenewed_close (session, world)
    dsimp only
    rw [run_bind, run_within]
    dsimp only
    rw [run_bind, run_ofExcept]
    cases (Session.close.run (session, world)).1 <;> exact hclosed
  · exact Std.Refl.refl world

structure Renewed (s t : Fetcher × World) : Prop where
  place : t.1 = { s.1 with session := t.1.session, listing := t.1.listing }
  connections : t.2.connections = s.2.connections + 1
  suffix : s.2.events <:+ t.2.events
  renewals : s.2.renewals t.2 =
      [.ftpCreated s.2.connections, .ftpListed s.2.connections s.1.directory] ∨
    s.2.renewals t.2 = [.ftpCreated s.2.connections] ∧ t.1.Idle
  held : t.1.Idle ∨ ∃ session c listing, t.1.session = some session ∧
    t.1.listing = some listing ∧ session.connection = some c ∧ c.number = s.2.connections ∧
    c.server.listed s.1.directory = .ok listing

theorem renewed_open (h : s.1.Idle) : Renewed s (Fetcher.open.run s).2 := by
  obtain ⟨asked, hasked, hopen⟩ := run_open_anew h.session
  obtain ⟨hsuffix, hconnected⟩ := renewals_connect (rfl : s.1.newSession.connection = none) s.1.directory s.2
  have hrest := unrenewed_open h.session
  have hlog := hrest.renewals_after hsuffix
  rw [hconnected] at hlog
  have hsuffix' := hsuffix.trans hrest.events.suffix
  have hcount : asked.connections = s.2.connections + 1 := by
    rw [hasked.rest, World.meeting_eq]
  have hnumber := Session.number_connecting s.1.newSession s.2
  cases hr : (s.1.newSession.connecting s.2).server.refusal with
  | some fault =>
    simp only [hr] at hopen hlog
    rw [hopen] at hlog hsuffix' ⊢
    exact ⟨rfl, hcount, hsuffix', .inr ⟨hlog, h⟩, .inl h⟩
  | none =>
    simp only [hr] at hopen hlog
    cases hl : (s.1.newSession.connecting s.2).server.listed s.1.directory with
    | error fault =>
      simp only [hl] at hopen
      rw [hopen] at hlog hsuffix' ⊢
      have hparted := (asked.unrenewed_parted (s.1.newSession.connecting s.2)).connections
      exact ⟨rfl, hparted.trans hcount, hsuffix', .inl hlog, .inl h⟩
    | ok listing =>
      simp only [hl] at hopen
      rw [hopen] at hlog hsuffix' ⊢
      exact ⟨rfl, hcount, hsuffix', .inl hlog, .inr ⟨_, _, listing, rfl, rfl, rfl, hnumber, hl⟩⟩

theorem Renewed.renewalsOf_of_ne (h : Renewed s t) (hs : start.events <:+ s.2.events)
    (hn : n ≠ s.2.connections) : start.renewalsOf n t.2 = start.renewalsOf n s.2 := by
  have hnone : (s.2.renewals t.2).filter (Event.renews n) = [] := by
    rcases h.renewals with hnew | ⟨hnew, -⟩ <;> simp [hnew, Event.renews, Ne.symm hn]
  rw [World.renewalsOf_trans n hs h.suffix, hnone, List.append_nil]

theorem Renewed.renewalsOf_new (h : Renewed s t) (hs : start.events <:+ s.2.events)
    (hfresh : start.renewalsOf s.2.connections s.2 = []) :
    start.renewalsOf s.2.connections t.2 = s.2.renewals t.2 := by
  rw [World.renewalsOf_trans _ hs h.suffix, hfresh, List.nil_append]
  rcases h.renewals with hnew | ⟨hnew, -⟩ <;> simp [hnew, Event.renews]

end Fetcher

end Ftp

end TerrainTiles
