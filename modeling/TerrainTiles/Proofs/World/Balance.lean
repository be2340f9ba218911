import Mathlib.Data.List.Induction
import TerrainTiles.Proofs.World.Log

/-!
# What is opened and what is ended

`Event.standing` lists the FTP connections that a stretch of events made and did
not end: by a quit that was regular, or by closing the connection. Every other one
was ended after it was made (`Event.ended_of_not_standing`).

`World.Balanced` says of what happened since a moment which connections stand and
that there never was more than one, and that the sessions opened and closed for
HTTP alternate. Most events change nothing about it (`Idled.balanced`); the others
have a lemma each.
-/

namespace TerrainTiles

-- ---------------------------------------------------------------------------
-- Connections that stand
-- ---------------------------------------------------------------------------

namespace Event

def account (standing : List Nat) : Event → List Nat
  | ftpCreated n => standing ++ [n]
  | ftpQuit n true | ftpClosed n => standing.filter (· ≠ n)
  | _ => standing

def standing (log : List Event) : List Nat := log.foldl account []

def made? : Event → Option Nat
  | ftpCreated n => some n
  | _ => none

def isSession : Event → Bool
  | httpOpened | httpClosed => true
  | _ => false

def isIdle : Event → Bool
  | ftpCreated _ | ftpQuit _ true | ftpClosed _ | httpOpened | httpClosed => false
  | _ => true

def Ended (log : List Event) (n : Nat) : Prop :=
  [ftpCreated n, ftpQuit n true].Sublist log ∨ [ftpCreated n, ftpClosed n].Sublist log

variable {log new past : List Event} {event : Event} {n : Nat}

theorem standing_concat (log : List Event) (event : Event) :
    standing (log ++ [event]) = account (standing log) event := by
  simp [standing, List.foldl_append]

theorem account_of_isIdle (h : event.isIdle) (standing : List Nat) :
    account standing event = standing := by
  cases event with
  | ftpQuit n regular => cases regular <;> simp_all [isIdle, account]
  | _ => first | rfl | simp [isIdle] at h

theorem made?_of_isIdle (h : event.isIdle) : event.made? = none := by
  cases event <;> first | rfl | simp [isIdle] at h

theorem isSession_of_isIdle (h : event.isIdle) : event.isSession = false := by
  cases event <;> first | rfl | simp [isIdle] at h

theorem ends_of_not_mem {standing : List Nat} (hn : n ∈ standing)
    (h : n ∉ account standing event) : event = ftpQuit n true ∨ event = ftpClosed n := by
  cases event with
  | ftpQuit m regular =>
    cases regular with
    | false => exact absurd hn h
    | true =>
      obtain rfl : n = m := by simpa [account, hn] using h
      exact .inl rfl
  | ftpClosed m =>
    obtain rfl : n = m := by simpa [account, hn] using h
    exact .inr rfl
  | ftpCreated m => simp [account, hn] at h
  | _ => exact absurd hn h

theorem ended_of_not_standing (hmade : ftpCreated n ∈ log) (h : n ∉ standing log) :
    Ended log n := by
  induction log using List.reverseRecOn with
  | nil => simp at hmade
  | append_singleton log event ih =>
    rw [standing_concat] at h
    by_cases hearlier : ftpCreated n ∈ log
    · by_cases hn : n ∈ standing log
      · -- The last event ends it.
        have hlast : [ftpCreated n].Sublist log := List.singleton_sublist.mpr hearlier
        have hends : event = ftpQuit n true ∨ event = ftpClosed n := ends_of_not_mem hn h
        rcases hends with rfl | rfl
        · exact .inl (hlast.append (List.Sublist.refl [ftpQuit n true]))
        · exact .inr (hlast.append (List.Sublist.refl [ftpClosed n]))
      · exact (ih hearlier hn).imp (·.trans (List.sublist_append_left _ _))
          (·.trans (List.sublist_append_left _ _))
    · obtain rfl : ftpCreated n = event := by simpa [hearlier] using hmade
      simp [account] at h

end Event

-- ---------------------------------------------------------------------------
-- Balance
-- ---------------------------------------------------------------------------

namespace World

open Event (standing)

/-- What was opened since a moment and ended: all connections but those that stand,
never more than one of which did, and all sessions but the last if that is open.
Sessions are opened at all only if they are owned. -/
structure Balanced (start world : World) (live : List Nat) (owned isOpen : Bool) : Prop where
  begins : start.events <:+ world.events
  standing : standing (start.since world) = live
  single : ∀ past, past <+: start.since world → (Event.standing past).length ≤ 1
  distinct : ((start.since world).filterMap Event.made?).Nodup
  below : ∀ n ∈ (start.since world).filterMap Event.made?, n < world.connections
  sessions : ∃ count, (start.since world).filter Event.isSession =
      (List.replicate count [.httpOpened, .httpClosed]).flatten ++
        (if isOpen then [.httpOpened] else []) ∧
    (owned = false → count = 0 ∧ isOpen = false)

variable {start world after : World} {live : List Nat} {owned isOpen : Bool} {n : Nat}
  {event : Event}

theorem balanced_start (start : World) (owned : Bool) : Balanced start start [] owned false where
  begins := List.suffix_rfl
  standing := by simp [Event.standing]
  single := by simp [Event.standing]
  distinct := by simp
  below := by simp
  sessions := ⟨0, by simp⟩

theorem Balanced.record (h : Balanced start world live owned isOpen)
    (hevents : after.events = event :: world.events)
    (hlive : (event.account live).length ≤ 1) (hc : world.connections ≤ after.connections)
    (hmade : ∀ n ∈ event.made?, world.connections ≤ n ∧ n < after.connections) {isOpen' : Bool}
    (hsessions : ∃ count, (start.since world ++ [event]).filter Event.isSession =
        (List.replicate count [.httpOpened, .httpClosed]).flatten ++
          (if isOpen' then [.httpOpened] else []) ∧
      (owned = false → count = 0 ∧ isOpen' = false)) :
    Balanced start after (event.account live) owned isOpen' := by
  have hlog : start.since after = start.since world ++ [event] := by
    have hsince := since_record h.begins event
    rwa [since, show (world.record event).events = after.events from hevents.symm] at hsince
  have hstanding : Event.standing (start.since after) = event.account live := by
    rw [hlog, Event.standing_concat, h.standing]
  refine ⟨?_, hstanding, ?_, ?_, ?_, hlog ▸ hsessions⟩
  · exact hevents ▸ h.begins.trans (List.suffix_cons _ _)
  · intro past hpast
    rw [hlog, List.prefix_concat_iff] at hpast
    rcases hpast with rfl | hpast
    · rwa [← hlog, hstanding]
    · exact h.single past hpast
  · rw [hlog, List.filterMap_append, List.nodup_append]
    refine ⟨h.distinct, ?_, ?_⟩
    · cases hm : event.made? <;> simp [hm]
    · intro n hn m hm hnm
      have hnew := (hmade m (by simpa using hm)).1
      have hold := h.below n hn
      omega
  · intro n hn
    rw [hlog, List.filterMap_append, List.mem_append] at hn
    rcases hn with hn | hn
    · exact Nat.lt_of_lt_of_le (h.below n hn) hc
    · exact (hmade n (by simpa using hn)).2

theorem Balanced.length_live (h : Balanced start world live owned isOpen) : live.length ≤ 1 :=
  h.standing ▸ h.single _ List.prefix_rfl

theorem Balanced.congr (h : Balanced start world live owned isOpen)
    (hevents : after.events = world.events) (hc : after.connections = world.connections) :
    Balanced start after live owned isOpen := by
  have hlog : start.since after = start.since world := by rw [since, since, hevents]
  exact ⟨hevents ▸ h.begins, hlog ▸ h.standing, hlog ▸ h.single, hlog ▸ h.distinct,
    hlog ▸ hc ▸ h.below, hlog ▸ h.sessions⟩

structure Idled (before after : World) : Prop where
  events : Records (fun event => event.isIdle) before after
  connections : after.connections = before.connections

instance : IsPreorder World Idled where
  refl _ := ⟨records_of_eq rfl, rfl⟩
  trans _ _ _ h h' := ⟨h.events.trans h'.events, h'.connections.trans h.connections⟩

theorem idled_record (world : World) {event : Event} (h : event.isIdle) :
    Idled world (world.record event) := ⟨⟨[event], rfl, by simpa using h⟩, rfl⟩

theorem idled_withFiles (world : World) (files : FileSystem) :
    Idled world (world.withFiles files) := ⟨records_of_eq rfl, rfl⟩

theorem Idled.balanced (h : Idled world after) (hb : Balanced start world live owned isOpen) :
    Balanced start after live owned isOpen := by
  obtain ⟨⟨new, hevents, hidle⟩, hc⟩ := h
  induction new generalizing after with
  | nil => exact hb.congr hevents hc
  | cons event rest ih =>
    let before : World := { after with events := rest ++ world.events }
    have hbefore : Balanced start before live owned isOpen :=
      ih hc rfl fun other ho => hidle other (List.mem_cons_of_mem _ ho)
    have he : event.isIdle := hidle event List.mem_cons_self
    have hafter : Balanced start after (event.account live) owned isOpen := by
      refine hbefore.record hevents ?_ (Nat.le_refl _) ?_ ?_
      · rw [Event.account_of_isIdle he]
        exact hb.length_live
      · simp [Event.made?_of_isIdle he]
      · simpa [Event.isSession_of_isIdle he] using hbefore.sessions
    rwa [Event.account_of_isIdle he] at hafter

theorem Balanced.made (h : Balanced start world [] owned isOpen)
    (hevents : after.events = .ftpCreated world.connections :: world.events)
    (hc : after.connections = world.connections + 1) :
    Balanced start after [world.connections] owned isOpen := by
  refine h.record hevents (by simp [Event.account]) (by omega) ?_ ?_
  · rintro n ⟨⟩
    omega
  · simpa [Event.isSession] using h.sessions

theorem Balanced.ended (h : Balanced start world [n] owned isOpen)
    (he : event = .ftpQuit n true ∨ event = .ftpClosed n) :
    Balanced start (world.record event) [] owned isOpen := by
  have haccount : event.account [n] = [] := by rcases he with rfl | rfl <;> simp [Event.account]
  have hmade : event.made? = none := by rcases he with rfl | rfl <;> rfl
  have hsession : event.isSession = false := by rcases he with rfl | rfl <;> rfl
  have hafter : Balanced start (world.record event) (event.account [n]) owned isOpen :=
    h.record (world.events_record event) (by simp [haccount]) (Nat.le_refl _) (by simp [hmade])
      (by simpa [hsession] using h.sessions)
  rwa [haccount] at hafter

theorem Balanced.opened (h : Balanced start world live true false) :
    Balanced start (world.record .httpOpened) live true true := by
  obtain ⟨count, hsessions, -⟩ := h.sessions
  have hafter : Balanced start (world.record .httpOpened) (Event.account live .httpOpened)
      true true := by
    refine h.record (world.events_record _) (by exact h.length_live) (Nat.le_refl _) (by simp [Event.made?]) ?_
    exact ⟨count, by simp [hsessions, Event.isSession], by simp⟩
  exact hafter

theorem Balanced.closed (h : Balanced start world live true true) :
    Balanced start (world.record .httpClosed) live true false := by
  obtain ⟨count, hsessions, -⟩ := h.sessions
  have hafter : Balanced start (world.record .httpClosed) (Event.account live .httpClosed)
      true false := by
    refine h.record (world.events_record _) (by exact h.length_live) (Nat.le_refl _) (by simp [Event.made?]) ?_
    refine ⟨count + 1, ?_, by simp⟩
    rw [List.filter_append, hsessions, List.replicate_succ', List.flatten_concat]
    simp [Event.isSession]
  exact hafter

end World

-- ---------------------------------------------------------------------------
-- Actions
-- ---------------------------------------------------------------------------

namespace Act.Keeps

variable {σ α : Type} {Q : σ → σ → Prop} [IsPreorder σ Q]

theorem idles_emit {event : Event} (h : event.isIdle) :
    (Act.emit event : Act σ Unit).Keeps Q World.Idled :=
  fun s => ⟨Std.Refl.refl _, s.2.idled_record h⟩

theorem idles_onFiles (operation : FileSystem → Except FileError (α × FileSystem)) :
    (Act.onFiles operation : Act σ α).Keeps Q World.Idled := by
  intro s
  rw [run_onFiles]
  split
  · exact ⟨Std.Refl.refl _, s.2.idled_withFiles _⟩
  · exact refl s

theorem idles_makeDirectories (path : Path) :
    (Act.makeDirectories path : Act σ Unit).Keeps Q World.Idled :=
  fun s => ⟨Std.Refl.refl _, s.2.idled_withFiles _⟩

theorem idles_writeChunks (file : Location) (chunks : List Bytes) :
    (Act.writeChunks file chunks : Act σ Unit).Keeps Q World.Idled := by
  intro s
  rw [run_writeChunks]
  exact ⟨Std.Refl.refl _, s.2.idled_withFiles _⟩

end Act.Keeps

end TerrainTiles
