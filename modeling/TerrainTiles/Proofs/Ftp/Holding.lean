import Mathlib.Data.List.Induction
import TerrainTiles.Proofs.Ftp.Renewal
import TerrainTiles.Proofs.Ftp.Verdict

/-!
# Which session a fetcher holds

Once a session is open, what a fetcher does makes no connection and reads no listing: it
goes on with the session it holds or gives it up (`Settles`), and how a fetch ends tells
which (`fetch_settles`, `session_of_run_fetch`).

So the listing that is held belongs to the connection that is held, and no connection is
listed twice (`kept_afterUses`). A fetch makes a connection exactly if it is the first, if
the one before it failed or if the fetcher was closed since (`session_afterUses`).
-/

namespace TerrainTiles

open Act

def Outcome.isFailure {α : Type} : Outcome α → Bool
  | success _ | absent .. => false
  | recoverable .. | fatal .. => true

namespace Ftp.Fetcher

variable {s t u : Fetcher × World}

-- ---------------------------------------------------------------------------
-- Going on
-- ---------------------------------------------------------------------------

/-- What a fetcher holds, but for the transfers that were begun: the connection, the
server at its other end, and the listing. -/
def known (f : Fetcher) : Option (Option (Nat × Server)) × Option Listing :=
  (f.session.map fun session => session.connection.map fun c => (c.number, c.server), f.listing)

theorem idle_of_known_eq {f f' : Fetcher} (h : f.known = f'.known) (hidle : f'.Idle) : f.Idle := by
  obtain ⟨hsession, hlisting⟩ := Prod.mk.inj h
  exact ⟨by simpa [hidle.session] using hsession, hlisting.trans hidle.listing⟩

structure Settles (s t : Fetcher × World) : Prop where
  place : t.1 = { s.1 with session := t.1.session, listing := t.1.listing }
  known : t.1.known = s.1.known ∨ t.1.Idle
  world : s.2.Unrenewed t.2

theorem settles_of_world {world : World} (s : Fetcher × World) (h : s.2.Unrenewed world) :
    Settles s (s.1, world) := ⟨rfl, .inl rfl, h⟩

theorem Settles.trans (h : Settles s t) (h' : Settles t u) : Settles s u where
  place := by rw [h'.place, h.place]
  known := by
    rcases h'.known with hsame | hnone
    · rcases h.known with hsame' | hnone
      · exact .inl (hsame.trans hsame')
      · exact .inr (idle_of_known_eq hsame hnone)
    · exact .inr hnone
  world := IsTrans.trans _ _ _ h.world h'.world

theorem settles_bind {α β : Type} {act : Act Fetcher α} {next : α → Act Fetcher β}
    (h : Settles s (act.run s).2)
    (h' : ∀ a t, act.run s = (.ok a, t) → Settles t ((next a).run t).2) :
    Settles s ((act >>= next).run s).2 := by
  rw [run_bind]
  rcases hrun : act.run s with ⟨_ | a, t⟩ <;> rw [hrun] at h
  · exact h
  · exact h.trans (h' a t hrun)

theorem settles_unlink (path : Path) (s : Fetcher × World) :
    Settles s ((unlink path).run s).2 := by
  rw [run_unlink]
  split
  · exact settles_of_world s (s.2.unrenewed_withFiles _)
  · exact settles_of_world s (Std.Refl.refl s.2)

theorem own_unlink (path : Path) (s : Fetcher × World) : ((unlink path).run s).2.1 = s.1 := by
  rw [run_unlink]
  split <;> rfl

theorem exists_run_close (s : Fetcher × World) : ∃ world,
    (close.run s).2 = ({ s.1 with session := none, listing := none }, world) ∧
      s.2.Unrenewed world := by
  unfold close
  rw [run_bind, run_own]
  dsimp only
  rw [run_bind, run_modifyOwn]
  dsimp only
  cases s.1.session with
  | none => exact ⟨s.2, rfl, Std.Refl.refl s.2⟩
  | some session =>
    dsimp only
    rw [run_bind, run_within]
    dsimp only
    rw [run_ofExcept]
    exact ⟨_, rfl, Session.unrenewed_close (session, s.2)⟩

theorem settles_close (s : Fetcher × World) : Settles s (close.run s).2 := by
  obtain ⟨world, hclose, hworld⟩ := exists_run_close s
  rw [hclose]
  exact ⟨rfl, .inr ⟨rfl, rfl⟩, hworld⟩

theorem idle_close (s : Fetcher × World) : (close.run s).2.1.Idle := by
  obtain ⟨world, hclose, -⟩ := exists_run_close s
  rw [hclose]
  exact ⟨rfl, rfl⟩

theorem settles_finish (f : Fetcher) (path : Path) (result : Except Fault Status)
    (s : Fetcher × World) : Settles s ((f.finish path result).run s).2 := by
  have hdone {outcome : Outcome Path} (t : Fetcher × World) :
      Settles t ((pure outcome : Act Fetcher (Outcome Path)).run t).2 :=
    settles_of_world t (Std.Refl.refl t.2)
  rcases result with fault | _ | _ | _
  · exact settles_bind (settles_close s) fun _ t _ =>
      settles_bind (settles_unlink path t) fun _ u _ => hdone u
  · exact hdone s
  · exact settles_bind (settles_unlink path s) fun _ t _ => hdone t
  · exact settles_bind (settles_unlink path s) fun _ t _ =>
      settles_bind (settles_close t) fun _ u _ => hdone u

/-- After opening, a fetch renews nothing and goes on with what is held or gives it up. -/
theorem fetch_settles (hs : s.1.Attached) (path : Path) :
    Settles (Fetcher.open.run s).2 ((fetch path).run s).2 := by
  rcases hopen : Fetcher.open.run s with ⟨fault | session, t⟩
  · rw [run_fetch_unreached hopen]
    exact settles_of_world t (Std.Refl.refl t.2)
  · cases hlisted : t.1.sizes.contains path.name with
    | false =>
      rw [run_fetch_unlisted hopen hlisted]
      exact settles_of_world t (Std.Refl.refl t.2)
    | true =>
      have hheld : t.1.session = some session := session_of_run_open hopen
      have hattached : t.1.Attached := attached_of_moves (moves_of_run (moves_open s) hopen) hs
      obtain ⟨c, hc⟩ := hattached.connection hheld
      obtain ⟨result, c', left, hretrieve, hn, hserver, hleft⟩ :=
        Session.retrieve_stays (s := (session, t.2)) hc (s.1.remoteFile path.name) path
          (t.1.sizes.size? path.name)
      have hafter : Settles t
          ({ t.1 with session := some { session with connection := some c' } }, left) :=
        ⟨rfl, .inl (by simp [known, hheld, hc, hn, hserver]), hleft.unrenewed⟩
      rw [run_fetch_transferred hopen hlisted hretrieve]
      exact hafter.trans (settles_finish s.1 path result _)

theorem isFailure_failure (fault : Fault) (fatal recoverable : String) :
    (failure fault fatal recoverable).isFailure := by
  unfold failure
  split <;> rfl

theorem session_of_run_open_error {fault : Fault} (h : Fetcher.open.run s = (.error fault, t)) :
    t.1.session = none := by
  cases hf : s.1.session with
  | some session => simp [run_open_held hf] at h
  | none =>
    obtain ⟨asked, -, hopen⟩ := run_open_anew hf
    rw [hopen] at h
    split at h
    · cases h
      exact hf
    · split at h
      · cases h
        exact hf
      · cases h

theorem session_of_run_finish {f : Fetcher} {path : Path} {result : Except Fault Status}
    {outcome : Outcome Path} (hs : s.1.session ≠ none)
    (h : (f.finish path result).run s = (.ok outcome, t)) :
    t.1.session = none ↔ outcome.isFailure := by
  rcases result with fault | _ | _ | _ <;> unfold finish at h
  · obtain ⟨_, u, hclose, h⟩ := run_bind_ok.mp h
    obtain ⟨_, v, hunlink, h⟩ := run_bind_ok.mp h
    have hu : u.1.session = none := by simpa [hclose] using (idle_close s).session
    have hv : v.1 = u.1 := by simpa [hunlink] using own_unlink path u
    cases h
    simp [hv, hu, isFailure_failure]
  · cases h
    simp [hs, Outcome.isFailure]
  · obtain ⟨_, u, hunlink, h⟩ := run_bind_ok.mp h
    have hu : u.1 = s.1 := by simpa [hunlink] using own_unlink path s
    cases h
    simp [hu, hs, notFound, Outcome.isFailure]
  · obtain ⟨_, u, hunlink, h⟩ := run_bind_ok.mp h
    obtain ⟨_, v, hclose, h⟩ := run_bind_ok.mp h
    have hv : v.1.session = none := by simpa [hclose] using (idle_close u).session
    cases h
    simp [hv, Outcome.isFailure]

theorem session_of_run_fetch {path : Path} {outcome : Outcome Path}
    (h : (fetch path).run s = (.ok outcome, t)) : t.1.session = none ↔ outcome.isFailure := by
  rcases hopen : Fetcher.open.run s with ⟨fault | session, u⟩
  · rw [run_fetch_unreached hopen] at h
    cases h
    simp [session_of_run_open_error hopen, isFailure_failure]
  · cases hlisted : u.1.sizes.contains path.name with
    | false =>
      rw [run_fetch_unlisted hopen hlisted] at h
      cases h
      simp [session_of_run_open hopen, notFound, Outcome.isFailure]
    | true =>
      rw [run_fetch_transferred hopen hlisted rfl] at h
      exact session_of_run_finish (by simp) h

-- ---------------------------------------------------------------------------
-- Which listing belongs to which connection
-- ---------------------------------------------------------------------------

/-- A session and a listing are held, or neither is. The connection that is held was made
and then listed with that listing, no connection was listed but once and after it was made,
and those to come have no past. -/
structure Kept (start : World) (directory : String) (s : Fetcher × World) : Prop where
  place : s.1.directory = directory
  suffix : start.events <:+ s.2.events
  known : s.1.Idle ∨ ∃ n server listing, s.1.known = (some (some (n, server)), some listing) ∧
    server.listed directory = .ok listing ∧ n < s.2.connections ∧
    start.renewalsOf n s.2 = [.ftpCreated n, .ftpListed n directory]
  once : ∀ n, (start.renewalsOf n s.2).Sublist [.ftpCreated n, .ftpListed n directory]
  fresh : ∀ n, s.2.connections ≤ n → start.renewalsOf n s.2 = []

section

variable {start : World} {directory : String}

theorem kept_of_idle {f : Fetcher} (hidle : f.Idle) (world : World) :
    Kept world f.directory (f, world) where
  place := rfl
  suffix := List.suffix_rfl
  known := .inl hidle
  once n := by simp [World.renewalsOf]
  fresh n _ := by simp [World.renewalsOf]

theorem kept_settles (h : Settles s t) (hs : Kept start directory s) : Kept start directory t := by
  have hlog (n : Nat) : start.renewalsOf n t.2 = start.renewalsOf n s.2 := by
    rw [World.renewalsOf_trans n hs.suffix h.world.events.suffix, h.world.renewals_eq]
    exact List.append_nil _
  refine ⟨by rw [h.place]; exact hs.place, hs.suffix.trans h.world.events.suffix, ?_, ?_, ?_⟩
  · rcases h.known with hsame | hidle
    · rw [hsame, h.world.connections]
      simp only [hlog]
      exact hs.known.imp_left (idle_of_known_eq hsame)
    · exact .inl hidle
  · intro n
    rw [hlog]
    exact hs.once n
  · intro n hn
    rw [hlog]
    exact hs.fresh n (h.world.connections ▸ hn)

theorem kept_renewed (h : Renewed s t) (hs : Kept start directory s) : Kept start directory t := by
  have hother {n : Nat} (hn : n ≠ s.2.connections) := h.renewalsOf_of_ne hs.suffix hn
  have hnew := h.renewalsOf_new hs.suffix (hs.fresh _ (Nat.le_refl _))
  refine ⟨by rw [h.place]; exact hs.place, hs.suffix.trans h.suffix, ?_, ?_, ?_⟩
  · refine h.held.imp_right ?_
    rintro ⟨session, c, listing, hsession, hlisting, hc, hnumber, hlisted⟩
    refine ⟨c.number, c.server, listing, by simp [known, hsession, hlisting, hc],
      hs.place ▸ hlisted, ?_, ?_⟩
    · rw [hnumber, h.connections]
      omega
    · rw [hnumber, hnew, ← hs.place]
      rcases h.renewals with hlisted | ⟨-, hidle⟩
      · exact hlisted
      · simp [hidle.session] at hsession
  · intro n
    by_cases hn : n = s.2.connections
    · subst hn
      rw [hnew, ← hs.place]
      rcases h.renewals with hlisted | ⟨hmade, -⟩
      · simp [hlisted]
      · simp [hmade]
    · rw [hother hn]
      exact hs.once n
  · intro n hn
    rw [h.connections] at hn
    rw [hother (by omega)]
    exact hs.fresh n (by omega)

/-- A session that is held is on a connection that was made, then listed with the listing
that is held. -/
theorem Kept.connected {session : Session} (hs : Kept start directory s)
    (hsession : s.1.session = some session) :
    ∃ c listing, session.connection = some c ∧ s.1.listing = some listing ∧
      c.server.listed directory = .ok listing ∧
      start.renewalsOf c.number s.2 = [.ftpCreated c.number, .ftpListed c.number directory] := by
  rcases hs.known with hidle | ⟨n, server, listing, hknown, hlisted, -, hlog⟩
  · simp [hidle.session] at hsession
  · obtain ⟨hmap, hlisting⟩ := Prod.mk.inj hknown
    simp only [hsession, Option.map_some, Option.some.injEq] at hmap
    obtain ⟨c, hc, hsame⟩ := Option.map_eq_some_iff.mp hmap
    cases hsame
    exact ⟨c, listing, hc, hlisting, hlisted, hlog⟩

theorem Kept.paired (hs : Kept start directory s) : s.1.session = none ↔ s.1.listing = none := by
  rcases hs.known with hidle | ⟨n, server, listing, hknown, -⟩
  · simp [hidle.session, hidle.listing]
  · obtain ⟨hmap, hlisting⟩ := Prod.mk.inj hknown
    obtain ⟨session, hsession, -⟩ := Option.map_eq_some_iff.mp hmap
    simp [hsession, hlisting]

theorem Kept.idle (hs : Kept start directory s) (h : s.1.session = none) : s.1.Idle :=
  ⟨h, hs.paired.mp h⟩

theorem kept_open (hs : Kept start directory s) : Kept start directory (Fetcher.open.run s).2 := by
  cases hf : s.1.session with
  | none => exact kept_renewed (renewed_open (hs.idle hf)) hs
  | some session => rwa [run_open_held hf]

theorem Use.kept (use : Use) (hattached : s.1.Attached) (hs : Kept start directory s) :
    Kept start directory (use.after s) := by
  cases use with
  | «open» => exact kept_open hs
  | fetch path => exact kept_settles (fetch_settles hattached path) (kept_open hs)
  | close => exact kept_settles (settles_close s) hs
  | outside change => exact kept_settles (settles_of_world s (s.2.unrenewed_withFiles _)) hs

theorem kept_afterUses (uses : List Use) (hattached : s.1.Attached) (hs : Kept start directory s) :
    Kept start directory (afterUses uses s) := by
  induction uses generalizing s with
  | nil => exact hs
  | cons use rest ih =>
    exact ih (attached_of_moves (use.moves hattached) hattached) (use.kept hattached hs)

end

-- ---------------------------------------------------------------------------
-- When a connection is made
-- ---------------------------------------------------------------------------

/-- A fetch makes a connection exactly if no session is held before it. -/
theorem fetch_connects_iff (hs : s.1.Attached) (path : Path) :
    (∃ n, .ftpCreated n ∈ s.2.since ((fetch path).run s).2.2) ↔ s.1.session = none := by
  have hsettles := fetch_settles hs path
  have hmade (n : Nat) : .ftpCreated n ∈ s.2.since ((fetch path).run s).2.2 ↔
      .ftpCreated n ∈ s.2.renewals ((fetch path).run s).2.2 := by
    simp [World.renewals, Event.isRenewal]
  simp only [hmade]
  cases hf : s.1.session with
  | none =>
    have hrenewed := renewed_open ⟨hf, hs.listing_eq_none hf⟩
    rw [hsettles.world.renewals_after hrenewed.suffix]
    refine ⟨fun _ => rfl, fun _ => ⟨s.2.connections, ?_⟩⟩
    rcases hrenewed.renewals with hnew | ⟨hnew, -⟩ <;> simp [hnew]
  | some session =>
    rw [run_open_held hf] at hsettles
    simp [hsettles.world.renewals_eq]

def failed (path : Path) (s : Fetcher × World) : Bool :=
  ((fetch path).run s).1.toOption.any Outcome.isFailure

def Returned (uses : List Use) (s : Fetcher × World) : Prop :=
  ∀ earlier path later, uses = earlier ++ .fetch path :: later →
    ((fetch path).run (afterUses earlier s)).1.isOk

/-- The next fetch is the first one, or the one before it failed or the fetcher was
closed since. -/
def Due (uses : List Use) (s : Fetcher × World) : Prop :=
  (∀ path, .fetch path ∉ uses) ∨ ∃ earlier path later, uses = earlier ++ .fetch path :: later ∧
    (∀ other, .fetch other ∉ later) ∧ (failed path (afterUses earlier s) ∨ .close ∈ later)

section

variable {uses : List Use} {use : Use} {path : Path}

theorem afterUses_concat (uses : List Use) (use : Use) (s : Fetcher × World) :
    afterUses (uses ++ [use]) s = use.after (afterUses uses s) := by
  simp [afterUses]

theorem returned_nil (s : Fetcher × World) : Returned [] s := by
  rintro earlier path later h
  simp at h

theorem Returned.fetch (h : Returned uses s) (path : Path)
    (hfetch : ((fetch path).run (afterUses uses s)).1.isOk) :
    Returned (uses ++ [.fetch path]) s := by
  intro earlier other later huses
  rcases concat_eq_append huses with ⟨-, rfl, ⟨⟩⟩ | ⟨between, -, rfl⟩
  · exact hfetch
  · exact h earlier other between rfl

theorem returned_of_concat (h : Returned (uses ++ [use]) s) : Returned uses s := by
  rintro earlier path later rfl
  exact h earlier path (later ++ [use]) (by simp)

theorem exists_last_fetch (uses : List Use) : (∀ path, .fetch path ∉ uses) ∨
    ∃ earlier path later, uses = earlier ++ .fetch path :: later ∧ ∀ other, .fetch other ∉ later := by
  induction uses using List.reverseRecOn with
  | nil => exact .inl (by simp)
  | append_singleton uses use ih =>
    by_cases hfetch : ∃ path, use = .fetch path
    · obtain ⟨path, rfl⟩ := hfetch
      exact .inr ⟨uses, path, [], rfl, by simp⟩
    · have hno (other : Path) : .fetch other ≠ use := fun h => hfetch ⟨other, h.symm⟩
      rcases ih with hnone | ⟨earlier, path, later, rfl, hlater⟩
      · exact .inl (by simp [hnone, hno])
      · exact .inr ⟨earlier, path, later ++ [use], by simp, by simp [hlater, hno]⟩

theorem due_close (uses : List Use) (s : Fetcher × World) : Due (uses ++ [.close]) s := by
  rcases exists_last_fetch uses with hnone | ⟨earlier, path, later, rfl, hlater⟩
  · exact .inl (by simpa using hnone)
  · exact .inr ⟨earlier, path, later ++ [.close], by simp, by simpa using hlater, .inr (by simp)⟩

theorem due_fetch (uses : List Use) (path : Path) (s : Fetcher × World) :
    Due (uses ++ [.fetch path]) s ↔ failed path (afterUses uses s) := by
  constructor
  · rintro (hnone | ⟨earlier, other, later, huses, hlater, hdue⟩)
    · exact absurd (List.mem_append_right _ (List.mem_singleton_self _)) (hnone path)
    · rcases concat_eq_append huses with ⟨rfl, rfl, ⟨⟩⟩ | ⟨between, rfl, -⟩
      · simpa using hdue
      · exact absurd (List.mem_append_right _ (List.mem_singleton_self _)) (hlater path)
  · exact fun h => .inr ⟨uses, path, [], rfl, by simp, .inl h⟩

theorem due_outside {change : FileSystem → FileSystem} :
    Due (uses ++ [.outside change]) s ↔ Due uses s := by
  constructor
  · rintro (hnone | ⟨earlier, path, later, huses, hlater, hdue⟩)
    · exact .inl (by simpa using hnone)
    · rcases concat_eq_append huses with ⟨-, -, ⟨⟩⟩ | ⟨between, rfl, rfl⟩
      exact .inr ⟨earlier, path, between, rfl, by simpa using hlater, by simpa using hdue⟩
  · rintro (hnone | ⟨earlier, path, later, rfl, hlater, hdue⟩)
    · exact .inl (by simpa using hnone)
    · exact .inr ⟨earlier, path, later ++ [.outside change], by simp, by simpa using hlater,
        by simpa using hdue⟩

/-- In a run of fetches that return, with the fetcher closed between them or not, no
session is held exactly if the next fetch is due to make a connection. -/
theorem session_none_iff_due {f : Fetcher} {world : World} (hidle : f.session = none)
    (hopen : .open ∉ uses) (hreturned : Returned uses (f, world)) :
    (afterUses uses (f, world)).1.session = none ↔ Due uses (f, world) := by
  induction uses using List.reverseRecOn with
  | nil => exact iff_of_true hidle (.inl (by simp))
  | append_singleton uses use ih =>
    rw [afterUses_concat]
    have hbefore := ih (fun h => hopen (List.mem_append_left _ h)) (returned_of_concat hreturned)
    cases use with
    | «open» => simp at hopen
    | fetch path =>
      have hok := hreturned uses path [] rfl
      rw [due_fetch, failed]
      change ((fetch path).run (afterUses uses (f, world))).2.1.session = none ↔ _
      rcases hrun : (fetch path).run (afterUses uses (f, world)) with ⟨fault | outcome, t⟩
      · simp [hrun, Except.isOk, Except.toBool] at hok
      · simpa [Except.toOption] using session_of_run_fetch hrun
    | close => exact iff_of_true (idle_close _).session (due_close uses _)
    | outside change => exact hbefore.trans due_outside.symm

end

/-- Whatever is done with a fetcher, a session is held exactly while a listing is. The
session that is held is open, and the listing is what its server gave when the directory
was listed, once, after the connection was made; no connection is listed again. A fetch
that returns keeps the session it used, unless it failed, which leaves none. So a fetch
makes a connection exactly if it is the first, or the one before it failed or the fetcher
was closed since. -/
theorem session_afterUses {f : Fetcher} (hidle : f.Idle) (world : World) (uses : List Use) :
    let s := afterUses uses (f, world)
    (s.1.session = none ↔ s.1.listing = none) ∧
    (∀ session listing, s.1.session = some session → s.1.listing = some listing →
      ∃ c, session.connection = some c ∧ c.server.listed f.directory = .ok listing ∧
        world.renewalsOf c.number s.2 = [.ftpCreated c.number, .ftpListed c.number f.directory]) ∧
    (∀ n, (world.renewalsOf n s.2).Sublist [.ftpCreated n, .ftpListed n f.directory]) ∧
    (∀ path outcome t, (fetch path).run s = (.ok outcome, t) →
      if outcome.isFailure then t.1.session = none
      else t.1.session ≠ none ∧ t.1.known = (Fetcher.open.run s).2.1.known) ∧
    (.open ∉ uses → Returned uses (f, world) → ∀ path,
      ((∃ n, .ftpCreated n ∈ s.2.since ((fetch path).run s).2.2) ↔ Due uses (f, world))) := by
  intro s
  have hmoves := moves_afterUses uses (s := (f, world)) hidle.attached
  have hattached : s.1.Attached := attached_of_moves hmoves hidle.attached
  have hkept : Kept world f.directory s :=
    kept_afterUses uses hidle.attached (kept_of_idle hidle world)
  refine ⟨hkept.paired, ?_, hkept.once, ?_, ?_⟩
  · intro session listing hs hl
    obtain ⟨c, found, hc, hfound, hlisted, hlog⟩ := hkept.connected hs
    obtain rfl : found = listing := Option.some.inj (hfound.symm.trans hl)
    exact ⟨c, hc, hlisted, hlog⟩
  · intro path outcome t hrun
    have hheld := session_of_run_fetch hrun
    have hsettles := fetch_settles hattached path
    rw [hrun] at hsettles
    split
    · next hfailed => exact hheld.mpr hfailed
    · next hgood =>
      have hholds : t.1.session ≠ none := fun h => hgood (hheld.mp h)
      exact ⟨hholds, hsettles.known.resolve_right fun hidle => hholds hidle.session⟩
  · intro hopen hreturned path
    rw [fetch_connects_iff hattached, session_none_iff_due hidle.session hopen hreturned]

/-- The second fetch of an archive makes a connection anew when the first lost it, and the
third goes on with that. -/
theorem session_afterUses_lostOnce :
    let s := afterUses [.fetch place] (idle, lostOnce)
    let t := afterUses [.fetch place, .fetch place] (idle, lostOnce)
    (∃ n, .ftpCreated n ∈ s.2.since ((fetch place).run s).2.2) ∧
      ¬ ∃ n, .ftpCreated n ∈ t.2.since ((fetch place).run t).2.2 := by
  have hfirst : Returned [.fetch place] (idle, lostOnce) :=
    (returned_nil (idle, lostOnce)).fetch place (by decide +kernel)
  have hsecond : Returned [.fetch place, .fetch place] (idle, lostOnce) :=
    hfirst.fetch place (by decide +kernel)
  have hdue : Due [.fetch place] (idle, lostOnce) :=
    (due_fetch [] place _).mpr (by decide +kernel)
  have hkeeps : ¬ Due [.fetch place, .fetch place] (idle, lostOnce) :=
    (due_fetch [.fetch place] place _).not.mpr (by decide +kernel)
  obtain ⟨-, -, -, -, hs⟩ := session_afterUses idle_idle lostOnce [.fetch place]
  obtain ⟨-, -, -, -, ht⟩ := session_afterUses idle_idle lostOnce [.fetch place, .fetch place]
  have hmade := hs (by simp) hfirst place
  have hmade' := ht (by simp) hsecond place
  exact ⟨hmade.mpr hdue, fun h => hkeeps (hmade'.mp h)⟩

end Ftp.Fetcher

end TerrainTiles
