import TerrainTiles.Proofs.Descriptor.Fetching
import TerrainTiles.Proofs.Fetcher.Balance

/-!
# No session is leaked

`Fetcher.Accounts` says that a fetcher holds all that a stretch of events opened and
did not end. While HTTP sessions can be closed, the fetcher of a descriptor accounts for
everything since the start, through every sequence of steps, and once the descriptor was
disposed of it holds nothing (`accounts_afterSteps`).
-/

namespace TerrainTiles

theorem World.Decoded.idled {before after : World} (h : before.Decoded after) :
    before.Idled after := by
  refine ⟨h.events.mono fun event he => ?_, by rw [h.rest]⟩
  cases event <;> simp_all [Event.isDecode, Event.isIdle]

theorem World.Decoded.servers {before after : World} (h : before.Decoded after) :
    after.servers = before.servers := by rw [h.rest]

namespace Fetcher

open Event (standing)

/-- At all times all connections made but one at most had been ended, and in the end
that is the one that is held. Sessions were opened and closed in turn, the last one is
open if one is held, and there are none unless they are the fetcher's own. -/
structure Accounts (fetcher : Fetcher) (log : List Event) : Prop where
  distinct : (log.filterMap Event.made?).Nodup
  ended : ∀ past, past <+: log → ∃ current : Option Nat, ∀ n, .ftpCreated n ∈ past →
    current = some n ∨ Event.Ended past n
  standing : standing log = fetcher.connections
  held : ∀ n, .ftpCreated n ∈ log → n ∈ fetcher.connections ∨ Event.Ended log n
  sessions : ∃ count, log.filter Event.isSession =
    (List.replicate count [.httpOpened, .httpClosed]).flatten ++
      (if fetcher.holdsSession then [.httpOpened] else [])
  injected : fetcher.ownsSessions = false → ∀ event ∈ log, event.isSession = false

theorem Settled.accounts {start world : World} {f : Fetcher} (h : Settled start (f, world)) :
    f.Accounts (start.since world) := by
  have hb := h.balanced
  obtain ⟨count, hsessions, howned⟩ := hb.sessions
  have hended : ∀ {past : List Event} {n : Nat}, .ftpCreated n ∈ past →
      n ∈ standing past ∨ Event.Ended past n := by
    intro past n hn
    by_cases hstands : n ∈ standing past
    · exact .inl hstands
    · exact .inr (Event.ended_of_not_standing hn hstands)
  refine ⟨hb.distinct, ?_, hb.standing, ?_, ⟨count, hsessions⟩, ?_⟩
  · intro past hpast
    refine ⟨(standing past).head?, fun n hn => (hended hn).imp_left fun hstands => ?_⟩
    have hsingle := hb.single past hpast
    match hp : standing past with
    | [] => simp [hp] at hstands
    | [m] => simpa [hp, eq_comm] using hstands
    | _ :: _ :: _ => simp [hp] at hsingle
  · intro n hn
    exact hb.standing ▸ hended hn
  · intro hinjected event he
    obtain ⟨rfl, hclosed⟩ := howned hinjected
    dsimp only at hclosed
    rw [hclosed] at hsessions
    simp only [List.replicate_zero, List.flatten_nil, List.nil_append] at hsessions
    simpa using List.filter_eq_nil_iff.mp hsessions event he

end Fetcher

namespace Descriptor

variable {d : Descriptor} {fetcher : Fetcher} {start world : World} {s : Descriptor × World}

def Accounted (start : World) (s : Descriptor × World) : Prop :=
  ∃ fetcher, s.1.fetcher = some fetcher ∧ Fetcher.Settled start (fetcher, s.2)

theorem accounted_asked (path : Path) (h : Fetcher.Settled start (fetcher, world)) :
    Fetcher.Settled start (asked fetcher path world).2 :=
  Fetcher.settled_fetch path _ (h.aside (world.idled_record rfl) rfl)

theorem accounted_getTile (h : Accounted start s) : Accounted start (getTile.run s).2 := by
  obtain ⟨d, world⟩ := s
  obtain ⟨fetcher, hf, hsettled⟩ := h
  obtain ⟨left, hasks, hdecoded⟩ := asks_getTile d world
  -- The decoder opens and ends nothing.
  suffices hleft : ∃ fetcher, (getTile.run (d, world)).2.1.fetcher = some fetcher ∧
      Fetcher.Settled start (fetcher, left) by
    obtain ⟨fetcher', hf', hsettled'⟩ := hleft
    exact ⟨fetcher', hf', hsettled'.aside hdecoded.idled hdecoded.servers⟩
  generalize (getTile.run (d, world)).2.1.fetcher = after at hasks
  cases hasks with
  | idle => exact ⟨fetcher, hf, hsettled⟩
  | once hf' =>
    obtain rfl := Option.some.inj (hf.symm.trans hf')
    exact ⟨_, rfl, accounted_asked _ hsettled⟩
  | cleaned hf' =>
    obtain rfl := Option.some.inj (hf.symm.trans hf')
    exact ⟨_, rfl, (accounted_asked _ hsettled).aside (World.idled_withFiles _ _) rfl⟩

theorem closed_of_some (hf : d.fetcher = some fetcher) (world : World) :
    d.closed world = (some (Fetcher.close.run (fetcher, world)).2.1,
      (Fetcher.close.run (fetcher, world)).2.2) := by
  unfold closed
  rw [hf]

theorem accounted_dispose (h : Accounted start s) : Accounted start (dispose.run s).2 := by
  obtain ⟨d, world⟩ := s
  obtain ⟨fetcher, hf, hsettled⟩ := h
  rw [run_dispose, closed_of_some hf]
  exact ⟨_, rfl, Fetcher.settled_close _ hsettled⟩

theorem accounted_step (s : Descriptor × World) (step : Step) (h : Accounted start s) :
    Accounted start (step.after s) := by
  rcases step with (_ | _ | _) | change
  · exact accounted_getTile h
  · exact accounted_dispose h
  · exact h
  · obtain ⟨fetcher, hf, hsettled⟩ := h
    exact ⟨fetcher, hf, hsettled.aside (World.idled_withFiles _ _) rfl⟩

theorem Accounted.isReal (h : Accounted start s) (hf : s.1.fetcher = some fetcher) :
    fetcher.isReal := by
  obtain ⟨held, hheld, hsettled⟩ := h
  obtain rfl := Option.some.inj (hf.symm.trans hheld)
  cases fetcher with
  | scripted => exact hsettled.elim
  | _ => rfl

theorem disposed (hf : s.1.fetcher = some fetcher) :
    let t := (dispose.run s).2
    t.1.fetcher = some (Fetcher.close.run (fetcher, s.2)).2.1 ∧ t.1.cached = none ∧
      t.1.state ≠ .ready := by
  obtain ⟨d, world⟩ := s
  rw [run_dispose, closed_of_some hf]
  refine ⟨rfl, rfl, ?_⟩
  by_cases hready : d.state = .ready <;> simp [hready]

/-- A descriptor that was disposed of has nothing left to dispose of. -/
theorem run_dispose_of_closed (hf : d.fetcher = some fetcher) (hreal : fetcher.isReal)
    (hclosed : fetcher.isOpen = false) (hsame : fetcher.afterClose = fetcher)
    (hcached : d.cached = none) (hstate : d.state ≠ .ready) (world : World) :
    dispose.run (d, world) = (.ok (), d, world) := by
  rw [run_dispose, closed_of_some hf, Fetcher.run_close_of_closed hreal hclosed, hsame]
  simp [hstate, ← hf, ← hcached]

/-- Whatever the remote places answer and whatever is done with a descriptor, as long as
FTP connections are quit only with faults of FTP and HTTP sessions can be closed, its
fetcher accounts for all that was opened since the start. Once the descriptor was
disposed of, the fetcher holds nothing, and disposing of it again does nothing. -/
theorem accounts_afterSteps {d : Descriptor} {fetcher : Fetcher} {world : World}
    (hf : d.fetcher = some fetcher) (hreal : fetcher.isReal) (hidle : fetcher.Idle)
    (hquiet : fetcher.ClosesQuietly) (hyielding : fetcher.MeetsYielding world)
    (steps : List Step) :
    let s := afterSteps steps (d, world)
    let t := (dispose.run s).2
    (∃ held, s.1.fetcher = some held ∧ held.Accounts (world.since s.2)) ∧
      (∃ left, t.1.fetcher = some left ∧ left.Accounts (world.since t.2) ∧
        left.connections = [] ∧ left.holdsSession = false ∧ left.isOpen = false) ∧
      dispose.run t = (.ok (), t) := by
  intro s t
  have hs : Accounted world s :=
    invariant_afterSteps accounted_step
      ⟨fetcher, hf, Fetcher.settled_start hreal hidle hquiet hyielding⟩ steps
  have ht : Accounted world t := accounted_dispose hs
  obtain ⟨held, hheld, hsettled⟩ := hs
  obtain ⟨hleft, hcached, hstate⟩ : t.1.fetcher = some (Fetcher.close.run (held, s.2)).2.1 ∧ _ :=
    disposed hheld
  rw [Fetcher.close_afterClose] at hleft
  have hopen : held.afterClose.isOpen = false := held.isOpen_afterClose.trans hsettled.quiet.resists
  have hagain := run_dispose_of_closed hleft (ht.isReal hleft) hopen
    (Fetcher.afterClose_afterClose hsettled.quiet.resists) hcached hstate t.2
  obtain ⟨left, hleft', hleftSettled⟩ := ht
  obtain rfl := Option.some.inj (hleft.symm.trans hleft')
  exact ⟨⟨held, hheld, hsettled.accounts⟩,
    ⟨_, hleft, hleftSettled.accounts, Fetcher.connections_of_closed hopen,
      Fetcher.holdsSession_of_closed hopen, hopen⟩, hagain⟩

def remote : Descriptor :=
  fresh { plain := ⟨.root, ["dem", "t.tif"]⟩ }
    (some (.ftp { host := "host", directory := "/d", channel := 0 }))

/-- A server that refuses the login and breaks off when it is left, then one that holds
no file. -/
def refusedOnce : World where
  files := .empty
  decoder := .scripted [] (.ok none)
  servers _ := [
    { login := some (.reported { kind := .ftpPermanent, details := [.text "530 No"] })
      quit := some (.reported { kind := .connectionReset }) },
    {}]

def overHttp (closings : List (Option Fault)) : Descriptor :=
  fresh { plain := ⟨.root, ["dem", "t.tif"]⟩ }
    (some (.http { base := "http://host", channel := 0, closings }))

def senseless : World where
  files := .empty
  decoder := .scripted [] (.ok none)
  replies _ := [.answered { chunks := [[0]] }, .answered { chunks := [[0]] }]

/-- The connection that was refused is ended; a session is closed before the next one is opened. -/
theorem accounts_refusedOnce :
    (let s := afterSteps [.call .getTile, .call .getTile] (remote, refusedOnce)
     (∃ held, s.1.fetcher = some held ∧ held.Accounts (refusedOnce.since s.2)) ∧
      s.1.fetcher.map Fetcher.connections = some [1] ∧ Event.Ended (refusedOnce.since s.2) 0) ∧
    (let s := afterSteps [.call .getTile, .call .dispose, .call .getTile]
        (overHttp [none], senseless)
     (∃ held, s.1.fetcher = some held ∧ held.Accounts (senseless.since s.2)) ∧
      (senseless.since s.2).filter Event.isSession = [.httpOpened, .httpClosed, .httpOpened]) := by
  constructor
  · have hyielding : (Fetcher.ftp
        { host := "host", directory := "/d", channel := 0 }).MeetsYielding refusedOnce := by
      rintro f ⟨⟩ server hserver fault hquit
      simp only [refusedOnce, List.mem_cons, List.not_mem_nil, or_false] at hserver
      rcases hserver with rfl | rfl
      · cases hquit
        rfl
      · cases hquit
    obtain ⟨haccounts, -⟩ := accounts_afterSteps (d := remote) rfl rfl ⟨rfl, rfl⟩ trivial
      hyielding [.call .getTile, .call .getTile]
    have hheld : (afterSteps [.call .getTile, .call .getTile] (remote, refusedOnce)).1.fetcher.map
        Fetcher.connections = some [1] := by decide +kernel
    have hmade : .ftpCreated 0 ∈ refusedOnce.since
        (afterSteps [.call .getTile, .call .getTile] (remote, refusedOnce)).2 := by decide +kernel
    -- From here on it does not matter how the state came about.
    dsimp only
    generalize afterSteps [.call .getTile, .call .getTile] (remote, refusedOnce) = s
      at haccounts hheld hmade ⊢
    refine ⟨haccounts, hheld, ?_⟩
    obtain ⟨held, hf, h⟩ := haccounts
    rw [hf] at hheld
    have hconnections : held.connections = [1] := Option.some.inj hheld
    exact (h.held 0 hmade).resolve_left (by simp [hconnections])
  · have hquiet : (Fetcher.http
        { base := "http://host", channel := 0, closings := [none] }).ClosesQuietly := by
      intro failure hmem
      exact List.mem_singleton.mp hmem
    have hyielding : (Fetcher.http
        { base := "http://host", channel := 0, closings := [none] }).MeetsYielding senseless := by
      rintro f ⟨⟩
    obtain ⟨haccounts, -⟩ := accounts_afterSteps (d := overHttp [none]) rfl rfl rfl hquiet hyielding
      [.call .getTile, .call .dispose, .call .getTile]
    exact ⟨haccounts, by decide +kernel⟩

/-- A session that cannot be closed stays open, and disposing again tries once more. -/
theorem closes_again_overHttp :
    let s := afterSteps [.call .getTile, .call .dispose]
      (overHttp [some Http.noRoute], senseless)
    s.1.fetcher.map Fetcher.isOpen = some true ∧
      s.2.since (dispose.run s).2.2 = [.httpClosed] := by
  decide +kernel

end Descriptor

end TerrainTiles
