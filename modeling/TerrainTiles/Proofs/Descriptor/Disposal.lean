import TerrainTiles.Proofs.Descriptor.Lifecycle
import TerrainTiles.Proofs.Descriptor.Routes
import TerrainTiles.Proofs.Fetcher.Balance

/-!
# What disposing leaves

Disposing gives no fault, whatever closing the fetcher comes to: it leaves the
descriptor at rest (`run_dispose_rest`), and a descriptor at rest stays as it is
(`atRest_atRest`) unless it still has a session that could not be closed.

A descriptor at rest differs from one that nothing was done with in nothing but
the serial numbers of the loans to come. `renumbered` shifts these, and everything
a descriptor does is the same on a renumbered one (`run_getTile_renumbered`,
`afterSteps_renumbered`). So a descriptor that was ready, or unknown, goes on as a
new one would (`dispose_renews`).
-/

namespace TerrainTiles

def Loan.renumbered (n : Nat) (loan : Loan) : Loan := { loan with serial := n + loan.serial }

namespace Descriptor

open Act

variable {n : Nat} {d : Descriptor}

-- ---------------------------------------------------------------------------
-- At rest
-- ---------------------------------------------------------------------------

/-- The descriptor with its fetcher closed, as far as that can be, and its tile let go. -/
def atRest (d : Descriptor) : Descriptor := { d with
  fetcher := d.fetcher.map Fetcher.afterClose, cached := none
  state := if d.state = .ready then .unknown else d.state }

def sessionOpen (d : Descriptor) : Bool := d.fetcher.any (·.isOpen)

/-- One is open that cannot be closed. -/
def resists (d : Descriptor) : Bool := d.fetcher.any (·.resists)

def closing (d : Descriptor) : List Event := d.fetcher.elim [] Fetcher.closing

theorem closed_afterClose (d : Descriptor) (world : World) :
    (d.closed world).1 = d.fetcher.map Fetcher.afterClose := by
  unfold closed
  cases d.fetcher with
  | none => rfl
  | some fetcher => exact congrArg some (Fetcher.close_afterClose (fetcher, world))

theorem run_dispose_rest (d : Descriptor) (world : World) :
    dispose.run (d, world) = (.ok (), d.atRest, (d.closed world).2) := by
  rw [run_dispose, closed_afterClose]
  rfl

theorem sessionOpen_atRest (d : Descriptor) : d.atRest.sessionOpen = d.resists := by
  cases hf : d.fetcher <;> simp [sessionOpen, resists, atRest, hf, Fetcher.isOpen_afterClose]

theorem sessionOpen_dispose (s : Descriptor × World) :
    (dispose.run s).2.1.sessionOpen = s.1.resists := by
  rw [run_dispose_rest]
  exact s.1.sessionOpen_atRest

theorem events_dispose (s : Descriptor × World) :
    (dispose.run s).2.2.events = s.1.closing.reverse ++ s.2.events := by
  obtain ⟨d, world⟩ := s
  rw [run_dispose, closing, closed]
  cases d.fetcher with
  | none => rfl
  | some fetcher => exact Fetcher.events_close (fetcher, world)

theorem atRest_again (d : Descriptor) :
    d.atRest.atRest = { d.atRest with fetcher := d.atRest.fetcher.map Fetcher.afterClose } := by
  cases hs : d.state <;> simp [atRest, hs]

theorem atRest_atRest (h : d.resists = false) : d.atRest.atRest = d.atRest := by
  rw [atRest_again]
  cases hf : d.fetcher with
  | none => simp [atRest, hf]
  | some fetcher =>
    have hresists : fetcher.resists = false := by simpa [resists, hf] using h
    simp [atRest, hf, Fetcher.afterClose_afterClose hresists]

theorem current_of_none (hc : d.cached = none) (loan : Loan) :
    d.current loan = loan.tile.dispose := by
  simp [current, hc]

-- ---------------------------------------------------------------------------
-- Serial numbers
-- ---------------------------------------------------------------------------

/-- The descriptor as if `n` more tiles had been decoded before all else. -/
def renumbered (n : Nat) (d : Descriptor) : Descriptor := { d with
  cached := d.cached.map (Loan.renumbered n), decoded := n + d.decoded }

/-- What an action that lends comes to on the renumbered descriptor. -/
def relent (n : Nat) :
    Except Fault (Option Loan) × (Descriptor × World) →
      Except Fault (Option Loan) × (Descriptor × World)
  | (result, d, world) => (result.map (Option.map (Loan.renumbered n)), d.renumbered n, world)

theorem settled?_renumbered (d : Descriptor) :
    (d.renumbered n).settled? =
      d.settled?.map (Except.map (Option.map (Loan.renumbered n))) := by
  obtain ⟨copy, fetcher, state, cached, decoded, message, allowed⟩ := d
  cases cached <;> cases state <;> rfl

theorem run_fetchRemote_renumbered (d : Descriptor) (world : World) :
    fetchRemote.run (d.renumbered n, world) =
      ((fetchRemote.run (d, world)).1, (fetchRemote.run (d, world)).2.1.renumbered n,
        (fetchRemote.run (d, world)).2.2) := by
  cases hf : d.fetcher with
  | none =>
    rw [run_fetchRemote_none hf, run_fetchRemote_none (d := d.renumbered n) hf]
    rfl
  | some fetcher =>
    cases ha : d.copy.archive with
    | error fault =>
      rw [run_fetchRemote_nameless hf ha, run_fetchRemote_nameless (d := d.renumbered n) hf ha]
    | ok path =>
      rw [run_fetchRemote hf ha, run_fetchRemote (d := d.renumbered n) hf ha]
      cases (asked fetcher path world).1 with
      | ok outcome => rfl
      | error fault =>
        dsimp only
        cases (asked fetcher path world).2.2.files.unlink path <;> rfl

theorem run_finish_renumbered (d : Descriptor) (preferred : Option Path) (world : World) :
    (finish preferred).run (d.renumbered n, world) =
      relent n ((finish preferred).run (d, world)) := by
  have hchosen : (d.renumbered n).chosen preferred world.files = d.chosen preferred world.files :=
    rfl
  rw [run_finish_eq, run_finish_eq, hchosen]
  rcases d.chosen preferred world.files with fault | _ | path
  · rfl
  · rfl
  · have hpresented : (d.renumbered n).presented path = d.presented path := rfl
    have hname : (d.renumbered n).tileName = d.tileName := rfl
    simp only [run_decodeFile_presented, hpresented, hname]
    rcases d.presented path world.files world.decoder.unpacker with fault | ⟨data, event⟩
    · rfl
    · dsimp only
      rcases (world.decoder.decode data d.tileName).1 with fault | _ | tile
      · rfl
      · rfl
      · rfl

theorem run_acquireRemote_renumbered (d : Descriptor) (world : World) :
    acquireRemote.run (d.renumbered n, world) = relent n (acquireRemote.run (d, world)) := by
  rw [run_acquireRemote, run_acquireRemote, run_fetchRemote_renumbered]
  rcases fetchRemote.run (d, world) with ⟨fault | outcome, d', left⟩
  · rfl
  · cases outcome with
    | success path => exact run_finish_renumbered { d' with state := .onDisk } (some path) left
    | absent => rfl
    | recoverable => rfl
    | fatal => rfl

theorem run_getTile_renumbered (d : Descriptor) (world : World) :
    getTile.run (d.renumbered n, world) = relent n (getTile.run (d, world)) := by
  have hprobed : (d.renumbered n).probed world.files = d.probed world.files := rfl
  have henabled : (d.renumbered n).remoteEnabled = d.remoteEnabled := rfl
  rw [run_getTile, run_getTile, settled?_renumbered, hprobed, henabled]
  cases d.settled? with
  | some answer => rfl
  | none =>
    cases d.probed world.files with
    | error fault => rfl
    | ok state =>
      dsimp only [Option.map_none]
      split
      · split
        · exact run_acquireRemote_renumbered { d with state } world
        · rfl
      · exact run_finish_renumbered { d with state } none world

theorem after_renumbered (step : Step) (s : Descriptor × World) :
    step.after (s.1.renumbered n, s.2) = ((step.after s).1.renumbered n, (step.after s).2) := by
  obtain ⟨d, world⟩ := s
  rcases step with (_ | _ | _) | change
  · exact congrArg Prod.snd (run_getTile_renumbered d world)
  · change (dispose.run (d.renumbered n, world)).2 = ((dispose.run (d, world)).2.1.renumbered n,
      (dispose.run (d, world)).2.2)
    rw [run_dispose_rest, run_dispose_rest]
    rfl
  · rfl
  · rfl

/-- Whatever is done with it later, the renumbered descriptor is the same but for
the numbers. -/
theorem afterSteps_renumbered (steps : List Step) (s : Descriptor × World) :
    afterSteps steps (s.1.renumbered n, s.2) =
      ((afterSteps steps s).1.renumbered n, (afterSteps steps s).2) := by
  induction steps generalizing s with
  | nil => rfl
  | cons step rest ih =>
    change afterSteps rest (step.after (s.1.renumbered n, s.2)) = _
    rw [after_renumbered]
    exact ih (step.after s)

-- ---------------------------------------------------------------------------
-- Starting again
-- ---------------------------------------------------------------------------

theorem copy_step (step : Step) (s : Descriptor × World) : (step.after s).1.copy = s.1.copy := by
  rcases step with call | change
  · exact (call.alike s).copy
  · rfl

theorem copy_afterSteps (steps : List Step) (s : Descriptor × World) :
    (afterSteps steps s).1.copy = s.1.copy :=
  invariant_afterSteps (P := fun t => t.1.copy = s.1.copy)
    (fun t step h => (copy_step step t).trans h) rfl steps

/-- A descriptor of the same tile that nothing was done with, with its fetcher
closed and remote fetches allowed or not as they are. -/
def anew (d : Descriptor) : Descriptor :=
  { fresh d.copy (d.fetcher.map Fetcher.afterClose) with remoteAllowed := d.remoteAllowed }

/-- At rest, a descriptor that was ready or unknown is a new one that numbers its
loans from where the old one stopped. -/
theorem Sound.atRest_eq (h : Sound d) (hs : d.state = .ready ∨ d.state = .unknown) :
    d.atRest = d.anew.renumbered d.decoded := by
  have hstate : d.atRest.state = .unknown := by
    rcases hs with hs | hs <;> simp [atRest, hs]
  have hmessage : d.atRest.message = "" := h.message hs
  obtain ⟨copy, fetcher, state, cached, decoded, message, allowed⟩ := d
  cases hmessage
  simp only [atRest] at hstate
  simp [atRest, hstate, anew, renumbered, fresh]

theorem Sound.run_getTile_atRest (h : Sound d) (hs : d.state = .ready ∨ d.state = .unknown)
    (later : List Step) (world : World) :
    getTile.run (afterSteps later (d.atRest, world)) =
      relent d.decoded (getTile.run (afterSteps later (d.anew, world))) := by
  calc getTile.run (afterSteps later (d.atRest, world))
      = getTile.run (afterSteps later (d.anew.renumbered d.decoded, world)) := by
        rw [h.atRest_eq hs]
    _ = getTile.run ((afterSteps later (d.anew, world)).1.renumbered d.decoded,
          (afterSteps later (d.anew, world)).2) := by
        rw [← afterSteps_renumbered later (d.anew, world)]
    _ = relent d.decoded (getTile.run (afterSteps later (d.anew, world))) :=
        run_getTile_renumbered _ _

/-- What is changed by letting a descriptor go, and what is not. -/
structure Released (s t : Descriptor × World) : Prop where
  cached : t.1.cached = none
  loans : ∀ loan, t.1.current loan = loan.tile.dispose
  ready : s.1.state = .ready → t.1.state = .unknown
  otherState : s.1.state ≠ .ready → t.1.state = s.1.state
  copy : t.1.copy = s.1.copy
  fetcher : t.1.fetcher = s.1.fetcher.map Fetcher.afterClose
  message : t.1.message = s.1.message
  remoteAllowed : t.1.remoteAllowed = s.1.remoteAllowed
  remoteEnabled : t.1.remoteEnabled = s.1.remoteEnabled
  files : t.2.files = s.2.files

theorem released_dispose (s : Descriptor × World) : Released s (dispose.run s).2 := by
  obtain ⟨d, world⟩ := s
  have hfiles : (dispose.run (d, world)).2.2.files = world.files := files_dispose d world
  rw [run_dispose_rest] at hfiles ⊢
  constructor
  case cached => rfl
  case loans => exact current_of_none rfl
  case ready => intro hs; exact if_pos hs
  case otherState => intro hs; exact if_neg hs
  case copy => rfl
  case fetcher => rfl
  case message => rfl
  case remoteAllowed => rfl
  case remoteEnabled => simp [remoteEnabled, atRest]
  case files => exact hfiles

/-- Whatever was done with a descriptor and whatever closing its fetcher comes to,
disposing of it gives no fault and releases the tile; a session is open after it only if
that could not be closed. Disposing again closes the fetcher again, which changes nothing
unless it has such a session. If it was ready or unknown, it then does what a descriptor of the
same tile does that was never acquired, with the same fetcher closed: after any
further steps it gives the same tile or fault and leaves the same world, and only
the numbers of its loans go on. -/
theorem dispose_renews (copy : LocalCopy) (fetcher : Option Fetcher) (world : World)
    (steps : List Step) :
    let s := afterSteps steps (fresh copy fetcher, world)
    let t := (dispose.run s).2
    (dispose.run s).1 = .ok () ∧ Released s t ∧ t.1.sessionOpen = s.1.resists ∧
      ((dispose.run t).1 = .ok () ∧
        (dispose.run t).2.1 = { t.1 with fetcher := t.1.fetcher.map Fetcher.afterClose } ∧
        (s.1.resists = false → (dispose.run t).2.1 = t.1) ∧
        (dispose.run t).2.2.files = t.2.files) ∧
      (s.1.state = .ready ∨ s.1.state = .unknown → ∀ later,
        getTile.run (afterSteps later t) =
          relent s.1.decoded (getTile.run (afterSteps later
            ({ fresh copy t.1.fetcher with remoteAllowed := s.1.remoteAllowed }, t.2)))) := by
  intro s t
  have hsound : Sound s.1 := sound_afterSteps (sound_fresh copy fetcher) steps
  have hcopy : s.1.copy = copy := copy_afterSteps steps (fresh copy fetcher, world)
  have hrest : dispose.run s = (.ok (), s.1.atRest, (s.1.closed s.2).2) :=
    run_dispose_rest s.1 s.2
  have ht : t = (s.1.atRest, t.2) := Prod.ext (congrArg (·.2.1) hrest) rfl
  have hagain : dispose.run t = (.ok (), s.1.atRest.atRest, (s.1.atRest.closed t.2).2) := by
    rw [ht]
    exact run_dispose_rest s.1.atRest t.2
  have hnew : ({ fresh copy t.1.fetcher with remoteAllowed := s.1.remoteAllowed } :
      Descriptor) = s.1.anew := by
    rw [ht, ← hcopy]
    rfl
  refine ⟨?once, released_dispose s, sessionOpen_dispose s,
    ⟨?again, ?closed, ?same, files_dispose t.1 t.2⟩, ?renewed⟩
  case once => rw [hrest]
  case again => rw [hagain]
  case closed =>
    rw [hagain, ht]
    exact s.1.atRest_again
  case same =>
    intro hresists
    rw [hagain, ht]
    exact atRest_atRest hresists
  case renewed =>
    intro hs later
    rw [hnew, ht]
    exact hsound.run_getTile_atRest hs later t.2

def resisting : Fetcher := .scripted {
  steps := [{ write := some (Archive.write [{ name := "t.tif", content := [1] }]) }]
  closeFailure := some Http.noRoute }

theorem dispose_renews_resisting :
    let copy : LocalCopy := { plain := ⟨.root, ["d", "t.tif"]⟩ }
    let s := afterSteps [.call .getTile] (fresh copy (some resisting), shelf [])
    let t := (dispose.run s).2
    s.1.state = .ready ∧ ∀ later,
      getTile.run (afterSteps later t) =
        relent s.1.decoded (getTile.run (afterSteps later
          ({ fresh copy t.1.fetcher with remoteAllowed := s.1.remoteAllowed }, t.2))) := by
  intro copy s t
  have hready : s.1.state = .ready := by decide +kernel
  obtain ⟨-, -, -, -, hrenewed⟩ :=
    dispose_renews copy (some resisting) (shelf []) [.call .getTile]
  exact ⟨hready, hrenewed (.inl hready)⟩

end Descriptor

end TerrainTiles
