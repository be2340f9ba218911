import TerrainTiles.Proofs.Descriptor.Escape
import TerrainTiles.Proofs.Manager.Transition

/-!
# Offline sources

What a manager answers is a sequence of calls. Each is a `Transition`
(`Call.transition`), so from a fresh manager a source is offline exactly if some
call found it unreachable (`offline_afterAll`), and from then on nothing is
fetched from it any more (`records_afterAll`).
-/

namespace TerrainTiles.Manager

open Act

-- ---------------------------------------------------------------------------
-- What answers can fail with
-- ---------------------------------------------------------------------------

variable {α β : Type} {m : Manager} {world : World}

theorem acquisition_of_kind {fault : Fault} (h : fault.kind ≠ .acquisition) :
    isAcquisitionFault fault = false := by
  cases fault with
  | acquisition => exact absurd rfl h
  | _ => rfl

theorem unraised_archive (copy : LocalCopy) : Unraised copy.archive :=
  fun _ h => acquisition_of_kind (Descriptor.kind_of_archive_error h)

theorem unraised_report (source : String) (d : Descriptor) (tile : Option Tile) :
    Unraised (report source d tile) := (unraised_archive d.copy).bind fun _ => unraised_ok _

theorem unraised_index (x : Double) : Unraised (Sample.index x) := by
  unfold Sample.index
  split
  · exact unraised_error rfl
  · exact unraised_error rfl
  · exact unraised_ok _

theorem unraised_locate (t : Transform) (lon lat : Double) : Unraised (t.locate lon lat) := by
  unfold Transform.locate Transform.inverse
  split
  · exact unraised_error rfl
  · exact unraised_ok _

theorem unraised_sampleBy (grid : Grid) (method : Interpolation) (column row : Double) :
    Unraised (Sample.sampleBy grid method column row) := by
  cases method with
  | nearest =>
    exact (unraised_index row).bind fun _ => (unraised_index column).bind fun _ => unraised_ok _
  | bilinear =>
    refine (unraised_index _).bind fun r => (unraised_index _).bind fun c => ?_
    split
    · exact unraised_ok _
    · split <;> exact unraised_ok _

theorem unraised_sample (grid : Grid) (t : Transform) (lon lat : Double) (method : String) :
    Unraised (grid.sample t lon lat method) := by
  refine (unraised_locate t lon lat).bind fun (column, row) => ?_
  dsimp only
  cases Interpolation.ofName? method with
  | some method => exact unraised_sampleBy grid method column row
  | none => exact unraised_error rfl

-- ---------------------------------------------------------------------------
-- Requests
-- ---------------------------------------------------------------------------

def effective (m : Manager) (choice : Option String) : String :=
  (choice.filter (· ≠ "")).getD m.settings.defaultSource

theorem run_chooseSource (m : Manager) (choice : Option String) (world : World) :
    (chooseSource choice).run (m, world) = (.ok (m.effective choice), m, world) := rfl

def Plain (act : Act Manager α) : Prop :=
  ∀ s, ∃ result, act.run s = (result, s) ∧ Unraised result

theorem plain_ofExcept {result : Except Fault α} (h : Unraised result) :
    Plain (Act.ofExcept result) := fun s => ⟨result, run_ofExcept result s, h⟩

theorem plain_descriptor (id : Nat) : Plain (descriptor id) := by
  rintro ⟨m, world⟩
  refine ⟨_, run_descriptor m id world, ?_⟩
  cases m.pool[id]? with
  | some d => exact unraised_ok d
  | none => exact unraised_error rfl

theorem Plain.bind {act : Act Manager α} {next : α → Act Manager β} (h : Plain act)
    (h' : ∀ a, Plain (next a)) : Plain (act >>= next) := by
  intro s
  obtain ⟨result, hrun, hresult⟩ := h s
  cases result with
  | ok a =>
    rw [run_bind_of_ok hrun]
    exact h' a s
  | error fault => exact ⟨.error fault, run_bind_of_error hrun, unraised_error (hresult fault rfl)⟩

theorem plain_report (source : String) (id : Nat) (tile : Descriptor → Option Tile) :
    Plain (descriptor id >>= fun d => Act.ofExcept (report source d (tile d))) :=
  (plain_descriptor id).bind fun d => plain_ofExcept (unraised_report source d (tile d))

theorem plain_pointReport (source method : String) (lon lat : Double) (id : Nat)
    (loan : Option Loan) :
    Plain (do
      let d ← descriptor id
      match loan.bind fun loan => loan.tile.grid.map (·, loan.tile.transform) with
      | none => return { source, tileName := d.tileName, elevation := .nan, available := false }
      | some (grid, transform) =>
        let elevation ← Act.ofExcept (grid.sample transform lon lat method)
        return ({ source, tileName := d.tileName, elevation
                  available := !elevation.isNaN } : PointReport)) := by
  refine (plain_descriptor id).bind fun d => ?_
  cases loan.bind fun loan => loan.tile.grid.map (·, loan.tile.transform) with
  | none => exact plain_ofExcept (unraised_ok _)
  | some found =>
    exact (plain_ofExcept (unraised_sample found.1 found.2 lon lat method)).bind fun _ =>
      plain_ofExcept (unraised_ok _)

theorem transition_acquiring (h : Consistent m) (choice : Option String) (lon lat : Double)
    {answer : String → Nat → Option Loan → Act Manager β}
    (hanswer : ∀ source id loan, Plain (answer source id loan)) (world : World) :
    let request := chooseSource choice >>= fun source => descriptorFor source lon lat >>= fun id =>
      acquire source id >>= fun loan => answer source id loan
    Transition (raisedBy (m.effective choice) (request.run (m, world)).1) (m, world)
      (request.run (m, world)).2 := by
  intro request
  have hrequest : request.run (m, world) = _ := run_bind_of_ok (run_chooseSource m choice world)
  rw [hrequest]
  rcases descriptorFor_cases h (m.effective choice) lon lat world with
    ⟨fault, hrun, hfault⟩ | ⟨id, ⟨m', world'⟩, tile, hrun, hfound, htracked⟩
  · rw [run_bind_of_error hrun, raisedBy_of_unraised (unraised_error hfault)]
    exact .refl h
  · rw [run_bind_of_ok hrun]
    have hacquire := transition_acquire hfound.consistent htracked world'
    cases hloan : (acquire (m.effective choice) id).run (m', world') with
    | mk result t =>
      rw [hloan] at hacquire
      cases result with
      | error fault =>
        rw [run_bind_of_error hloan]
        exact hfound.trans hacquire
      | ok loan =>
        obtain ⟨result, hrest, hunraised⟩ := hanswer (m.effective choice) id loan t
        rw [run_bind_of_ok hloan, hrest, raisedBy_of_unraised hunraised]
        exact hfound.trans hacquire

theorem transition_getTile (h : Consistent m) (lon lat : Double) (choice : Option String)
    (world : World) :
    Transition (raisedBy (m.effective choice) ((getTile lon lat choice).run (m, world)).1)
      (m, world) ((getTile lon lat choice).run (m, world)).2 :=
  transition_acquiring h choice lon lat (fun source id _ => plain_report source id _) world

theorem transition_getElevation (h : Consistent m) (lon lat : Double) (choice : Option String)
    (method : String) (world : World) :
    Transition
      (raisedBy (m.effective choice) ((getElevation lon lat choice method).run (m, world)).1)
      (m, world) ((getElevation lon lat choice method).run (m, world)).2 := by
  unfold getElevation
  split
  · exact .refl h
  · exact transition_acquiring h choice lon lat
      (fun source id loan => plain_pointReport source method lon lat id loan) world

theorem transition_tileStatus (h : Consistent m) (lon lat : Double) (choice : Option String)
    (world : World) :
    Transition none (m, world) ((tileStatus lon lat choice).run (m, world)).2 := by
  unfold tileStatus
  rw [run_bind_of_ok (run_chooseSource m choice world)]
  rcases descriptorFor_cases h (m.effective choice) lon lat world with
    ⟨fault, hrun, -⟩ | ⟨id, t, tile, hrun, hfound, -⟩
  · rw [run_bind_of_error hrun]
    exact .refl h
  · obtain ⟨result, hrest, -⟩ := plain_report (m.effective choice) id (·.cached.map (·.tile)) t
    rw [run_bind_of_ok hrun, hrest]
    exact hfound

-- ---------------------------------------------------------------------------
-- Calls
-- ---------------------------------------------------------------------------

inductive Call where
  | getTile (lon lat : Double) (source : Option String)
  | getElevation (lon lat : Double) (source : Option String) (method : String)
  | tileStatus (lon lat : Double) (source : Option String)
  | descriptor (source : String) (lon lat : Double)
  | release (source : Option String)

namespace Call

/-- The run of a call; the answer does not matter here, only how it ends. -/
def run : Call → Manager × World → Except Fault Unit × (Manager × World)
  | getTile lon lat source, s => ending ((Manager.getTile lon lat source).run s)
  | getElevation lon lat source method, s =>
    ending ((Manager.getElevation lon lat source method).run s)
  | tileStatus lon lat source, s => ending ((Manager.tileStatus lon lat source).run s)
  | descriptor source lon lat, s => ending ((descriptorFor source lon lat).run s)
  | release source, s => ending ((Manager.release source).run s)
where
  ending {α : Type} : Except Fault α × (Manager × World) → Except Fault Unit × (Manager × World)
    | (result, t) => (result.map fun _ => (), t)

def source? (m : Manager) : Call → Option String
  | getTile _ _ source | getElevation _ _ source _ => some (m.effective source)
  | _ => none

/-- The source that the call finds unreachable. -/
def raised (call : Call) (s : Manager × World) : Option String :=
  (call.source? s.1).bind fun source => raisedBy source (call.run s).1

theorem raisedBy_map (source : String) (result : Except Fault α) :
    raisedBy source (result.map fun _ => ()) = raisedBy source result := by
  cases result <;> rfl

theorem transition {s : Manager × World} (h : Consistent s.1) (call : Call) :
    Transition (call.raised s) s (call.run s).2 := by
  obtain ⟨m, world⟩ := s
  cases call with
  | getTile lon lat source =>
    simpa only [raised, source?, Option.bind_some, run, run.ending, raisedBy_map] using
      transition_getTile h lon lat source world
  | getElevation lon lat source method =>
    simpa only [raised, source?, Option.bind_some, run, run.ending, raisedBy_map] using
      transition_getElevation h lon lat source method world
  | tileStatus lon lat source => exact transition_tileStatus h lon lat source world
  | descriptor source lon lat =>
    change Transition none (m, world) ((descriptorFor source lon lat).run (m, world)).2
    rcases descriptorFor_cases h source lon lat world with ⟨_, hrun, -⟩ | ⟨_, _, _, hrun, hfound, -⟩
    · rw [hrun]
      exact .refl h
    · rw [hrun]
      exact hfound
  | release source => exact transition_release h source world

end Call

def afterAll (calls : List Call) (s : Manager × World) : Manager × World :=
  calls.foldl (fun s call => (call.run s).2) s

theorem afterAll_append (before later : List Call) (s : Manager × World) :
    afterAll (before ++ later) s = afterAll later (afterAll before s) := List.foldl_append

-- ---------------------------------------------------------------------------
-- Runs
-- ---------------------------------------------------------------------------

variable {s : Manager × World} {name : String}

theorem consistent_afterAll (h : Consistent s.1) (calls : List Call) :
    Consistent (afterAll calls s).1 ∧ (afterAll calls s).1.settings = s.1.settings := by
  induction calls generalizing s with
  | nil => exact ⟨h, rfl⟩
  | cons call rest ih =>
    have hstep := call.transition h
    obtain ⟨hrest, hsettings⟩ := ih hstep.consistent
    exact ⟨hrest, hsettings.trans hstep.settings⟩

/-- One of the calls, made where the ones before it lead, found the source unreachable. -/
def Raised (calls : List Call) (s : Manager × World) (name : String) : Prop :=
  ∃ before call later, calls = before ++ call :: later ∧
    call.raised (afterAll before s) = some name

theorem raised_cons {call : Call} {rest : List Call} :
    Raised (call :: rest) s name ↔
      call.raised s = some name ∨ Raised rest (call.run s).2 name := by
  constructor
  · rintro ⟨_ | ⟨first, before⟩, other, later, heq, hraised⟩
    · cases heq
      exact .inl hraised
    · cases heq
      exact .inr ⟨before, other, later, rfl, hraised⟩
  · rintro (hraised | ⟨before, other, later, rfl, hraised⟩)
    · exact ⟨[], call, rest, rfl, hraised⟩
    · exact ⟨call :: before, other, later, rfl, hraised⟩

theorem offline_afterAll (h : Consistent s.1) (calls : List Call) (name : String) :
    (afterAll calls s).1.isOffline name ↔ s.1.isOffline name ∨ Raised calls s name := by
  induction calls generalizing s with
  | nil =>
    refine ⟨.inl, ?_⟩
    rintro (ho | ⟨before, call, later, heq, -⟩)
    · exact ho
    · simp at heq
  | cons call rest ih =>
    have hstep := call.transition h
    rw [raised_cons, ← or_assoc]
    refine (ih hstep.consistent).trans (or_congr_left ?_)
    rw [hstep.offline]
    simp

def FetchesBelow (directory : Path) (event : Event) : Prop :=
  ∃ path, event = .fetchBegun path ∧ path.parent = directory

theorem not_fetchesBelow (h : Consistent s.1) (ho : s.1.isOffline name) {event : Event}
    (hp : Permits s.1 event) : ¬ FetchesBelow (s.1.settings.cache / name) event := by
  rintro ⟨path, rfl, hparent⟩
  obtain ⟨_, ⟨⟩, source, hsource, hoffline, hsame⟩ := hp rfl
  obtain ⟨other, hother, rfl⟩ := h.known name ho
  have heq := Source.directory_injective hsource hother (hsame.symm.trans hparent)
  rw [heq, ho] at hoffline
  cases hoffline

theorem records_afterAll (h : Consistent s.1) (ho : s.1.isOffline name) (calls : List Call) :
    World.Records (fun event => ¬ FetchesBelow (s.1.settings.cache / name) event) s.2
      (afterAll calls s).2 := by
  induction calls generalizing s with
  | nil => exact World.records_of_eq rfl
  | cons call rest ih =>
    -- A source that is offline stays so, which carries the claim over to the rest.
    have hstep := call.transition h
    have hstill : (call.run s).2.1.isOffline name := by
      rw [hstep.offline, ho]
      rfl
    refine (hstep.records.mono fun event => not_fetchesBelow h ho).trans ?_
    rw [← hstep.settings]
    exact ih hstep.consistent hstill

theorem mem_offlineSources (m : Manager) (name : String) :
    name ∈ m.offlineSources ↔ m.isOffline name := by
  simp [offlineSources, isOffline]

theorem Fits.remoteEnabled {key : Key} {d : Descriptor} (h : Fits m key d) :
    d.remoteEnabled = (d.fetcher.isSome && !m.isOffline key.1) := by
  rw [Descriptor.remoteEnabled, h.remoteAllowed, Bool.and_comm]

/-- Whatever is asked of a fresh manager, in whatever order: the offline sources
are those that some call found unreachable, the remote is disabled for their
tracked descriptors and for no others, and after such a call nothing is fetched
from its source again. -/
theorem offline_contract (settings : Settings) (world : World) (calls : List Call) :
    let start := (ofSettings settings, world)
    let final := afterAll calls start
    (∀ name, name ∈ final.1.offlineSources ↔ Raised calls start name) ∧
      (∀ key id, (key, id) ∈ final.1.tracked → ∃ d, final.1.pool[id]? = some d ∧
        d.remoteEnabled = (d.fetcher.isSome && !decide (key.1 ∈ final.1.offlineSources))) ∧
      ∀ before call later name, calls = before ++ call :: later →
        call.raised (afterAll before start) = some name →
        World.Records (fun event => ¬ FetchesBelow (settings.cache / name) event)
          (afterAll (before ++ [call]) start).2 final.2 := by
  intro start final
  have hstart : Consistent start.1 := consistent_ofSettings settings
  refine ⟨?_, ?_, ?_⟩
  · intro name
    rw [mem_offlineSources, offline_afterAll hstart]
    simp [start, ofSettings, isOffline]
  · intro key id hentry
    obtain ⟨d, hd, hfits⟩ := (consistent_afterAll hstart calls).1.fits key id hentry
    refine ⟨d, hd, ?_⟩
    rw [hfits.remoteEnabled]
    simp only [mem_offlineSources, Bool.decide_eq_true]
    rfl
  · rintro before call later name rfl hraised
    obtain ⟨hbefore, hsettings⟩ := consistent_afterAll hstart before
    have hcall := call.transition hbefore
    have hoffline : (call.run (afterAll before start)).2.1.isOffline name := by
      rw [hcall.offline, hraised]
      simp
    have hlater := records_afterAll hcall.consistent hoffline later
    rw [hcall.settings, hsettings] at hlater
    have hsplit : final = afterAll later (afterAll (before ++ [call]) start) := by
      rw [← afterAll_append, List.append_assoc]
      rfl
    rw [hsplit, afterAll_append before [call] start]
    exact hlater

def unreachable : Settings where
  cache := ⟨.root, ["dem"]⟩
  defaultSource := "srtm3"
  environment := []
  makeFetcher _ _ := some (.scripted { steps := [{ outcome := .fatal "down" }] })

example :
    let final := afterAll [.getTile 7 46 none, .release none, .getTile 7 46 none]
      (ofSettings unreachable, { files := .empty, decoder := .scripted [] (.ok none) })
    final.1.offlineSources = ["srtm3"] ∧ (final.2.events.filter Event.isFetch).length = 1 := by
  decide +kernel

end TerrainTiles.Manager
