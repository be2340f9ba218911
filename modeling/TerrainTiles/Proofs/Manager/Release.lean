import TerrainTiles.Proofs.Manager.Confinement
import TerrainTiles.Proofs.Manager.Tracking

/-!
# A release, and what comes after it

A release disposes of the descriptors it takes the keys of and touches nothing else
(`released`). After a release of everything the manager is a fresh one that stands
behind the descriptors made so far, to none of which a key leads (`behind`). Every
action does the same from there, with the places of its descriptors shifted (`Shifts`),
provided that a fetcher depends on its source only: the manager counts the fetchers
it has had made, and nothing else remembers what was before. So no later call can tell
the manager from a fresh one that knows the same sources as offline (`release_exact`).
-/

namespace TerrainTiles.Manager

open Act

variable {settings : Settings} {old : List Descriptor} {made : List String} {α β γ δ : Type}
  {m : Manager} {world : World} {f : α → β} {g : γ → δ}

def SourceOnly (settings : Settings) : Prop :=
  ∀ source n n', settings.makeFetcher source n = settings.makeFetcher source n'

theorem sourceOnly_sourceFetcher {environment : Environment}
    (h : settings.makeFetcher = Settings.sourceFetcher environment) : SourceOnly settings := by
  intro source n n'
  rw [h]
  rfl

-- ---------------------------------------------------------------------------
-- Managers behind other descriptors
-- ---------------------------------------------------------------------------

def behind (old : List Descriptor) (made : List String) (m : Manager) : Manager :=
  { m with
    pool := old ++ m.pool
    tracked := m.tracked.map fun entry => (entry.1, old.length + entry.2)
    made := made ++ m.made }

@[simp] theorem settings_behind : (m.behind old made).settings = m.settings := rfl

@[simp] theorem isOffline_behind (name : String) :
    (m.behind old made).isOffline name = m.isOffline name := rfl

@[simp] theorem pool_behind (id : Nat) :
    (m.behind old made).pool[old.length + id]? = m.pool[id]? := by
  simp [behind, List.getElem?_append_right]

theorem find?_behind (key : Key) :
    (m.behind old made).find? key = (m.find? key).map (old.length + ·) :=
  lookup_map_snd _ m.tracked key

theorem set_behind (id : Nat) (d : Descriptor) :
    ({ m.behind old made with pool := (m.behind old made).pool.set (old.length + id) d } :
      Manager) = ({ m with pool := m.pool.set id d } : Manager).behind old made := by
  simp [behind, List.set_append_right]

theorem keys_behind : (m.behind old made).keys = m.keys := by
  simp [keys, behind]

theorem descriptors_behind : (m.behind old made).descriptors = m.descriptors := by
  simp [descriptors, behind, List.filterMap_map, List.getElem?_append_right]

theorem newDescriptor_behind (h : SourceOnly m.settings) (source : Source) (tile : String) :
    (m.behind old made).newDescriptor source tile = m.newDescriptor source tile := by
  unfold newDescriptor
  rw [settings_behind, isOffline_behind, h source _ (m.made.count source.id)]

theorem disableAt_behind (pool : List Descriptor) (ids : List Nat) :
    disableAt (old ++ pool) (ids.map (old.length + ·)) = old ++ disableAt pool ids := by
  unfold disableAt
  rw [List.mapIdx_append]
  congr 1
  · refine List.ext_getElem? fun id => ?_
    rw [List.getElem?_mapIdx]
    by_cases hid : id < old.length
    · have hnot : id ∉ ids.map (old.length + ·) := by
        simp only [List.mem_map, not_exists, not_and]
        omega
      simp [hnot]
    · simp [List.getElem?_eq_none (Nat.le_of_not_lt hid)]
  · simp [Nat.add_comm]

-- ---------------------------------------------------------------------------
-- Actions from behind
-- ---------------------------------------------------------------------------

/-- From behind the descriptors the second action does what the first does without them, and
gives the value that `f` says. -/
def Shifts (settings : Settings) (old : List Descriptor) (made : List String) (f : α → β)
    (act : Act Manager α) (act' : Act Manager β) : Prop :=
  ∀ m world, m.settings = settings → (act.run (m, world)).2.1.settings = settings ∧
    act'.run (m.behind old made, world) = ((act.run (m, world)).1.map f,
      (act.run (m, world)).2.1.behind old made, (act.run (m, world)).2.2)

namespace Shifts

theorem pure (a : α) : Shifts settings old made f (Pure.pure a) (Pure.pure (f a)) :=
  fun _ _ hs => ⟨hs, rfl⟩

theorem fail (fault : Fault) : Shifts settings old made f (Act.fail fault) (Act.fail fault) :=
  fun _ _ hs => ⟨hs, rfl⟩

theorem ofExcept (result : Except Fault α) :
    Shifts settings old made id (Act.ofExcept result) (Act.ofExcept result) := by
  cases result with
  | ok a => exact pure (f := id) a
  | error fault => exact fail fault

theorem bind {act : Act Manager α} {act' : Act Manager β} {next : α → Act Manager γ}
    {next' : β → Act Manager δ} (h : Shifts settings old made f act act')
    (h' : ∀ a, Shifts settings old made g (next a) (next' (f a))) :
    Shifts settings old made g (act >>= next) (act' >>= next') := by
  intro m world hs
  obtain ⟨hsettings, hrun⟩ := h m world hs
  rw [run_bind, run_bind, hrun]
  revert hsettings
  rcases act.run (m, world) with ⟨fault | a, m', world'⟩
  · intro hsettings
    exact ⟨hsettings, rfl⟩
  · exact h' a m' world'

theorem attempt {act : Act Manager α} {act' : Act Manager β}
    (h : Shifts settings old made f act act') :
    Shifts settings old made (Except.map f) act.attempt act'.attempt := by
  intro m world hs
  obtain ⟨hsettings, hrun⟩ := h m world hs
  rw [run_attempt, run_attempt, hrun]
  exact ⟨hsettings, rfl⟩

theorem own : Shifts settings old made (behind old made) Act.own Act.own :=
  fun _ _ hs => ⟨hs, rfl⟩

theorem modifyOwn {change : Manager → Manager} (hs : ∀ m, (change m).settings = m.settings)
    (h : ∀ m, change (m.behind old made) = (change m).behind old made) :
    Shifts settings old made id (Act.modifyOwn change) (Act.modifyOwn change) := by
  intro m world hm
  rw [run_modifyOwn, run_modifyOwn, h]
  exact ⟨(hs m).trans hm, rfl⟩

end Shifts

-- ---------------------------------------------------------------------------
-- The manager's actions
-- ---------------------------------------------------------------------------

theorem shifts_onDescriptor (i : Nat) (act : Act Descriptor α) :
    Shifts settings old made id (onDescriptor i act) (onDescriptor (old.length + i) act) := by
  intro m world hs
  cases hd : m.pool[i]? with
  | none =>
    rw [run_onDescriptor_missing hd, run_onDescriptor_missing ((pool_behind i).trans hd)]
    exact ⟨hs, rfl⟩
  | some d =>
    rw [run_onDescriptor hd, run_onDescriptor ((pool_behind i).trans hd), set_behind]
    refine ⟨hs, ?_⟩
    rw [Except.map_id]
    rfl

theorem shifts_track (h : SourceOnly settings) (source : Source) (tile : String) :
    Shifts settings old made (old.length + ·) (track source tile) (track source tile) := by
  intro m world hs
  rw [run_track, run_track, newDescriptor_behind (hs ▸ h)]
  refine ⟨hs, ?_⟩
  simp [behind, Except.map]

theorem shifts_descriptorFor (h : SourceOnly settings) (name : String) (lon lat : Double) :
    Shifts settings old made (old.length + ·) (descriptorFor name lon lat)
      (descriptorFor name lon lat) := by
  unfold descriptorFor
  refine (Shifts.ofExcept _).bind fun source => (Shifts.ofExcept _).bind fun tile =>
    Shifts.own.bind fun m => ?_
  dsimp only [id]
  rw [find?_behind]
  cases m.find? (name, tile) with
  | some i => exact .pure i
  | none => exact shifts_track h source tile

theorem shifts_markOffline (name : String) :
    Shifts settings old made id (markOffline name) (markOffline name) := by
  refine .modifyOwn (fun m => ?_) fun m => ?_
  · split <;> rfl
  · have hids : ((m.behind old made).tracked.filter (·.1.1 = name)).map (·.2) =
        ((m.tracked.filter (·.1.1 = name)).map (·.2)).map (old.length + ·) := by
      simp [behind, List.filter_map, Function.comp_def]
    rw [isOffline_behind, hids]
    split
    · rfl
    · exact congrArg (fun pool => { m.behind old made with
        offline := m.offline ++ [name], pool }) (disableAt_behind m.pool _)

theorem shifts_acquire (name : String) (i : Nat) :
    Shifts settings old made id (acquire name i) (acquire name (old.length + i)) := by
  refine (shifts_onDescriptor i Descriptor.getTile).attempt.bind fun result => ?_
  cases result with
  | ok loan => exact .pure (f := id) loan
  | error fault =>
    dsimp only [Except.map]
    split
    · exact (shifts_markOffline name).bind fun _ => .fail fault
    · exact .fail fault

theorem shifts_chooseSource (choice : Option String) :
    Shifts settings old made id (chooseSource choice) (chooseSource choice) :=
  Shifts.own.bind fun m => .pure (f := id) (m.effective choice)

theorem shifts_report (name : String) (i : Nat) (tile : Descriptor → Option Tile) :
    Shifts settings old made id (descriptor i >>= fun d => Act.ofExcept (report name d (tile d)))
      (descriptor (old.length + i) >>= fun d => Act.ofExcept (report name d (tile d))) :=
  (shifts_onDescriptor i Act.own).bind fun _ => .ofExcept _

theorem shifts_request (h : SourceOnly settings) (choice : Option String) (lon lat : Double)
    {next : String → Nat → Act Manager α}
    (hnext : ∀ name i, Shifts settings old made id (next name i) (next name (old.length + i))) :
    Shifts settings old made id
      (chooseSource choice >>= fun name => descriptorFor name lon lat >>= next name)
      (chooseSource choice >>= fun name => descriptorFor name lon lat >>= next name) :=
  (shifts_chooseSource choice).bind fun name => (shifts_descriptorFor h name lon lat).bind
    fun i => hnext name i

theorem shifts_getTile (h : SourceOnly settings) (lon lat : Double) (choice : Option String) :
    Shifts settings old made id (getTile lon lat choice) (getTile lon lat choice) :=
  shifts_request h choice lon lat fun name i => (shifts_acquire name i).bind fun _ =>
    shifts_report name i _

theorem shifts_tileStatus (h : SourceOnly settings) (lon lat : Double) (choice : Option String) :
    Shifts settings old made id (tileStatus lon lat choice) (tileStatus lon lat choice) :=
  shifts_request h choice lon lat fun name i => shifts_report name i _

theorem shifts_getElevation (h : SourceOnly settings) (lon lat : Double) (choice : Option String)
    (method : String) : Shifts settings old made id (getElevation lon lat choice method)
      (getElevation lon lat choice method) := by
  unfold getElevation
  split
  · exact .fail _
  · refine shifts_request h choice lon lat fun name i => (shifts_acquire name i).bind fun loan =>
      (shifts_onDescriptor i Act.own).bind fun d => ?_
    dsimp only [id]
    cases loan.bind fun loan => loan.tile.grid.map (·, loan.tile.transform) with
    | none => exact .pure (f := id) _
    | some found => exact (Shifts.ofExcept _).bind fun _ => .pure (f := id) _

theorem shifts_untrack (source : Option String) :
    Shifts settings old made (List.map (old.length + ·)) (untrack source) (untrack source) := by
  intro m world hs
  have hcovers : ∀ entry : Key × Nat,
      Covers source (entry.1, old.length + entry.2) = Covers source entry := fun _ => rfl
  rw [run_untrack_eq, run_untrack_eq]
  refine ⟨hs, ?_⟩
  simp [behind, Except.map, List.filter_map, Function.comp_def, hcovers]

theorem shifts_disposeAll (ids : List Nat) :
    Shifts settings old made id (disposeAll ids) (disposeAll (ids.map (old.length + ·))) := by
  induction ids with
  | nil => exact .pure (f := id) ()
  | cons i rest ih => exact (shifts_onDescriptor i Descriptor.dispose).bind fun _ => ih

theorem shifts_release (source : Option String) :
    Shifts settings old made id (release source) (release source) := by
  refine (shifts_untrack source).bind fun ids => (shifts_disposeAll ids).bind fun _ => ?_
  rw [List.length_map]
  exact .pure (f := id) ids.length

-- ---------------------------------------------------------------------------
-- Calls from behind
-- ---------------------------------------------------------------------------

/-- What is told of the result is the same, and what is left is still behind. -/
theorem Shifts.told {act : Act Manager α} {act' : Act Manager β} {k : α → γ} {k' : β → γ}
    (h : Shifts m.settings old made f act act') (hk : ∀ a, k' (f a) = k a) (world : World) :
    (act'.run (m.behind old made, world)).1.map k' = (act.run (m, world)).1.map k ∧
      (act'.run (m.behind old made, world)).2 =
        ((act.run (m, world)).2.1.behind old made, (act.run (m, world)).2.2) := by
  rw [(h m world rfl).2]
  refine ⟨?_, rfl⟩
  cases (act.run (m, world)).1 with
  | ok a => exact congrArg Except.ok (hk a)
  | error => rfl

theorem call_behind (h : SourceOnly m.settings) (old : List Descriptor) (made : List String)
    (call : Call) (world : World) :
    call.answer (m.behind old made, world) = call.answer (m, world) ∧
      (call.run (m.behind old made, world)).2 =
        ((call.run (m, world)).2.1.behind old made, (call.run (m, world)).2.2) := by
  cases call with
  | getTile lon lat choice =>
    exact (shifts_getTile h lon lat choice).told (fun _ => rfl) world
  | getElevation lon lat choice method =>
    exact (shifts_getElevation h lon lat choice method).told (fun _ => rfl) world
  | tileStatus lon lat choice =>
    exact (shifts_tileStatus h lon lat choice).told (fun _ => rfl) world
  | descriptor name lon lat =>
    exact (shifts_descriptorFor h name lon lat).told (fun _ => rfl) world
  | release source => exact (shifts_release source).told (fun _ => rfl) world

def allAnswers : List Call → Manager × World → List (Except Fault Answer)
  | [], _ => []
  | call :: rest, s => call.answer s :: allAnswers rest (call.run s).2

theorem calls_behind (h : Consistent m) (hsource : SourceOnly m.settings) (old : List Descriptor)
    (made : List String) (calls : List Call) (world : World) :
    allAnswers calls (m.behind old made, world) = allAnswers calls (m, world) ∧
      afterAll calls (m.behind old made, world) =
        ((afterAll calls (m, world)).1.behind old made, (afterAll calls (m, world)).2) := by
  induction calls generalizing m world with
  | nil => exact ⟨rfl, rfl⟩
  | cons call rest ih =>
    obtain ⟨hanswer, hleft⟩ := call_behind hsource old made call world
    have hstep := call.transition (s := (m, world)) h
    obtain ⟨hanswers, hend⟩ := ih (m := (call.run (m, world)).2.1) hstep.consistent
      (hstep.settings.symm ▸ hsource) (call.run (m, world)).2.2
    refine ⟨?_, ?_⟩
    · rw [allAnswers, allAnswers, hanswer, hleft, hanswers]
    · change afterAll rest (call.run _).2 = _
      rw [hleft, hend]
      rfl

-- ---------------------------------------------------------------------------
-- After a release
-- ---------------------------------------------------------------------------

def fresh (settings : Settings) (offline : List String) : Manager :=
  { ofSettings settings with offline }

theorem consistent_fresh (h : Consistent m) : Consistent (fresh m.settings m.offline) where
  ids := List.nodup_nil
  fits _ _ hentry := by simp [fresh, ofSettings] at hentry
  known := h.known

/-- Nothing that a manager can be asked for tells the two apart. -/
structure Indiscernible (s s' : Manager × World) : Prop where
  settings : s'.1.settings = s.1.settings
  offline : s'.1.offline = s.1.offline
  keys : s'.1.keys = s.1.keys
  descriptors : s'.1.descriptors = s.1.descriptors
  world : s'.2 = s.2
  found : ∀ name lon lat, ((descriptorFor name lon lat >>= descriptor).run s').1 =
    ((descriptorFor name lon lat >>= descriptor).run s).1

theorem indiscernible_behind (h : SourceOnly m.settings) (world : World) :
    Indiscernible (m, world) (m.behind old made, world) := by
  refine ⟨rfl, rfl, keys_behind, descriptors_behind, rfl, fun name lon lat => ?_⟩
  have hfound : Shifts m.settings old made id (descriptorFor name lon lat >>= descriptor)
      (descriptorFor name lon lat >>= descriptor) :=
    (shifts_descriptorFor h name lon lat).bind fun i => shifts_onDescriptor i Act.own
  rw [(hfound m world rfl).2, Except.map_id]
  rfl

theorem eq_behind_fresh (h : m.tracked = []) :
    m = (fresh m.settings m.offline).behind m.pool m.made := by
  obtain ⟨given, pool, tracked, offline, made⟩ := m
  obtain rfl : tracked = [] := h
  simp [behind, fresh, ofSettings]

/-- In whatever state a manager is, with requests under way or not: a release succeeds, says
how many descriptors were tracked for the source, or for all, disposes of each of them
once, takes their keys away, and changes nothing else in the manager and no file. If it
was one of everything, the calls to come are answered as by a new manager that knows the
same sources as offline, and leave the same. -/
theorem release_exact (settings : Settings) (world : World) (steps : List Step)
    (source : Option String) :
    let s := afterSteps steps { manager := ofSettings settings, world }
    let ids := (s.manager.tracked.filter (Covers source)).map (·.2)
    ids.Nodup ∧ ∃ pool left,
      let after : Manager := { s.manager with
        tracked := s.manager.tracked.filter fun entry => !Covers source entry, pool }
      (release source).run (s.manager, s.world) = (.ok ids.length, after, left) ∧
        Disposed ids s.manager.pool pool ∧ left.files = s.world.files ∧
        (source = none → SourceOnly settings → ∀ later : List Call,
          let anew := (fresh settings s.manager.offline, left)
          allAnswers later (after, left) = allAnswers later anew ∧
            Indiscernible (afterAll later anew) (afterAll later (after, left))) := by
  intro s ids
  obtain ⟨hcoherent, hsettings⟩ : Coherent s ∧ s.manager.settings = settings :=
    coherent_afterSteps settings world steps
  have hconsistent := hcoherent.consistent
  obtain ⟨pool, left, hrun, hdisposed, hfiles, -⟩ := released hconsistent source s.world
  refine ⟨hconsistent.ids.sublist (List.filter_sublist.map _), pool, left, ?_, hdisposed, hfiles, ?_⟩
  · rw [hrun, List.length_map]
  · rintro rfl hsource later
    have hafter := eq_behind_fresh (m := { s.manager with
      tracked := s.manager.tracked.filter fun entry => !Covers none entry, pool })
      (List.filter_eq_nil_iff.mpr (by simp [Covers]))
    have hnew := consistent_fresh hconsistent
    rw [hsettings] at hnew
    dsimp only at hafter ⊢
    rw [hafter, hsettings]
    obtain ⟨hanswers, hend⟩ := calls_behind hnew hsource pool s.manager.made later left
    refine ⟨hanswers, ?_⟩
    rw [hend]
    refine indiscernible_behind ?_ _
    exact (consistent_afterAll (s := (fresh settings s.manager.offline, left)) hnew
      later).2.symm ▸ hsource

def stubborn : Settings where
  cache := ⟨.root, ["dem"]⟩
  defaultSource := "srtm3"
  environment := []
  makeFetcher _ _ := some (.scripted {
    steps := [{ outcome := .fatal "down" }]
    closeFailure := some (.reported { kind := .runtime, details := [.text "close failed"] }) })

def stalled : System :=
  afterSteps [.find "srtm3" 7 46, .acquire 0, .mark 0]
    { manager := ofSettings stubborn
      world := { files := .empty, decoder := .scripted [] (.ok none) } }

/-- The source is as offline for the released manager as for the new one. -/
theorem release_exact_stubborn :
    SourceOnly stubborn ∧ stalled.manager.offline = ["srtm3"] ∧ ∃ after left,
      (release none).run (stalled.manager, stalled.world) = (.ok 1, after, left) ∧
        allAnswers [.getTile 7 46 none] (after, left) =
          allAnswers [.getTile 7 46 none] (fresh stubborn ["srtm3"], left) := by
  have hsource : SourceOnly stubborn := fun _ _ _ => rfl
  have hoffline : stalled.manager.offline = ["srtm3"] := by decide +kernel
  have hone : ((stalled.manager.tracked.filter (Covers none)).map (·.2)).length = 1 := by
    decide +kernel
  obtain ⟨-, pool, left, hrun, -, -, hlater⟩ := release_exact stubborn
    { files := .empty, decoder := .scripted [] (.ok none) }
    [.find "srtm3" 7 46, .acquire 0, .mark 0] none
  obtain ⟨hanswers, -⟩ := hlater rfl hsource [.getTile 7 46 none]
  rw [← stalled] at hrun hanswers
  rw [hone] at hrun
  rw [hoffline] at hanswers
  exact ⟨hsource, hoffline, _, left, hrun, hanswers⟩

end TerrainTiles.Manager
