import TerrainTiles.Proofs.Descriptor.Disposal
import TerrainTiles.Proofs.Manager.Fetchers
import TerrainTiles.Proofs.Manager.InFlight
import Mathlib.Data.List.Induction

/-!
# Open sessions

A release disposes of the descriptors it takes away, which closes their sessions,
and what is tracked is within its reach. A session can be orphaned all the same: a
request under way may hold a descriptor that was taken away, and acquiring its tile
opens a session again that nothing tracked leads to any more; and a session that
cannot be closed stays open when its key is taken away. There is no other way
(`orphaned_iff_acquired`).
-/

namespace TerrainTiles.Manager

open Act

variable {s : System} {m m' : Manager} {world : World} {name : String} {id i j : Nat}
  {d : Descriptor} {step : Step}

-- ---------------------------------------------------------------------------
-- Open and orphaned sessions
-- ---------------------------------------------------------------------------

def Opened (m : Manager) (id : Nat) : Prop := m.pool[id]?.any (·.sessionOpen)

/-- It has one open that cannot be closed. -/
def Resists (m : Manager) (id : Nat) : Prop := m.pool[id]?.any (·.resists)

/-- It has one open, and no key leads to it. -/
def Orphaned (m : Manager) (id : Nat) : Prop := Opened m id ∧ id ∉ m.tracked.map (·.2)

instance (m : Manager) (id : Nat) : Decidable (Opened m id) :=
  inferInstanceAs (Decidable (_ = true))

instance (m : Manager) (id : Nat) : Decidable (Orphaned m id) :=
  inferInstanceAs (Decidable (_ ∧ _))

def Takes (s : System) (step : Step) (id : Nat) : Prop :=
  ∃ j name, step = .acquire j ∧ s.requests[j]? = some (.holding name id)

def covered (m : Manager) (source : Option String) : List Nat :=
  (m.tracked.filter (Covers source)).map (·.2)

/-- The step leaves the descriptor with a session open that no key leads to: it acquires
the tile of a stray one, or takes the key away of one whose session cannot be closed. -/
inductive Orphans (s : System) (id : Nat) : Step → Prop where
  | acquired {j : Nat} {name : String} (holding : s.requests[j]? = some (.holding name id))
      (stray : Stray s.manager id) (opened : Opened ((Step.acquire j).after s).manager id) :
      Orphans s id (.acquire j)
  | untracked {source : Option String} (covered : id ∈ s.manager.covered source)
      (resists : Resists s.manager id) : Orphans s id (.release source)

/-- No step of `steps` acquires the tile of the descriptor. -/
def Untaken (s : System) (id : Nat) (steps : List Step) : Prop :=
  ∀ before step later, steps = before ++ step :: later → ¬ Takes (afterSteps before s) step id

theorem Opened.lt (h : Opened m id) : id < m.pool.length := by
  refine Nat.lt_of_not_le fun hle => ?_
  simp [Opened, List.getElem?_eq_none hle] at h

theorem Orphaned.stray (h : Orphaned m id) : Stray m id := ⟨h.1.lt, h.2⟩

theorem orphaned_congr (hp : m'.pool[id]? = m.pool[id]?) (ht : m'.tracked = m.tracked) :
    Orphaned m' id ↔ Orphaned m id := by
  simp only [Orphaned, Opened, hp, ht]

-- ---------------------------------------------------------------------------
-- Steps that do not take the descriptor
-- ---------------------------------------------------------------------------

theorem orphaned_track (m : Manager) (source : Source) (tile : String) (world : World) :
    Orphaned ((track source tile).run (m, world)).2.1 id ↔ Orphaned m id := by
  rw [run_track]
  by_cases hid : id < m.pool.length
  · have hne : id ≠ m.pool.length := Nat.ne_of_lt hid
    simp [Orphaned, Opened, List.getElem?_append_left hid, hne]
  · constructor
    · intro h
      -- What is beyond the pool before is the descriptor that was made, and that is tracked.
      have hlt := h.1.lt
      simp only [List.length_append, List.length_singleton] at hlt
      obtain rfl : id = m.pool.length := by omega
      exact absurd (by simp) h.2
    · exact fun h => absurd h.1.lt hid

theorem orphaned_find (m : Manager) (name : String) (lon lat : Double) (world : World) :
    Orphaned ((descriptorFor name lon lat).run (m, world)).2.1 id ↔ Orphaned m id := by
  rcases run_descriptorFor m name lon lat world with
    ⟨fault, hrun, -⟩ | ⟨source, -, rfl, index, -, ⟨found, -, hrun⟩ | hrun⟩
  · rw [hrun]
  · rw [hrun]
  · rw [hrun]
    exact orphaned_track m source _ world

theorem orphaned_markOffline (m : Manager) (name : String) (world : World) :
    Orphaned ((markOffline name).run (m, world)).2.1 id ↔ Orphaned m id := by
  have hopen : ∀ d : Descriptor, d.disableRemote.sessionOpen = d.sessionOpen := fun _ => rfl
  unfold markOffline
  rw [run_modifyOwn]
  split
  · exact Iff.rfl
  · simp only [Orphaned, Opened, disableAt, List.getElem?_mapIdx]
    cases m.pool[id]? with
    | none => simp
    | some d => by_cases hid : id ∈ (m.tracked.filter (·.1.1 = name)).map (·.2) <;> simp [hid, hopen]

theorem run_disposeAll_cons (hd : m.pool[id]? = some d) (rest : List Nat) (world : World) :
    (disposeAll (id :: rest)).run (m, world) = (disposeAll rest).run
      ({ m with pool := m.pool.set id (Descriptor.dispose.run (d, world)).2.1 },
        (Descriptor.dispose.run (d, world)).2.2) := by
  have hrun := run_onDescriptor hd Descriptor.dispose world
  rw [Descriptor.run_dispose] at hrun ⊢
  exact run_bind_of_ok hrun

/-- The descriptors at the places were disposed of, each once, and the others left alone. -/
structure Disposed (ids : List Nat) (pool pool' : List Descriptor) : Prop where
  gone : ∀ id ∈ ids, ∃ d world, pool[id]? = some d ∧
    pool'[id]? = some (Descriptor.dispose.run (d, world)).2.1
  kept : ∀ id, id ∉ ids → pool'[id]? = pool[id]?

theorem Disposed.getElem? {ids : List Nat} {pool pool' : List Descriptor}
    (h : Disposed ids pool pool') (hid : id ∈ ids) :
    pool'[id]? = pool[id]?.map Descriptor.atRest := by
  obtain ⟨d, world, hd, hd'⟩ := h.gone id hid
  rw [hd', hd, Descriptor.run_dispose_rest]
  rfl

/-- A descriptor that was disposed of has no tile, is unknown if it was ready, and its fetcher
was closed: it has a session open only if that cannot be closed. -/
theorem Disposed.released {ids : List Nat} {pool pool' : List Descriptor}
    (h : Disposed ids pool pool') (hid : id ∈ ids) :
    ∃ d d', pool[id]? = some d ∧ pool'[id]? = some d' ∧ d'.cached = none ∧
      (d.state = .ready → d'.state = .unknown) ∧ (d.state ≠ .ready → d'.state = d.state) ∧
      d'.fetcher = d.fetcher.map Fetcher.afterClose ∧ d'.sessionOpen = d.resists := by
  obtain ⟨d, world, hd, hd'⟩ := h.gone id hid
  have hreleased := Descriptor.released_dispose (d, world)
  exact ⟨d, _, hd, hd', hreleased.cached, hreleased.ready, hreleased.otherState,
    hreleased.fetcher, Descriptor.sessionOpen_dispose (d, world)⟩

theorem Disposed.opened_iff {ids : List Nat} (h : Disposed ids m.pool m'.pool) (hid : id ∈ ids) :
    Opened m' id ↔ Resists m id := by
  simp only [Opened, Resists, h.getElem? hid]
  cases m.pool[id]? with
  | none => simp
  | some d => simp [d.sessionOpen_atRest]

def closing (m : Manager) (id : Nat) : List Event := m.pool[id]?.elim [] Descriptor.closing

theorem run_disposeAll {ids : List Nat} (hids : ids.Nodup) (h : ∀ id ∈ ids, id < m.pool.length)
    (world : World) : ∃ pool left, (disposeAll ids).run (m, world) = (.ok (), { m with pool }, left) ∧
      Disposed ids m.pool pool ∧ left.files = world.files ∧
      left.events = (ids.flatMap m.closing).reverse ++ world.events := by
  induction ids generalizing m world with
  | nil => exact ⟨m.pool, world, rfl, ⟨by simp, fun _ _ => rfl⟩, rfl, rfl⟩
  | cons first rest ih =>
    obtain ⟨hfirst, hids⟩ := List.nodup_cons.mp hids
    obtain ⟨hlt, hrest⟩ := List.forall_mem_cons.mp h
    have hd := List.getElem?_eq_getElem hlt
    obtain ⟨pool, left, hrun, hdisposed, hfiles, hevents⟩ := ih (m := { m with
      pool := m.pool.set first (Descriptor.dispose.run (m.pool[first], world)).2.1 }) hids
      (by simpa using hrest) (Descriptor.dispose.run (m.pool[first], world)).2.2
    rw [run_disposeAll_cons hd]
    refine ⟨pool, left, hrun, ⟨?gone, ?kept⟩,
      hfiles.trans (Descriptor.files_dispose _ world), ?events⟩
    case gone =>
      intro id hid
      rcases List.mem_cons.mp hid with rfl | hid
      · exact ⟨m.pool[id], world, hd, by simp [hdisposed.kept id hfirst, hlt]⟩
      · obtain ⟨d, before, hbefore, hafter⟩ := hdisposed.gone id hid
        have hne : first ≠ id := fun heq => hfirst (heq ▸ hid)
        exact ⟨d, before, (List.getElem?_set_ne hne).symm.trans hbefore, hafter⟩
    case kept =>
      intro id hid
      rw [List.mem_cons, not_or] at hid
      rw [hdisposed.kept id hid.2, List.getElem?_set_ne (Ne.symm hid.1)]
    case events =>
      -- Disposing of the first changes none of the others, so they make the same calls.
      have hothers (d : Descriptor) : rest.flatMap (closing { m with pool := m.pool.set first d }) =
          rest.flatMap m.closing := by
        refine List.flatMap_congr fun id hid => ?_
        have hne : first ≠ id := fun heq => hfirst (heq ▸ hid)
        simp only [closing, List.getElem?_set_ne hne]
      have hcalls : m.closing first = m.pool[first].closing := by rw [closing, hd]; rfl
      rw [hevents, hothers, Descriptor.events_dispose, List.flatMap_cons, hcalls,
        List.reverse_append, List.append_assoc]

theorem Consistent.lt (h : Consistent m) {key : Key} (hentry : (key, id) ∈ m.tracked) :
    id < m.pool.length := by
  obtain ⟨d, hd, -⟩ := h.fits key id hentry
  exact (List.getElem?_eq_some_iff.mp hd).1

/-- A release takes the keys away that it covers, says how many they were, and disposes of
their descriptors, in order. -/
theorem released (h : Consistent m) (source : Option String) (world : World) :
    ∃ pool left, (Manager.release source).run (m, world) =
        (.ok (m.tracked.filter (Covers source)).length, { m with
          tracked := m.tracked.filter fun entry => !Covers source entry, pool }, left) ∧
      Disposed (m.covered source) m.pool pool ∧ left.files = world.files ∧
      left.events = ((m.covered source).flatMap m.closing).reverse ++ world.events := by
  have hids : (m.covered source).Nodup := h.ids.sublist (List.filter_sublist.map _)
  obtain ⟨pool, left, hrun, hdisposed, hfiles, hevents⟩ := run_disposeAll
    (m := { m with tracked := m.tracked.filter fun entry => !Covers source entry }) hids
    (fun id hid => by
      obtain ⟨⟨key, _⟩, hentry, rfl⟩ := List.mem_map.mp hid
      exact h.lt (List.mem_filter.mp hentry).1) world
  refine ⟨pool, left, ?_, hdisposed, hfiles, hevents⟩
  rw [covered] at hrun
  unfold Manager.release
  rw [run_bind_of_ok (run_untrack_eq m source world), run_bind_of_ok hrun, List.length_map]
  rfl

/-- The only calls that a release makes are those that close the sessions of the
descriptors that it takes away. -/
theorem since_release (h : Consistent m) (source : Option String) (world : World) :
    world.since ((Manager.release source).run (m, world)).2.2 =
      (m.covered source).flatMap m.closing := by
  obtain ⟨pool, left, hrun, -, -, hevents⟩ := released h source world
  rw [hrun, World.since_eq hevents, List.reverse_reverse]

theorem tracked_release (h : Consistent m) (source : Option String) (world : World) :
    ((Manager.release source).run (m, world)).2.1.tracked =
      m.tracked.filter fun entry => !Covers source entry := by
  obtain ⟨pool, left, hrun, -⟩ := released h source world
  rw [hrun]

theorem tracked_releaseAll (h : Consistent m) (world : World) :
    ((Manager.release none).run (m, world)).2.1.tracked = [] :=
  (tracked_release h none world).trans (List.filter_eq_nil_iff.mpr (by simp [Covers]))

theorem not_mem_kept (h : Consistent m) {source : Option String} (hid : id ∈ m.covered source) :
    id ∉ (m.tracked.filter fun entry => !Covers source entry).map (·.2) := by
  intro hkept
  obtain ⟨⟨key, _⟩, hentry, rfl⟩ := List.mem_map.mp hid
  obtain ⟨⟨key', _⟩, hentry', heq⟩ := List.mem_map.mp hkept
  obtain ⟨hmem, hcovers⟩ := List.mem_filter.mp hentry
  obtain ⟨hmem', hcovers'⟩ := List.mem_filter.mp hentry'
  -- No two keys lead to one descriptor.
  cases List.inj_on_of_nodup_map h.ids hmem hmem' heq.symm
  simp [hcovers] at hcovers'

theorem mem_kept_iff {source : Option String} (hid : id ∉ m.covered source) :
    id ∈ (m.tracked.filter fun entry => !Covers source entry).map (·.2) ↔
      id ∈ m.tracked.map (·.2) := by
  refine ⟨fun hmem => (List.filter_sublist.map _).subset hmem, fun hmem => ?_⟩
  obtain ⟨entry, hentry, rfl⟩ := List.mem_map.mp hmem
  have hcovers : Covers source entry = false := Bool.eq_false_iff.mpr fun hcovers =>
    hid (List.mem_map.mpr ⟨entry, List.mem_filter.mpr ⟨hentry, hcovers⟩, rfl⟩)
  exact List.mem_map.mpr ⟨entry, List.mem_filter.mpr ⟨hentry, by simp [hcovers]⟩, rfl⟩

theorem orphaned_release (h : Consistent m) (source : Option String) (world : World) :
    Orphaned ((Manager.release source).run (m, world)).2.1 id ↔
      id ∈ m.covered source ∧ Resists m id ∨ Orphaned m id := by
  obtain ⟨pool, left, hrun, hdisposed, -⟩ := released h source world
  rw [hrun]
  by_cases hid : id ∈ m.covered source
  · have htracked : id ∈ m.tracked.map (·.2) := (List.filter_sublist.map _).subset hid
    have hnot : ¬ Orphaned m id := fun horphan => horphan.2 htracked
    simp only [hid, true_and, hnot, or_false]
    have hopened : Opened { m with
        tracked := m.tracked.filter fun entry => !Covers source entry, pool } id ↔ Resists m id :=
      Disposed.opened_iff hdisposed hid
    rw [← hopened]
    exact and_iff_left (not_mem_kept h hid)
  · simp only [hid, false_and, false_or, Orphaned, Opened, mem_kept_iff hid,
      hdisposed.kept id hid]

-- ---------------------------------------------------------------------------
-- Interleavings
-- ---------------------------------------------------------------------------

theorem orphaned_acquire (h : Coherent s) (hnot : ¬ Takes s (.acquire j) id) :
    Orphaned ((Step.acquire j).after s).manager id ↔ Orphaned s.manager id := by
  rcases acquire_cases h j with hafter | ⟨name, other, d, hj, -, -, hafter⟩
  · rw [hafter]
  · have hne : other ≠ id := by
      rintro rfl
      exact hnot ⟨j, name, rfl, hj⟩
    rw [hafter]
    exact orphaned_congr (List.getElem?_set_ne hne) rfl

theorem tracked_acquire (h : Coherent s) (j : Nat) :
    ((Step.acquire j).after s).manager.tracked = s.manager.tracked := by
  rcases acquire_cases h j with hafter | ⟨_, _, _, -, -, -, hafter⟩ <;> rw [hafter]

/-- A session is orphaned after a step that orphans it, and otherwise if it was before,
unless the step acquires the tile again. -/
theorem orphaned_after (h : Coherent s) (step : Step) (id : Nat) :
    Orphaned (step.after s).manager id ↔
      Orphans s id step ∨ ¬ Takes s step id ∧ Orphaned s.manager id := by
  cases step with
  | find name lon lat =>
    have hnone : ¬ Orphans s id (.find name lon lat) := by rintro ⟨⟩
    have huntaken : ¬ Takes s (.find name lon lat) id := by rintro ⟨j, -, ⟨⟩, -⟩
    simp only [hnone, huntaken, false_or, not_false_eq_true, true_and]
    exact orphaned_find s.manager name lon lat s.world
  | acquire j =>
    by_cases htakes : Takes s (.acquire j) id
    · obtain ⟨_, name, ⟨⟩, hj⟩ := htakes
      obtain ⟨d, hd, -⟩ := h.held j name id hj
      have hlt := (List.getElem?_eq_some_iff.mp hd).1
      constructor
      · rintro ⟨hopened, huntracked⟩
        rw [tracked_acquire h] at huntracked
        exact .inl (.acquired hj ⟨hlt, huntracked⟩ hopened)
      · rintro (⟨-, hstray, hopened⟩ | ⟨huntaken, -⟩)
        · exact ⟨hopened, by rw [tracked_acquire h]; exact hstray.2⟩
        · exact absurd ⟨j, name, rfl, hj⟩ huntaken
    · rw [orphaned_acquire h htakes]
      refine ⟨fun horphan => .inr ⟨htakes, horphan⟩, ?_⟩
      rintro (⟨hj, -, -⟩ | ⟨-, horphan⟩)
      · exact absurd ⟨j, _, rfl, hj⟩ htakes
      · exact horphan
  | mark j =>
    have hnone : ¬ Orphans s id (.mark j) := by rintro ⟨⟩
    have huntaken : ¬ Takes s (.mark j) id := by rintro ⟨j, -, ⟨⟩, -⟩
    simp only [hnone, huntaken, false_or, not_false_eq_true, true_and]
    rcases mark_cases s j with ⟨hafter, -⟩ | ⟨name, -, -, hafter⟩
    · rw [hafter]
    · rw [hafter]
      exact orphaned_markOffline s.manager name s.world
  | release source =>
    have huntaken : ¬ Takes s (.release source) id := by rintro ⟨j, -, ⟨⟩, -⟩
    have horphans : Orphans s id (.release source) ↔
        id ∈ s.manager.covered source ∧ Resists s.manager id :=
      ⟨fun | .untracked hid hresists => ⟨hid, hresists⟩, fun h => .untracked h.1 h.2⟩
    simp only [horphans, huntaken, not_false_eq_true, true_and]
    exact orphaned_release h.consistent source s.world

theorem mem_covered_none (m : Manager) : m.covered none = m.tracked.map (·.2) := by
  rw [covered, List.filter_eq_self.mpr (by simp [Covers])]

/-- What a release of everything leaves open is what was orphaned before, and what is
tracked and cannot be closed. -/
theorem opened_release_iff (h : Coherent s) (id : Nat) :
    Opened ((Step.release none).after s).manager id ↔
      Orphaned s.manager id ∨ id ∈ s.manager.tracked.map (·.2) ∧ Resists s.manager id := by
  have hnone := tracked_releaseAll h.consistent s.world
  have hopened : Opened ((Step.release none).after s).manager id ↔
      Orphaned ((Step.release none).after s).manager id :=
    ⟨fun hopened => ⟨hopened, by simp [Step.after, hnone]⟩, And.left⟩
  rw [hopened, or_comm, ← mem_covered_none]
  exact orphaned_release h.consistent none s.world

theorem untaken_concat {later : List Step} :
    Untaken s id (later ++ [step]) ↔ Untaken s id later ∧ ¬ Takes (afterSteps later s) step id := by
  constructor
  · intro h
    refine ⟨?_, h later step [] rfl⟩
    rintro before next rest rfl
    exact h before next (rest ++ [step]) (by simp)
  · rintro ⟨h, hlast⟩ before next rest hsplit
    rcases concat_eq_append hsplit with ⟨-, rfl, rfl⟩ | ⟨between, -, rfl⟩
    · exact hlast
    · exact h before next between rfl

theorem orphaned_iff_orphans {start : System} (h : Coherent start)
    (hstart : ¬ Orphaned start.manager id) (steps : List Step) :
    Orphaned (afterSteps steps start).manager id ↔ ∃ before step later,
      steps = before ++ step :: later ∧ Orphans (afterSteps before start) id step ∧
        Untaken (afterSteps (before ++ [step]) start) id later := by
  induction steps using List.reverseRecOn with
  | nil => exact iff_of_false hstart (by simp)
  | append_singleton steps step ih =>
    have hcoherent : Coherent (afterSteps steps start) :=
      invariant_afterSteps coherent_after h steps
    rw [afterSteps_append]
    refine (orphaned_after hcoherent step id).trans ?_
    rw [ih]
    constructor
    · rintro (horphans | ⟨hnot, before, first, later, rfl, horphans, huntaken⟩)
      · exact ⟨steps, step, [], rfl, horphans, by simp [Untaken]⟩
      · refine ⟨before, first, later ++ [step], by simp, horphans, untaken_concat.mpr ⟨huntaken, ?_⟩⟩
        rwa [← afterSteps_append, List.append_assoc]
    · rintro ⟨before, first, later, hsplit, horphans, huntaken⟩
      rcases concat_eq_append hsplit with ⟨rfl, rfl, rfl⟩ | ⟨between, rfl, rfl⟩
      · exact .inl horphans
      · obtain ⟨huntaken, hnot⟩ := untaken_concat.mp huntaken
        rw [← afterSteps_append, List.append_assoc] at hnot
        exact .inr ⟨hnot, before, first, between, rfl, horphans, huntaken⟩

theorem not_resists_of_furnished (h : Furnished Fetcher.ClosesQuietly m) : ¬ Resists m id := by
  unfold Resists
  cases hd : m.pool[id]? with
  | none => simp
  | some d =>
    cases hf : d.fetcher with
    | none => simp [Descriptor.resists, hf]
    | some fetcher =>
      have hquiet := h.pool d (List.mem_of_getElem? hd) fetcher hf
      simp [Descriptor.resists, hf, hquiet.resists]

/-- However the requests' steps and releases come after each other, at every moment: a
session is orphaned exactly if a request acquired the tile of its descriptor when that
had been released already and left the session open, or if a release could not close it;
and no request acquired the tile since. A release of everything closes all sessions but
the orphaned ones and those that cannot be closed. There are no such if the fetchers'
HTTP sessions can always be closed. -/
theorem orphaned_iff_acquired (settings : Settings) (world : World) (steps : List Step) (id : Nat) :
    let start : System := { manager := ofSettings settings, world }
    let s := afterSteps steps start
    (Orphaned s.manager id ↔ ∃ before step later, steps = before ++ step :: later ∧
      Orphans (afterSteps before start) id step ∧
      Untaken (afterSteps (before ++ [step]) start) id later) ∧
    (Opened ((Step.release none).after s).manager id ↔
      Orphaned s.manager id ∨ id ∈ s.manager.tracked.map (·.2) ∧ Resists s.manager id) ∧
    ((∀ source n fetcher, settings.makeFetcher source n = some fetcher → fetcher.ClosesQuietly) →
      ¬ Resists s.manager id) := by
  intro start s
  refine ⟨orphaned_iff_orphans (coherent_start settings world) ?_ steps,
    opened_release_iff (coherent_afterSteps settings world steps).1 id, fun hquiet =>
    not_resists_of_furnished (furnished_afterSteps Fetcher.lasting_closesQuietly hquiet world steps)⟩
  exact fun horphan => absurd horphan.1.lt (Nat.not_lt_zero id)

def unanswered : Settings where
  cache := ⟨.root, ["dem"]⟩
  defaultSource := "srtm3"
  environment := []
  makeFetcher := Settings.sourceFetcher []

/-- A release overtakes the only request: that ends, nothing is tracked, and its
session is open. -/
theorem orphaned_overtaken :
    let s := afterSteps [.find "srtm3" 7 46, .release none, .acquire 0]
      { manager := ofSettings unanswered
        world := { files := .empty, decoder := .scripted [] (.ok none) } }
    s.requests = [.ended] ∧ s.manager.tracked = [] ∧ Orphaned s.manager 0 := by
  decide +kernel

end TerrainTiles.Manager
