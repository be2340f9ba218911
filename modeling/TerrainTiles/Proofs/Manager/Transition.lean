import TerrainTiles.Manager.Request
import TerrainTiles.Proofs.Descriptor.Call
import TerrainTiles.Proofs.Source.Directory
import Mathlib.Data.List.Nodup

/-!
# Steps of the manager

`Consistent` is the invariant: different keys lead to different descriptors, and
a key leads to a descriptor of its own tile whose remote is disabled exactly if
the source is offline. Every step of the manager is a `Transition`: it keeps the
invariant, marks at most one source as offline, namely the one it found
unreachable, and fetches only below the directories of sources that are not
offline.
-/

namespace TerrainTiles.Manager

open Act

-- ---------------------------------------------------------------------------
-- The invariant
-- ---------------------------------------------------------------------------

structure Fits (m : Manager) (key : Key) (d : Descriptor) : Prop where
  tile : ∃ source ∈ Source.all, ∃ index, key = (source.id, source.fileName index) ∧
    d.copy = source.localCopy m.settings.cache (source.fileName index)
  remoteAllowed : d.remoteAllowed = !m.isOffline key.1

structure Consistent (m : Manager) : Prop where
  ids : (m.tracked.map (·.2)).Nodup
  fits : ∀ key id, (key, id) ∈ m.tracked → ∃ d, m.pool[id]? = some d ∧ Fits m key d
  known : ∀ name, m.isOffline name → ∃ source ∈ Source.all, source.id = name

variable {m m' : Manager} {world : World} {key : Key} {id : Nat} {d d' : Descriptor}

theorem consistent_ofSettings (settings : Settings) : Consistent (ofSettings settings) where
  ids := List.nodup_nil
  fits _ _ h := by simp [ofSettings] at h
  known _ h := by simp [ofSettings, isOffline] at h

theorem Fits.mono (h : Fits m key d) (hs : m'.settings = m.settings)
    (ho : m'.isOffline key.1 = m.isOffline key.1) (hc : d'.copy = d.copy)
    (ha : d'.remoteAllowed = d.remoteAllowed) : Fits m' key d' := by
  obtain ⟨⟨source, hsource, index, hkey, hcopy⟩, hallowed⟩ := h
  refine ⟨⟨source, hsource, index, hkey, ?_⟩, ?_⟩
  · rw [hc, hcopy, hs]
  · rw [ha, hallowed, ho]

theorem consistent_set (h : Consistent m) (hd : m.pool[id]? = some d) (hc : d'.copy = d.copy)
    (ha : d'.remoteAllowed = d.remoteAllowed) :
    Consistent { m with pool := m.pool.set id d' } := by
  refine ⟨h.ids, ?_, h.known⟩
  intro key other hentry
  obtain ⟨old, hold, hfits⟩ := h.fits key other hentry
  by_cases heq : id = other
  · subst heq
    rw [hd] at hold
    cases hold
    obtain ⟨hlt, -⟩ := List.getElem?_eq_some_iff.mp hd
    exact ⟨d', by simp [hlt], hfits.mono rfl rfl hc ha⟩
  · exact ⟨old, by simp [heq, hold], hfits.mono rfl rfl rfl rfl⟩

theorem consistent_track (h : Consistent m) {source : Source} (hs : source ∈ Source.all)
    (index : TileIndex)
    (hc : d.copy = source.localCopy m.settings.cache (source.fileName index))
    (ha : d.remoteAllowed = !m.isOffline source.id) (made : List String) :
    Consistent { m with
      pool := m.pool ++ [d]
      tracked := m.tracked ++ [((source.id, source.fileName index), m.pool.length)]
      made := made } := by
  have hlt : ∀ key id, (key, id) ∈ m.tracked → id < m.pool.length := by
    intro key id hentry
    obtain ⟨old, hold, -⟩ := h.fits key id hentry
    exact (List.getElem?_eq_some_iff.mp hold).1
  refine ⟨?_, ?_, h.known⟩
  · rw [List.map_append, List.nodup_append]
    refine ⟨h.ids, by simp, ?_⟩
    intro a ha b hb
    obtain ⟨⟨key, id⟩, hentry, rfl⟩ := List.mem_map.mp ha
    have := hlt key id hentry
    simp only [List.map_cons, List.map_nil, List.mem_singleton] at hb
    omega
  · intro key id hentry
    rcases List.mem_append.mp hentry with hentry | hentry
    · obtain ⟨old, hold, hfits⟩ := h.fits key id hentry
      refine ⟨old, ?_, hfits.mono rfl rfl rfl rfl⟩
      rw [List.getElem?_append_left (hlt key id hentry), hold]
    · simp only [List.mem_singleton, Prod.mk.injEq] at hentry
      obtain ⟨rfl, rfl⟩ := hentry
      exact ⟨d, by simp, ⟨source, hs, index, rfl, hc⟩, ha⟩

theorem consistent_untrack (h : Consistent m) {kept : List (Key × Nat)}
    (hk : kept.Sublist m.tracked) : Consistent { m with tracked := kept } :=
  ⟨h.ids.sublist (hk.map _), fun key id hentry => by
    obtain ⟨d, hd, hfits⟩ := h.fits key id (hk.subset hentry)
    exact ⟨d, hd, hfits.mono rfl rfl rfl rfl⟩, h.known⟩

theorem eq_of_id {l : List (Key × Nat)} (h : (l.map (·.2)).Nodup) {other : Key}
    (hm : (key, id) ∈ l) (hm' : (other, id) ∈ l) : key = other :=
  congrArg Prod.fst (List.inj_on_of_nodup_map h hm hm' rfl)

/-- Only the descriptors of the source are disabled, since no other key leads to one of them. -/
theorem consistent_markOffline (h : Consistent m) {source : String}
    (hs : ∃ found ∈ Source.all, found.id = source) :
    Consistent { m with
      offline := m.offline ++ [source]
      pool := disableAt m.pool ((m.tracked.filter (·.1.1 = source)).map (·.2)) } := by
  refine ⟨h.ids, ?_, ?_⟩
  · intro key id hentry
    obtain ⟨d, hd, hfits⟩ := h.fits key id hentry
    by_cases hkey : key.1 = source
    · have hid : id ∈ (m.tracked.filter (·.1.1 = source)).map (·.2) :=
        List.mem_map.mpr ⟨(key, id), by simp [hentry, hkey], rfl⟩
      refine ⟨d.disableRemote, ?_, hfits.tile, ?_⟩
      · simp only [disableAt, List.getElem?_mapIdx, hd, Option.map_some, if_pos hid]
      · simp [Descriptor.disableRemote, isOffline, hkey]
    · -- If one of the disabled descriptors were found here, its key would be this one.
      have hid : id ∉ (m.tracked.filter (·.1.1 = source)).map (·.2) := by
        intro hmem
        obtain ⟨⟨other, _⟩, hother, rfl⟩ := List.mem_map.mp hmem
        obtain ⟨hother, hsource⟩ := List.mem_filter.mp hother
        rw [eq_of_id h.ids hentry hother] at hkey
        exact hkey (by simpa using hsource)
      refine ⟨d, ?_, hfits.tile, ?_⟩
      · simp only [disableAt, List.getElem?_mapIdx, hd, Option.map_some, if_neg hid]
      · rw [hfits.remoteAllowed]
        simp [isOffline, hkey]
  · intro name hname
    by_cases hn : name = source
    · exact hn ▸ hs
    · refine h.known name ?_
      simpa [isOffline, hn] using hname

-- ---------------------------------------------------------------------------
-- Transitions
-- ---------------------------------------------------------------------------

def Permits (m : Manager) (event : Event) : Prop :=
  event.isFetch → ∃ path, event = .fetchBegun path ∧
    ∃ source ∈ Source.all, m.isOffline source.id = false ∧
      path.parent = m.settings.cache / source.id

/-- What a step does that found the source `raised`, if any, unreachable. -/
structure Transition (raised : Option String) (s t : Manager × World) : Prop where
  settings : t.1.settings = s.1.settings
  consistent : Consistent t.1
  offline : ∀ name, t.1.isOffline name = (s.1.isOffline name || decide (raised = some name))
  records : World.Records (Permits s.1) s.2 t.2

variable {s t u : Manager × World} {raised : Option String}

theorem Transition.refl (h : Consistent s.1) : Transition none s s :=
  ⟨rfl, h, by simp, World.records_of_eq rfl⟩

theorem Transition.trans (h : Transition none s t) (h' : Transition raised t u) :
    Transition raised s u := by
  have ho : ∀ name, t.1.isOffline name = s.1.isOffline name := by simp [h.offline]
  refine ⟨h'.settings.trans h.settings, h'.consistent, ?_, ?_⟩
  · intro name
    rw [h'.offline, ho]
  · refine h.records.trans (h'.records.mono ?_)
    intro event he hfetch
    obtain ⟨path, hevent, source, hsource, hoffline, hparent⟩ := he hfetch
    exact ⟨path, hevent, source, hsource, ho _ ▸ hoffline, h.settings ▸ hparent⟩

theorem permits_of_not_fetch {event : Event} (h : event.isFetch = false) : Permits m event := by
  intro hfetch
  rw [h] at hfetch
  cases hfetch

-- ---------------------------------------------------------------------------
-- Results
-- ---------------------------------------------------------------------------

variable {α β : Type}

def raisedBy (source : String) : Except Fault α → Option String
  | .ok _ => none
  | .error fault => if isAcquisitionFault fault then some source else none

def Unraised (result : Except Fault α) : Prop :=
  ∀ fault, result = .error fault → isAcquisitionFault fault = false

theorem raisedBy_of_unraised {source : String} {result : Except Fault α} (h : Unraised result) :
    raisedBy source result = none := by
  cases result with
  | ok => rfl
  | error fault => simp [raisedBy, h fault rfl]

theorem unraised_ok (a : α) : Unraised (.ok a) := by
  rintro fault ⟨⟩

theorem unraised_error {fault : Fault} (h : isAcquisitionFault fault = false) :
    Unraised (.error fault : Except Fault α) := by
  rintro _ ⟨⟩
  exact h

theorem Unraised.bind {x : Except Fault α} {f : α → Except Fault β} (hx : Unraised x)
    (hf : ∀ a, Unraised (f a)) : Unraised (x >>= f) := by
  cases x with
  | ok a => exact hf a
  | error fault => exact unraised_error (hx fault rfl)

-- ---------------------------------------------------------------------------
-- Finding descriptors
-- ---------------------------------------------------------------------------

theorem run_onDescriptor (hd : m.pool[id]? = some d) (act : Act Descriptor α)
    (world : World) :
    (onDescriptor id act).run (m, world) = ((act.run (d, world)).1,
      { m with pool := m.pool.set id (act.run (d, world)).2.1 }, (act.run (d, world)).2.2) := by
  unfold onDescriptor Act.run
  dsimp only
  rw [hd]

theorem run_onDescriptor_missing (hd : m.pool[id]? = none) (act : Act Descriptor α)
    (world : World) :
    (onDescriptor id act).run (m, world) = (.error missingDescriptor, m, world) := by
  unfold onDescriptor Act.run
  dsimp only
  rw [hd]

theorem run_descriptor (m : Manager) (id : Nat) (world : World) :
    (descriptor id).run (m, world) = (match m.pool[id]? with
      | some d => .ok d
      | none => .error missingDescriptor, m, world) := by
  unfold descriptor
  cases hd : m.pool[id]? with
  | none => exact run_onDescriptor_missing hd _ _
  | some d =>
    rw [run_onDescriptor hd, run_own]
    obtain ⟨hlt, hget⟩ := List.getElem?_eq_some_iff.mp hd
    simp [← hget]

theorem transition_onDescriptor (h : Consistent m) (hd : m.pool[id]? = some d)
    {act : Act Descriptor α} (hsteady : Descriptor.Steady (d, world) (act.run (d, world)).2)
    (hrecords : World.Records (Permits m) world (act.run (d, world)).2.2) :
    Transition none (m, world) ((onDescriptor id act).run (m, world)).2 := by
  rw [run_onDescriptor hd]
  refine ⟨rfl, consistent_set h hd hsteady.alike.copy hsteady.remoteAllowed, ?_, hrecords⟩
  simp [isOffline]

def newDescriptor (m : Manager) (source : Source) (tile : String) : Descriptor :=
  let d : Descriptor := {
    copy := source.localCopy m.settings.cache tile
    fetcher := m.settings.makeFetcher source (m.made.count source.id) }
  if m.isOffline source.id then d.disableRemote else d

theorem newDescriptor_copy (m : Manager) (source : Source) (tile : String) :
    (m.newDescriptor source tile).copy = source.localCopy m.settings.cache tile := by
  unfold newDescriptor
  dsimp only
  split <;> rfl

theorem newDescriptor_remoteAllowed (m : Manager) (source : Source) (tile : String) :
    (m.newDescriptor source tile).remoteAllowed = !m.isOffline source.id := by
  unfold newDescriptor
  dsimp only
  split
  · next ho => simp [Descriptor.disableRemote, ho]
  · next ho => simpa using ho

theorem run_track (m : Manager) (source : Source) (tile : String) (world : World) :
    (track source tile).run (m, world) = (.ok m.pool.length, { m with
      pool := m.pool ++ [m.newDescriptor source tile]
      tracked := m.tracked ++ [((source.id, tile), m.pool.length)]
      made := m.made ++ [source.id] }, world.record (.fetcherMade source.id)) := rfl

theorem transition_track (h : Consistent m) {source : Source} (hs : source ∈ Source.all)
    (index : TileIndex) (world : World) :
    ∃ id t, (track source (source.fileName index)).run (m, world) = (.ok id, t) ∧
      Transition none (m, world) t ∧ ((source.id, source.fileName index), id) ∈ t.1.tracked := by
  refine ⟨_, _, run_track m source _ world, ⟨rfl, ?_, ?_, ?_⟩, ?_⟩
  · exact consistent_track h hs index (newDescriptor_copy m source _)
      (newDescriptor_remoteAllowed m source _) _
  · simp [isOffline]
  · refine ⟨[.fetcherMade source.id], rfl, ?_⟩
    intro event he
    rw [List.mem_singleton] at he
    subst he
    exact permits_of_not_fetch rfl
  · simp

theorem unraised_find (name : String) : Unraised (Source.find name) := by
  unfold Source.find
  split
  · exact unraised_ok _
  · exact unraised_error rfl

theorem unraised_tileName (source : Source) (lon lat : Double) :
    Unraised (source.tileName lon lat) := by
  unfold Source.tileName Source.index
  split
  · exact unraised_ok _
  · exact unraised_error rfl

theorem map_eq_ok {ε : Type} {f : α → β} {x : Except ε α} {b : β}
    (h : x.map f = .ok b) : ∃ a, x = .ok a ∧ f a = b := by
  cases x with
  | error => cases h
  | ok a => exact ⟨a, rfl, Except.ok.inj h⟩

theorem tileName_ok {source : Source} {lon lat : Double} {tile : String}
    (h : source.tileName lon lat = .ok tile) :
    ∃ index, source.index lon lat = .ok index ∧ source.fileName index = tile := map_eq_ok h

theorem Source.find_id {source : Source} (h : source ∈ Source.all) :
    Source.find source.id = .ok source := by
  simp only [Source.all, List.mem_cons, List.not_mem_nil, or_false] at h
  rcases h with rfl | rfl | rfl <;> rfl

theorem run_descriptorFor_of_mem {source : Source} (h : source ∈ Source.all) (lon lat : Double)
    (m : Manager) (world : World) :
    (descriptorFor source.id lon lat).run (m, world) = match source.tileName lon lat with
      | .error fault => (.error fault, m, world)
      | .ok tile => match m.find? (source.id, tile) with
        | some id => (.ok id, m, world)
        | none => (track source tile).run (m, world) := by
  unfold descriptorFor
  rw [Source.find_id h, run_bind_of_ok (run_ofExcept (.ok source) _)]
  cases source.tileName lon lat with
  | error fault => exact run_bind_of_error (run_ofExcept (.error fault) _)
  | ok tile =>
    rw [run_bind_of_ok (run_ofExcept (.ok tile) _), run_bind_of_ok (run_own _)]
    dsimp only
    cases m.find? (source.id, tile) <;> rfl

/-- Finding a descriptor fails without a trace, finds a tracked one, or makes one. -/
theorem run_descriptorFor (m : Manager) (name : String) (lon lat : Double) (world : World) :
    (∃ fault, (descriptorFor name lon lat).run (m, world) = (.error fault, m, world) ∧
      isAcquisitionFault fault = false) ∨
    ∃ source ∈ Source.all, source.id = name ∧ ∃ index, source.index lon lat = .ok index ∧
      ((∃ id, ((name, source.fileName index), id) ∈ m.tracked ∧
        (descriptorFor name lon lat).run (m, world) = (.ok id, m, world)) ∨
      (descriptorFor name lon lat).run (m, world) =
        (track source (source.fileName index)).run (m, world)) := by
  cases hfind : Source.find name with
  | error fault =>
    refine .inl ⟨fault, ?_, unraised_find name fault hfind⟩
    unfold descriptorFor
    rw [hfind]
    exact run_bind_of_error (run_ofExcept (.error fault) _)
  | ok source =>
    obtain ⟨hsource, rfl⟩ := Source.find_eq_ok hfind
    rw [run_descriptorFor_of_mem hsource]
    cases htile : source.tileName lon lat with
    | error fault => exact .inl ⟨fault, rfl, unraised_tileName source lon lat fault htile⟩
    | ok tile =>
      obtain ⟨index, hindex, rfl⟩ := tileName_ok htile
      refine .inr ⟨source, hsource, rfl, index, hindex, ?_⟩
      dsimp only
      cases hfound : m.find? (source.id, source.fileName index) with
      | some id =>
        obtain ⟨_, _, htracked, -⟩ := List.lookup_eq_some_iff.mp hfound
        exact .inl ⟨id, by simp [htracked], rfl⟩
      | none => exact .inr rfl

theorem descriptorFor_cases (h : Consistent m) (name : String) (lon lat : Double) (world : World) :
    (∃ fault, (descriptorFor name lon lat).run (m, world) = (.error fault, m, world) ∧
      isAcquisitionFault fault = false) ∨
    ∃ id t tile, (descriptorFor name lon lat).run (m, world) = (.ok id, t) ∧
      Transition none (m, world) t ∧ ((name, tile), id) ∈ t.1.tracked := by
  rcases run_descriptorFor m name lon lat world with
    hfault | ⟨source, hsource, rfl, index, -, ⟨id, htracked, hrun⟩ | hrun⟩
  · exact .inl hfault
  · exact .inr ⟨id, _, _, hrun, .refl h, htracked⟩
  · obtain ⟨id, t, htrack, htransition, htracked⟩ := transition_track h hsource index world
    exact .inr ⟨id, t, _, hrun.trans htrack, htransition, htracked⟩

-- ---------------------------------------------------------------------------
-- Acquiring
-- ---------------------------------------------------------------------------

theorem transition_markOffline (h : Consistent m) {source : String}
    (hs : ∃ found ∈ Source.all, found.id = source) (world : World) :
    Transition (some source) (m, world) ((markOffline source).run (m, world)).2 := by
  unfold markOffline
  rw [run_modifyOwn]
  cases ho : m.isOffline source with
  | true =>
    refine ⟨rfl, h, ?_, World.records_of_eq rfl⟩
    intro name
    by_cases hn : source = name
    · simp [← hn, ho]
    · simp [hn]
  | false =>
    refine ⟨rfl, consistent_markOffline h hs, ?_, World.records_of_eq rfl⟩
    intro name
    simp [isOffline, eq_comm]

/-- A descriptor that a key leads to fetches only below the directory of its
source, and only while that is not offline. -/
theorem permits_getTile (hfits : Fits m key d) (world : World) :
    World.Records (Permits m) world (Descriptor.getTile.run (d, world)).2.2 := by
  obtain ⟨⟨source, hsource, index, rfl, hcopy⟩, hallowed⟩ := hfits
  refine (Descriptor.steady_getTile (d, world)).records.mono ?_
  intro event he hfetch
  obtain ⟨henabled, path, hpath, rfl⟩ := he hfetch
  refine ⟨path, rfl, source, hsource, ?_, ?_⟩
  · simp only [Descriptor.remoteEnabled, hallowed, Bool.and_eq_true, Bool.not_eq_true'] at henabled
    exact henabled.1
  · exact Source.parent_archive hsource (hcopy ▸ hpath)

theorem transition_acquire (h : Consistent m) {source tile : String}
    (hentry : ((source, tile), id) ∈ m.tracked) (world : World) :
    Transition (raisedBy source ((acquire source id).run (m, world)).1) (m, world)
      ((acquire source id).run (m, world)).2 := by
  obtain ⟨d, hd, hfits⟩ := h.fits _ _ hentry
  have hget := transition_onDescriptor h hd (Descriptor.steady_getTile (d, world))
    (permits_getTile hfits world)
  have hknown : ∃ found ∈ Source.all, found.id = source := by
    obtain ⟨⟨found, hfound, _, hkey, -⟩, -⟩ := hfits
    cases hkey
    exact ⟨found, hfound, rfl⟩
  unfold acquire
  rw [run_bind, run_attempt]
  revert hget
  rcases (onDescriptor id Descriptor.getTile).run (m, world) with ⟨fault | loan, m', world'⟩
  · intro hget
    dsimp only
    -- The fault goes on in both cases; only the mark differs.
    cases hf : isAcquisitionFault fault with
    | true =>
      simp only [if_true, run_bind]
      have hmark := transition_markOffline hget.consistent hknown world'
      rw [show (markOffline source).run (m', world') =
        (.ok (), ((markOffline source).run (m', world')).2) from rfl]
      simpa only [run_fail, raisedBy, hf, if_true] using hget.trans hmark
    | false => simpa only [hf, run_fail, raisedBy, Bool.false_eq_true, if_false] using hget
  · intro hget
    exact hget

-- ---------------------------------------------------------------------------
-- Releasing
-- ---------------------------------------------------------------------------

theorem transition_dispose (h : Consistent m) (id : Nat) (world : World) :
    Transition none (m, world) ((onDescriptor id Descriptor.dispose).run (m, world)).2 := by
  cases hd : m.pool[id]? with
  | none =>
    rw [run_onDescriptor_missing hd]
    exact .refl h
  | some d =>
    refine transition_onDescriptor h hd (Descriptor.steady_dispose (d, world)) ?_
    rw [Descriptor.run_dispose]
    refine (Descriptor.closed_frame d world).2.events.mono ?_
    intro event he
    exact permits_of_not_fetch he.1

theorem transition_disposeAll (h : Consistent m) (ids : List Nat) (world : World) :
    Transition none (m, world) ((disposeAll ids).run (m, world)).2 := by
  induction ids generalizing m world with
  | nil => exact .refl h
  | cons id rest ih =>
    have hdispose := transition_dispose h id world
    unfold disposeAll
    rw [run_bind]
    revert hdispose
    rcases (onDescriptor id Descriptor.dispose).run (m, world) with ⟨fault | _, m', world'⟩
    · intro hdispose
      exact hdispose
    · intro hdispose
      exact hdispose.trans (ih hdispose.consistent world')

/-- The key is one that a release takes away. -/
def Covers (source : Option String) (entry : Key × Nat) : Bool := source.all (· = entry.1.1)

theorem run_untrack_eq (m : Manager) (source : Option String) (world : World) :
    (untrack source).run (m, world) = (.ok ((m.tracked.filter (Covers source)).map (·.2)),
      { m with tracked := m.tracked.filter fun entry => !Covers source entry }, world) := by
  unfold untrack
  rw [run_bind_of_ok (run_own _)]
  simp only [List.partition_eq_filter_filter]
  rfl

theorem run_untrack (m : Manager) (source : Option String) (world : World) :
    ∃ ids kept, kept.Sublist m.tracked ∧
      (untrack source).run (m, world) = (.ok ids, { m with tracked := kept }, world) :=
  ⟨_, _, List.filter_sublist, run_untrack_eq m source world⟩

theorem transition_untrack (h : Consistent m) (source : Option String) (world : World) :
    ∃ ids t, (untrack source).run (m, world) = (.ok ids, t) ∧ Transition none (m, world) t := by
  obtain ⟨ids, kept, hkept, hrun⟩ := run_untrack m source world
  exact ⟨ids, _, hrun, rfl, consistent_untrack h hkept, by simp [isOffline],
    World.records_of_eq rfl⟩

theorem transition_release (h : Consistent m) (source : Option String) (world : World) :
    Transition none (m, world) ((release source).run (m, world)).2 := by
  obtain ⟨ids, ⟨m', world'⟩, hrun, huntrack⟩ := transition_untrack h source world
  have hdispose := transition_disposeAll huntrack.consistent ids world'
  unfold release
  rw [run_bind_of_ok hrun, run_bind]
  revert hdispose
  rcases (disposeAll ids).run (m', world') with ⟨fault | _, t⟩
  · intro hdispose
    exact huntrack.trans hdispose
  · intro hdispose
    exact huntrack.trans hdispose

end TerrainTiles.Manager
