import TerrainTiles.Proofs.Manager.Sessions
import TerrainTiles.Proofs.Source.Naming
import Mathlib.Algebra.Ring.Nat

/-!
# What a manager tracks

The tracked keys are a set: a request that is accepted puts the key of its tile in,
unless it is there, and a release takes out the keys of its source or all. A call adds
one descriptor, with one fetcher, for a key that is new, and none otherwise
(`Call.adds`, `Call.reuses`, `Call.adds_nothing`). So after any calls the tracked
keys are those that were requested since their source was last released
(`tracks_requested`).
-/

namespace TerrainTiles.Manager

open Act

variable {m m' : Manager} {world : World} {s : Manager × World} {settings : Settings} {key : Key}
  {id : Nat} {name : String} {lon lat : Double} {call : Call}

-- ---------------------------------------------------------------------------
-- Keys
-- ---------------------------------------------------------------------------

def keys (m : Manager) : List Key := m.tracked.map Prod.fst

/-- The key of the tile at a point, if there is such a source and it covers the point. -/
def keyAt (name : String) (lon lat : Double) : Option Key :=
  (Source.find name).toOption.bind fun source =>
    (source.tileName lon lat).toOption.map fun tile => (source.id, tile)

namespace Call

/-- The source and the point that a tile is asked for; a release asks for none, nor does a
request by a method that is not known. -/
def place? (settings : Settings) : Call → Option (String × Double × Double)
  | getTile lon lat source | tileStatus lon lat source =>
    some ((ofSettings settings).effective source, lon, lat)
  | getElevation lon lat source method =>
    if (Interpolation.ofName? method).isNone then none
    else some ((ofSettings settings).effective source, lon, lat)
  | descriptor source lon lat => some (source, lon, lat)
  | release _ => none

def key? (settings : Settings) (call : Call) : Option Key :=
  (call.place? settings).bind fun (name, lon, lat) => keyAt name lon lat

def releases (name : String) : Call → Bool
  | release source => source.all (· = name)
  | _ => false

def noted (settings : Settings) (keys : List Key) (call : Call) : List Key :=
  match call.key? settings with
  | some key => if key ∈ keys then keys else keys ++ [key]
  | none => keys.filter fun key => !call.releases key.1

theorem releases_of_request (h : ∀ source, call ≠ .release source) (name : String) :
    call.releases name = false := by
  cases call with
  | release source => exact absurd rfl (h source)
  | _ => rfl

theorem releases_of_key (h : call.key? settings = some key) (name : String) :
    call.releases name = false :=
  releases_of_request (by rintro source rfl; cases h) name

theorem mem_noted {keys : List Key} : key ∈ call.noted settings keys ↔
    call.key? settings = some key ∨ key ∈ keys ∧ call.releases key.1 = false := by
  unfold noted
  cases hkey : call.key? settings with
  | none => simp
  | some other =>
    simp only [releases_of_key hkey, and_true, Option.some_inj]
    split
    · next hmem => exact ⟨.inr, fun h => h.elim (fun heq => heq ▸ hmem) id⟩
    · rw [List.mem_append, List.mem_singleton, or_comm, eq_comm]

theorem nodup_noted {keys : List Key} (h : keys.Nodup) (settings : Settings) (call : Call) :
    (call.noted settings keys).Nodup := by
  unfold noted
  split
  · split
    · exact h
    · next hnew =>
      rw [List.nodup_append]
      refine ⟨h, List.nodup_singleton _, ?_⟩
      rintro a ha b hb rfl
      exact hnew (List.mem_singleton.mp hb ▸ ha)
  · exact h.filter _

end Call

/-- Some call was accepted for the key, and no later one released its source. -/
def Wanted (settings : Settings) (calls : List Call) (key : Key) : Prop :=
  ∃ before call later, calls = before ++ call :: later ∧ call.key? settings = some key ∧
    ∀ other ∈ later, other.releases key.1 = false

theorem wanted_concat {calls : List Call} :
    Wanted settings (calls ++ [call]) key ↔
      call.key? settings = some key ∨ Wanted settings calls key ∧ call.releases key.1 = false := by
  constructor
  · rintro ⟨before, other, later, hsplit, hkey, hlater⟩
    rcases concat_eq_append hsplit with ⟨-, -, rfl⟩ | ⟨between, rfl, rfl⟩
    · exact .inl hkey
    · refine .inr ⟨⟨before, other, between, rfl, hkey, fun next hnext => ?_⟩, hlater call (by simp)⟩
      exact hlater next (List.mem_append_left _ hnext)
  · rintro (hkey | ⟨⟨before, other, later, rfl, hkey, hlater⟩, hlast⟩)
    · exact ⟨calls, call, [], rfl, hkey, by simp⟩
    · refine ⟨before, other, later ++ [call], by simp, hkey, ?_⟩
      simpa [or_imp, forall_and] using ⟨hlater, hlast⟩

-- ---------------------------------------------------------------------------
-- Finding
-- ---------------------------------------------------------------------------

theorem mem_of_find (h : m.find? key = some id) : (key, id) ∈ m.tracked := by
  obtain ⟨_, _, htracked, -⟩ := List.lookup_eq_some_iff.mp h
  simp [htracked]

theorem find_eq_none_iff : m.find? key = none ↔ key ∉ m.keys := by
  simp only [find?, keys, List.lookup_eq_none_iff, List.mem_map, not_exists, not_and, bne_iff_ne]
  exact forall₂_congr fun _ _ => ne_comm

theorem tileName_of_index {source : Source} {index : TileIndex}
    (h : source.index lon lat = .ok index) :
    source.tileName lon lat = .ok (source.fileName index) := by
  rw [Source.tileName, h]
  rfl

theorem keyAt_eq_some : keyAt name lon lat = some key ↔ ∃ source ∈ Source.all, source.id = name ∧
    ∃ index, source.index lon lat = .ok index ∧ key = (source.id, source.fileName index) := by
  constructor
  · intro h
    rw [keyAt, Option.bind_eq_some_iff] at h
    obtain ⟨source, hfind, h⟩ := h
    obtain ⟨tile, htile, rfl⟩ := Option.map_eq_some_iff.mp h
    obtain ⟨hsource, hname⟩ := Source.find_eq_ok (toOption_eq_some.mp hfind)
    obtain ⟨index, hindex, rfl⟩ := tileName_ok (toOption_eq_some.mp htile)
    exact ⟨source, hsource, hname, index, hindex, rfl⟩
  · rintro ⟨source, hsource, hname, index, hindex, hkey⟩
    have hfind : (Source.find name).toOption = some source := by
      rw [← hname, Source.find_id hsource]
      rfl
    have htile : (source.tileName lon lat).toOption = some (source.fileName index) := by
      rw [tileName_of_index hindex]
      rfl
    rw [keyAt, hfind, Option.bind_some, htile, Option.map_some, hkey]

theorem run_descriptorFor_rejected (h : keyAt name lon lat = none) (m : Manager) (world : World) :
    ∃ fault, (descriptorFor name lon lat).run (m, world) = (.error fault, m, world) := by
  rcases run_descriptorFor m name lon lat world with
    ⟨fault, hrun, -⟩ | ⟨source, hsource, hname, index, hindex, -⟩
  · exact ⟨fault, hrun⟩
  · have hkey : keyAt name lon lat = some (source.id, source.fileName index) :=
      keyAt_eq_some.mpr ⟨source, hsource, hname, index, hindex, rfl⟩
    rw [h] at hkey
    cases hkey

/-- A request that is accepted finds the descriptor under its key, or has one made. -/
theorem run_descriptorFor_accepted (h : keyAt name lon lat = some key) (m : Manager)
    (world : World) : ∃ source ∈ Source.all, ∃ index, key = (source.id, source.fileName index) ∧
      (descriptorFor name lon lat).run (m, world) = match m.find? key with
        | some id => (.ok id, m, world)
        | none => (track source (source.fileName index)).run (m, world) := by
  obtain ⟨source, hsource, rfl, index, hindex, rfl⟩ := keyAt_eq_some.mp h
  have hrun := run_descriptorFor_of_mem hsource lon lat m world
  rw [tileName_of_index hindex] at hrun
  exact ⟨source, hsource, index, rfl, hrun⟩

-- ---------------------------------------------------------------------------
-- What a call adds
-- ---------------------------------------------------------------------------

/-- No descriptor, fetcher or key was added or taken away. -/
structure Unadded (m m' : Manager) : Prop where
  tracked : m'.tracked = m.tracked
  made : m'.made = m.made
  pool : m'.pool.length = m.pool.length

/-- The source's fetcher was made and a descriptor with it, under the key. -/
structure Added (key : Key) (m m' : Manager) : Prop where
  tracked : m'.tracked = m.tracked ++ [(key, m.pool.length)]
  made : m'.made = m.made ++ [key.1]
  pool : m'.pool.length = m.pool.length + 1

instance : IsPreorder Manager Unadded where
  refl _ := ⟨rfl, rfl, rfl⟩
  trans _ _ _ h h' :=
    ⟨h'.tracked.trans h.tracked, h'.made.trans h.made, h'.pool.trans h.pool⟩

theorem Added.unadded (h : Added key m m') {m'' : Manager} (h' : Unadded m' m'') :
    Added key m m'' :=
  ⟨h'.tracked.trans h.tracked, h'.made.trans h.made, h'.pool.trans h.pool⟩

theorem unadded_onDescriptor {α : Type} (id : Nat) (act : Act Descriptor α) (m : Manager)
    (world : World) : Unadded m ((onDescriptor id act).run (m, world)).2.1 := by
  cases hd : m.pool[id]? with
  | none =>
    rw [run_onDescriptor_missing hd]
    exact ⟨rfl, rfl, rfl⟩
  | some d =>
    rw [run_onDescriptor hd]
    exact ⟨rfl, rfl, by simp⟩

theorem unadded_markOffline (name : String) (m : Manager) (world : World) :
    Unadded m ((markOffline name).run (m, world)).2.1 := by
  unfold markOffline
  rw [run_modifyOwn]
  dsimp only
  split
  · exact ⟨rfl, rfl, rfl⟩
  · exact ⟨rfl, rfl, by simp [disableAt]⟩

theorem unadded_after {step : Step} (h : (∃ i, step = .acquire i) ∨ ∃ i, step = .mark i)
    (s : System) : Unadded s.manager (step.after s).manager := by
  rcases h with ⟨i, rfl⟩ | ⟨i, rfl⟩
  all_goals
    unfold Step.after
    dsimp only
    split
  · exact unadded_onDescriptor _ _ _ _
  · exact Std.Refl.refl _
  · exact unadded_markOffline _ _ s.world
  · exact Std.Refl.refl _

theorem unadded_found (hplace : call.place? m.settings = some (name, lon, lat)) (world : World) :
    Unadded ((descriptorFor name lon lat).run (m, world)).2.1 (call.run (m, world)).2.1 := by
  let s : System := { manager := m, world }
  have hcall : (call.run (m, world)).2.1 = (afterSteps (call.steps m 0) s).manager :=
    congrArg Prod.fst (run_eq_afterSteps call s)
  have hfind : ((descriptorFor name lon lat).run (m, world)).2.1 =
      ((Step.find name lon lat).after s).manager := rfl
  have hrest : ∀ t : System, Unadded t.manager (afterSteps [.acquire 0, .mark 0] t).manager :=
    fun t => IsTrans.trans _ _ _ (unadded_after (.inl ⟨0, rfl⟩) t)
      (unadded_after (.inr ⟨0, rfl⟩) _)
  rw [hcall, hfind]
  cases call with
  | getTile =>
    cases hplace
    exact hrest _
  | getElevation lon lat source method =>
    simp only [Call.place?] at hplace
    split at hplace
    · cases hplace
    · next hmethod =>
      cases hplace
      simp only [Call.steps, if_neg hmethod]
      exact hrest _
  | tileStatus =>
    cases hplace
    exact Std.Refl.refl _
  | descriptor =>
    cases hplace
    exact Std.Refl.refl _
  | release => cases hplace

/-- A request for a tracked key finds its descriptor as it is, and adds nothing. -/
theorem Call.reuses (hplace : call.place? m.settings = some (name, lon, lat))
    (hkey : keyAt name lon lat = some key) (hid : m.find? key = some id) (world : World) :
    (descriptorFor name lon lat).run (m, world) = (.ok id, m, world) ∧
      Unadded m (call.run (m, world)).2.1 := by
  obtain ⟨source, -, index, -, hrun⟩ := run_descriptorFor_accepted hkey m world
  rw [hid] at hrun
  have hfound := unadded_found hplace world
  rw [hrun] at hfound
  exact ⟨hrun, hfound⟩

theorem Call.adds (hkey : call.key? m.settings = some key) (hnone : m.find? key = none)
    (world : World) : Added key m (call.run (m, world)).2.1 := by
  obtain ⟨⟨name, lon, lat⟩, hplace, hkey⟩ := Option.bind_eq_some_iff.mp hkey
  obtain ⟨source, -, index, rfl, hrun⟩ := run_descriptorFor_accepted hkey m world
  rw [hnone] at hrun
  have hfound := unadded_found hplace world
  rw [hrun, run_track] at hfound
  exact Added.unadded ⟨rfl, rfl, by simp⟩ hfound

theorem Call.adds_nothing (hkey : call.key? m.settings = none)
    (hrequest : ∀ source, call ≠ .release source) (world : World) :
    Unadded m (call.run (m, world)).2.1 := by
  cases hplace : call.place? m.settings with
  | none =>
    cases call with
    | getElevation lon lat source method =>
      simp only [Call.place?] at hplace
      split at hplace
      · next hmethod =>
        have hcall := run_eq_afterSteps (.getElevation lon lat source method) ⟨m, world, []⟩
        simp only [Call.steps, if_pos hmethod] at hcall
        rw [hcall]
        exact Std.Refl.refl m
      · cases hplace
    | release source => exact absurd rfl (hrequest source)
    | _ => cases hplace
  | some place =>
    obtain ⟨name, lon, lat⟩ := place
    rw [Call.key?, hplace] at hkey
    obtain ⟨fault, hrun⟩ := run_descriptorFor_rejected hkey m world
    have hfound := unadded_found hplace world
    rw [hrun] at hfound
    exact hfound

-- ---------------------------------------------------------------------------
-- The keys after a call
-- ---------------------------------------------------------------------------

/-- A request puts its key in if it is accepted, a release takes out what it covers. -/
theorem keys_call (h : Consistent m) (call : Call) (world : World) :
    (call.run (m, world)).2.1.keys = call.noted m.settings m.keys := by
  unfold Call.noted
  cases hkey : call.key? m.settings with
  | some key =>
    dsimp only
    cases hid : m.find? key with
    | some id =>
      obtain ⟨⟨name, lon, lat⟩, hplace, hat⟩ := Option.bind_eq_some_iff.mp hkey
      have hmem : key ∈ m.keys := List.mem_map.mpr ⟨_, mem_of_find hid, rfl⟩
      rw [if_pos hmem]
      exact congrArg (List.map Prod.fst) (Call.reuses hplace hat hid world).2.tracked
    | none =>
      rw [if_neg (find_eq_none_iff.mp hid), keys, (Call.adds hkey hid world).tracked]
      simp [keys]
  | none =>
    by_cases hrelease : ∃ source, call = .release source
    · obtain ⟨source, rfl⟩ := hrelease
      have htracked : (Call.run (.release source) (m, world)).2.1.tracked = _ :=
        tracked_release h source world
      rw [keys, htracked, keys, List.filter_map]
      rfl
    · have hrequest : ∀ source, call ≠ .release source := fun source heq => hrelease ⟨source, heq⟩
      rw [keys, (Call.adds_nothing hkey hrequest world).tracked]
      simp [keys, Call.releases_of_request hrequest]

-- ---------------------------------------------------------------------------
-- Runs
-- ---------------------------------------------------------------------------

/-- The tracked keys are those that were requested since their source was released. -/
theorem keys_afterAll (settings : Settings) (world : World) (calls : List Call) :
    (afterAll calls (ofSettings settings, world)).1.keys.Nodup ∧
      ∀ key, key ∈ (afterAll calls (ofSettings settings, world)).1.keys ↔
        Wanted settings calls key := by
  induction calls using List.reverseRecOn with
  | nil => exact ⟨List.nodup_nil, fun key => by simp [afterAll, ofSettings, keys, Wanted]⟩
  | append_singleton calls call ih =>
    obtain ⟨hconsistent, hsettings⟩ := consistent_afterAll (s := (ofSettings settings, world))
      (consistent_ofSettings settings) calls
    have hkeys := keys_call hconsistent call (afterAll calls (ofSettings settings, world)).2
    rw [hsettings] at hkeys
    rw [afterAll_append]
    change ((call.run _).2.1.keys).Nodup ∧ ∀ key, key ∈ (call.run _).2.1.keys ↔ _
    rw [hkeys]
    refine ⟨Call.nodup_noted ih.1 settings call, fun key => ?_⟩
    rw [Call.mem_noted, wanted_concat, ih.2]
    rfl

-- ---------------------------------------------------------------------------
-- Descriptors
-- ---------------------------------------------------------------------------

/-- Where the tile of a key is kept: as a plain file under its name, and in an archive that is
named by the template of the source. -/
def KeptAt (cache : Path) (key : Key) (copy : LocalCopy) : Prop :=
  ∃ source ∈ Source.all, ∃ stem ending, key = (source.id, stem ++ source.extension) ∧
    source.template = "\x7bstem\x7d" ++ ending ∧ copy.plain = cache / key.1 / key.2 ∧
    copy.archive = .ok (cache / key.1 / (stem ++ ending))

theorem Fits.keptAt {d : Descriptor} (h : Fits m key d) : KeptAt m.settings.cache key d.copy := by
  obtain ⟨⟨source, hsource, index, rfl, hcopy⟩, -⟩ := h
  obtain ⟨ending, htemplate, hentry, -, harchive⟩ :=
    Source.archive_eq hsource m.settings.cache index
  refine ⟨source, hsource, Source.stem source.naming index, ending, rfl, htemplate, ?_, ?_⟩
  · rw [hcopy]
    rfl
  · rw [hcopy, harchive, Path.div_of_not_mem hentry.no_slash hentry.nonempty hentry.ne_dot]
    rfl

theorem sum_countState (counts : List (State × Nat)) (state : State) :
    ((countState counts state).map (·.2)).sum = (counts.map (·.2)).sum + 1 := by
  induction counts with
  | nil => rfl
  | cons count rest ih =>
    obtain ⟨s, n⟩ := count
    unfold countState
    split
    · simp
      omega
    · simp [ih]
      omega

theorem length_descriptors (h : Consistent m) : m.descriptors.length = m.trackedCount := by
  rw [descriptors, trackedCount, List.filterMap_length_eq_length]
  rintro ⟨key, id⟩ hentry
  obtain ⟨d, hd, -⟩ := h.fits key id hentry
  exact Option.isSome_iff_exists.mpr ⟨d, hd⟩

theorem sum_stateCounts (h : Consistent m) :
    (m.stateCounts.map (·.2)).sum = m.trackedCount := by
  have hfold : ∀ (ds : List Descriptor) (counts : List (State × Nat)),
      ((ds.foldl (fun counts d => countState counts d.state) counts).map (·.2)).sum =
        (counts.map (·.2)).sum + ds.length := by
    intro ds
    induction ds with
    | nil => simp
    | cons d rest ih =>
      intro counts
      rw [List.foldl_cons, ih, sum_countState, List.length_cons]
      omega
  rw [stateCounts, hfold, length_descriptors h]
  simp

-- ---------------------------------------------------------------------------
-- The set of tracked tiles
-- ---------------------------------------------------------------------------

/-- After any calls on a fresh manager, the tracked keys are those of the requests that were
accepted since their source was last released. One more request finds the descriptor of a
tracked key as it is and adds nothing, adds one descriptor and one fetcher for another key,
and adds nothing if it is not accepted. A tracked descriptor keeps its tile where the key
and the source say, and there are as many as there are keys and as all states count. -/
theorem tracks_requested (settings : Settings) (world : World) (calls : List Call) :
    let s := afterAll calls (ofSettings settings, world)
    (∀ key, key ∈ s.1.keys ↔ Wanted settings calls key) ∧
      (∀ (call : Call) name lon lat key id, call.place? settings = some (name, lon, lat) →
        keyAt name lon lat = some key → s.1.find? key = some id →
          (descriptorFor name lon lat).run s = (.ok id, s) ∧ Unadded s.1 (call.run s).2.1) ∧
      (∀ (call : Call) key, call.key? settings = some key → s.1.find? key = none →
        Added key s.1 (call.run s).2.1) ∧
      (∀ call : Call, call.key? settings = none → (∀ source, call ≠ .release source) →
        Unadded s.1 (call.run s).2.1) ∧
      (∀ key id, (key, id) ∈ s.1.tracked →
        ∃ d, s.1.pool[id]? = some d ∧ KeptAt settings.cache key d.copy) ∧
      s.1.keys.Nodup ∧ s.1.trackedCount = s.1.keys.length ∧
      (s.1.stateCounts.map (·.2)).sum = s.1.trackedCount := by
  intro s
  obtain ⟨hconsistent, hsettings⟩ : Consistent s.1 ∧ s.1.settings = settings :=
    consistent_afterAll (s := (ofSettings settings, world)) (consistent_ofSettings settings) calls
  obtain ⟨hnodup, hkeys⟩ := keys_afterAll settings world calls
  refine ⟨hkeys, ?_, ?_, ?_, ?_, hnodup, by simp [trackedCount, keys], sum_stateCounts hconsistent⟩
  · intro call name lon lat key id hplace hkey hid
    exact Call.reuses (hsettings ▸ hplace) hkey hid s.2
  · intro call key hkey hnone
    exact Call.adds (hsettings ▸ hkey) hnone s.2
  · intro call hkey hrequest
    exact Call.adds_nothing (hsettings ▸ hkey) hrequest s.2
  · intro key id hentry
    obtain ⟨d, hd, hfits⟩ := hconsistent.fits key id hentry
    exact ⟨d, hd, hsettings ▸ hfits.keptAt⟩

end TerrainTiles.Manager
