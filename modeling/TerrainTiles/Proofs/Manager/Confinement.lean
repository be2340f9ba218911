import TerrainTiles.Proofs.Manager.Sessions
import TerrainTiles.Proofs.Source.Keeping

/-!
# Calls stay with their source

Two managers mirror each other for a source if they cannot be told apart by it:
they track the same tiles of it, under descriptors that are the same, and treat new
ones alike (`Mirrors`). A call on the source then ends alike in both and leaves them
mirroring each other, and it is confined to the realm of the source
(`parallel_call`): in the manager it changes nothing but what belongs to the source
(`Aside`).
-/

namespace TerrainTiles

open Act

namespace Manager

variable {r : Realm} {settings : Settings} {source : Source} {start m m' left left' : Manager}
  {name : String} {ids : List Nat} {id id' : Nat} {key : Key} {d d' : Descriptor}
  {pairs : List (Nat × Nat)} {entries : List (Key × Nat × Nat)} {world world' : World}
  {call : Call} {α β : Type} {V : α → α → Prop} {W : β → β → Prop}

-- ---------------------------------------------------------------------------
-- What belongs to a source
-- ---------------------------------------------------------------------------

def trackedFor (m : Manager) (name : String) : List (Key × Nat) :=
  m.tracked.filter (·.1.1 = name)

/-- Nothing is changed but the keys and fetchers of one source, whether it is offline,
and the descriptors at some places. -/
structure Aside (name : String) (ids : List Nat) (start m : Manager) : Prop where
  settings : m.settings = start.settings
  offline : ∀ other, other ≠ name → m.isOffline other = start.isOffline other
  made : ∀ other, other ≠ name → m.made.count other = start.made.count other
  tracked : ∀ other, other ≠ name → m.trackedFor other = start.trackedFor other
  pool : ∀ id, id < start.pool.length → id ∉ ids → m.pool[id]? = start.pool[id]?

theorem Aside.refl (name : String) (ids : List Nat) (m : Manager) : Aside name ids m m :=
  ⟨rfl, fun _ _ => rfl, fun _ _ => rfl, fun _ _ => rfl, fun _ _ _ => rfl⟩

theorem Aside.set (h : Aside name ids start m) (hid : id ∈ ids) (d : Descriptor) :
    Aside name ids start { m with pool := m.pool.set id d } := by
  refine ⟨h.settings, h.offline, h.made, h.tracked, fun other hlt hother => ?_⟩
  have hne : id ≠ other := fun heq => hother (heq ▸ hid)
  rw [List.getElem?_set_ne hne, h.pool other hlt hother]

/-- The managers are the same for the source of a realm: what is at the paired places
are the same descriptors of the realm, and the entries are what they track of it. -/
structure Alike (r : Realm) (given : Settings) (start : Manager) (pairs : List (Nat × Nat))
    (entries : List (Key × Nat × Nat)) (m m' : Manager) : Prop where
  settings : m.settings = given
  settings' : m'.settings = given
  offline : m'.isOffline r.id = m.isOffline r.id
  made : m'.made.count r.id = m.made.count r.id
  tracked : m.trackedFor r.id = entries.map fun entry => (entry.1, entry.2.1)
  tracked' : m'.trackedFor r.id = entries.map fun entry => (entry.1, entry.2.2)
  firsts : (pairs.map Prod.fst).Nodup
  seconds : (pairs.map Prod.snd).Nodup
  same : ∀ id id', (id, id') ∈ pairs → ∃ d d', m.pool[id]? = some d ∧ m'.pool[id']? = some d' ∧
    Descriptor.Same r d d'
  aside : Aside r.id (pairs.map Prod.fst) start m

def Mirrors (r : Realm) (settings : Settings) (m m' : Manager) : Prop :=
  ∃ entries, Alike r settings m (entries.map Prod.snd) entries m m'

/-- Where a source keeps its tiles, and what its fetchers are on. -/
structure Houses (r : Realm) (settings : Settings) (source : Source) : Prop where
  listed : source ∈ Source.all
  id : r.id = source.id
  site : r.site.path [] = settings.cache
  fetchers : ∀ n fetcher, settings.makeFetcher source n = some fetcher → fetcher.Within r.lines

theorem Alike.iff_of_mem (h : Alike r settings start pairs entries m m') {i i' j j' : Nat}
    (hi : (i, i') ∈ pairs) (hj : (j, j') ∈ pairs) : i = j ↔ i' = j' := by
  constructor
  · rintro rfl
    exact congrArg Prod.snd (List.inj_on_of_nodup_map h.firsts hi hj rfl)
  · rintro rfl
    exact congrArg Prod.fst (List.inj_on_of_nodup_map h.seconds hi hj rfl)

structure Settled (r : Realm) (given : Settings) (start left left' : Manager) : Prop where
  mirrors : Mirrors r given left left'
  aside : Aside r.id ((start.trackedFor r.id).map (·.2)) start left

theorem Aside.mono {more : List Nat} (h : Aside name ids start m)
    (hids : ∀ id ∈ ids, id < start.pool.length → id ∈ more) : Aside name more start m :=
  ⟨h.settings, h.offline, h.made, h.tracked,
    fun id hlt hid => h.pool id hlt fun hmem => hid (hids id hmem hlt)⟩

theorem Alike.mirrors (h : Alike r settings start pairs entries m m')
    (hentries : (entries.map Prod.snd).Sublist pairs) : Mirrors r settings m m' := by
  refine ⟨entries, { h with firsts := ?_, seconds := ?_, same := ?_, aside := .refl _ _ m }⟩
  · exact h.firsts.sublist (hentries.map _)
  · exact h.seconds.sublist (hentries.map _)
  · exact fun id id' hp => h.same id id' (hentries.subset hp)

theorem Alike.settled (h : Alike r settings start pairs entries m m')
    (hentries : (entries.map Prod.snd).Sublist pairs)
    (howns : ∀ id id', (id, id') ∈ pairs → id < start.pool.length →
      id ∈ (start.trackedFor r.id).map (·.2)) : Settled r settings start m m' := by
  refine ⟨h.mirrors hentries, h.aside.mono fun id hid hlt => ?_⟩
  obtain ⟨⟨_, id'⟩, hp, rfl⟩ := List.mem_map.mp hid
  exact howns _ id' hp hlt

theorem Alike.owns (h : Alike r settings start pairs entries m m')
    (hp : (id, id') ∈ entries.map Prod.snd) :
    id ∈ (m.trackedFor r.id).map (·.2) ∧ id' ∈ (m'.trackedFor r.id).map (·.2) := by
  obtain ⟨⟨key, _⟩, hentry, rfl⟩ := List.mem_map.mp hp
  rw [h.tracked, h.tracked']
  exact ⟨List.mem_map.mpr ⟨(key, id), List.mem_map.mpr ⟨_, hentry, rfl⟩, rfl⟩,
    List.mem_map.mpr ⟨(key, id'), List.mem_map.mpr ⟨_, hentry, rfl⟩, rfl⟩⟩

theorem Alike.restart (h : Alike r settings start pairs entries m m') :
    Alike r settings m pairs entries m m' := { h with aside := .refl _ _ m }

-- ---------------------------------------------------------------------------
-- Acquiring
-- ---------------------------------------------------------------------------

theorem Alike.set (h : Alike r settings start pairs entries m m') (hp : (id, id') ∈ pairs)
    (hs : Descriptor.Same r d d') :
    Alike r settings start pairs entries { m with pool := m.pool.set id d }
      { m' with pool := m'.pool.set id' d' } := by
  refine { h with same := fun j j' hj => ?_, aside := h.aside.set ?_ d }
  · obtain ⟨e, e', he, he', hsame⟩ := h.same j j' hj
    by_cases heq : id = j
    · obtain rfl := (h.iff_of_mem hp hj).mp heq
      subst heq
      obtain ⟨hlt, -⟩ := List.getElem?_eq_some_iff.mp he
      obtain ⟨hlt', -⟩ := List.getElem?_eq_some_iff.mp he'
      exact ⟨d, d', by simp [hlt], by simp [hlt'], hs⟩
    · have hne : id' ≠ j' := fun heq' => heq ((h.iff_of_mem hp hj).mpr heq')
      exact ⟨e, e', by simp [heq, he], by simp [hne, he'], hsame⟩
  · exact List.mem_map.mpr ⟨_, hp, rfl⟩

theorem confined_onDescriptor {act act' : Act Descriptor α} (hp : (id, id') ∈ pairs)
    (h : Confined r (Descriptor.Same r) V act act') :
    Confined r (Alike r settings start pairs entries) V (onDescriptor id act)
      (onDescriptor id' act') := by
  rintro ⟨m, world⟩ ⟨m', world'⟩ hq ht
  obtain ⟨d, d', hd, hd', hsame⟩ := hq.same id id' hp
  obtain ⟨hends, hown, htwin, hbeside⟩ := h (d, world) (d', world') hsame ht
  rw [run_onDescriptor hd, run_onDescriptor hd']
  exact ⟨hends, hq.set hp hown, htwin, hbeside⟩

theorem Aside.markOffline (h : Aside name ids start m)
    (hids : ∀ entry ∈ m.trackedFor name, entry.2 ∈ ids) :
    Aside name ids start { m with
      offline := m.offline ++ [name]
      pool := disableAt m.pool ((m.trackedFor name).map (·.2)) } := by
  refine ⟨h.settings, fun other hne => ?_, h.made, h.tracked, fun id hlt hid => ?_⟩
  · rw [← h.offline other hne]
    simp [isOffline, hne]
  · have hspared : id ∉ (m.trackedFor name).map (·.2) := by
      intro hmem
      obtain ⟨entry, hentry, rfl⟩ := List.mem_map.mp hmem
      exact hid (hids entry hentry)
    rw [← h.pool id hlt hid]
    simp only [disableAt, List.getElem?_mapIdx, if_neg hspared, Option.map_id']

theorem Alike.markOffline (h : Alike r settings start (entries.map Prod.snd) entries m m') :
    Alike r settings start (entries.map Prod.snd) entries
      { m with
        offline := m.offline ++ [r.id]
        pool := disableAt m.pool ((m.trackedFor r.id).map (·.2)) }
      { m' with
        offline := m'.offline ++ [r.id]
        pool := disableAt m'.pool ((m'.trackedFor r.id).map (·.2)) } := by
  refine { h with offline := by simp [isOffline], same := fun id id' hp => ?_, aside := ?_ }
  · obtain ⟨d, d', hd, hd', hsame⟩ := h.same id id' hp
    -- A pair is tracked in both managers, so it is disabled in both.
    obtain ⟨hid, hid'⟩ := h.owns hp
    refine ⟨d.disableRemote, d'.disableRemote, ?_, ?_, ?_⟩
    · simp only [disableAt, List.getElem?_mapIdx, hd, Option.map_some, if_pos hid]
    · simp only [disableAt, List.getElem?_mapIdx, hd', Option.map_some, if_pos hid']
    · obtain ⟨hrel, hkept⟩ := hsame
      exact ⟨hrel, hkept⟩
  · refine h.aside.markOffline fun entry hentry => ?_
    rw [h.tracked] at hentry
    obtain ⟨⟨key, id, id'⟩, hmem, rfl⟩ := List.mem_map.mp hentry
    exact List.mem_map.mpr ⟨(id, id'), List.mem_map.mpr ⟨_, hmem, rfl⟩, rfl⟩

theorem confined_markOffline :
    Confined r (Alike r settings start (entries.map Prod.snd) entries) Eq
      (Manager.markOffline r.id) (Manager.markOffline r.id) := by
  refine .modifyOwn fun m m' h => ?_
  rw [h.offline]
  split
  · exact h
  · exact h.markOffline

theorem confined_acquire (hp : (key, id, id') ∈ entries) :
    Confined r (Alike r settings start (entries.map Prod.snd) entries) Eq (acquire r.id id)
      (acquire r.id id') := by
  have hp : (id, id') ∈ entries.map Prod.snd := List.mem_map.mpr ⟨_, hp, rfl⟩
  refine (confined_onDescriptor hp Descriptor.confined_getTile).attempt.bind ?_
  rintro _ _ (@⟨loan, _, rfl⟩ | ⟨fault⟩)
  · exact .pure rfl
  · dsimp only
    split
    · exact confined_markOffline.bind fun _ _ _ => .fail fault
    · exact .fail fault

-- ---------------------------------------------------------------------------
-- Finding
-- ---------------------------------------------------------------------------

theorem lookup_trackedFor (m : Manager) (hkey : key.1 = name) :
    (m.trackedFor name).lookup key = m.find? key := by
  unfold trackedFor find?
  induction m.tracked with
  | nil => rfl
  | cons entry rest ih =>
    obtain ⟨first, id⟩ := entry
    by_cases heq : key = first
    · simp [← heq, hkey]
    · have hne : (key == first) = false := beq_false_of_ne heq
      by_cases hsource : first.1 = name
      · simpa [List.filter_cons, hsource, List.lookup_cons, hne] using ih
      · simpa [List.filter_cons, hsource, List.lookup_cons, hne] using ih

theorem lookup_map_snd (f : α → β) (entries : List (Key × α)) (key : Key) :
    (entries.map fun entry => (entry.1, f entry.2)).lookup key = (entries.lookup key).map f := by
  induction entries with
  | nil => rfl
  | cons entry rest ih =>
    rw [List.map_cons, List.lookup_cons, List.lookup_cons]
    cases key == entry.1 with
    | true => rfl
    | false => exact ih

theorem Alike.find?_eq (h : Alike r settings start pairs entries m m') (key : Key)
    (hkey : key.1 = r.id) :
    m.find? key = (entries.lookup key).map Prod.fst ∧
      m'.find? key = (entries.lookup key).map Prod.snd := by
  rw [← lookup_trackedFor m hkey, ← lookup_trackedFor m' hkey, h.tracked, h.tracked',
    lookup_map_snd, lookup_map_snd]
  exact ⟨rfl, rfl⟩

theorem Alike.newDescriptor_eq (h : Alike r settings start pairs entries m m')
    (hh : Houses r settings source) (tile : String) :
    m'.newDescriptor source tile = m.newDescriptor source tile := by
  have ho := hh.id ▸ h.offline
  have hmade := hh.id ▸ h.made
  unfold newDescriptor
  rw [h.settings, h.settings', ho, hmade]

theorem same_newDescriptor (hs : m.settings = settings) (hh : Houses r settings source)
    (index : TileIndex) :
    Descriptor.Same r (m.newDescriptor source (source.fileName index))
      (m.newDescriptor source (source.fileName index)) := by
  have hkept := (Source.keptIn hh.listed (hh.site.trans (congrArg _ hs.symm)) hh.id index)
  have hfetchers : ∀ n, Option.Rel (Fetcher.Same r) (m.settings.makeFetcher source n)
      (m.settings.makeFetcher source n) := by
    intro n
    rw [hs]
    cases hf : settings.makeFetcher source n with
    | none => exact .none
    | some fetcher => exact .some (hh.fetchers n fetcher hf).same
  unfold newDescriptor
  split
  · exact ⟨hfetchers _, hkept⟩
  · exact ⟨hfetchers _, hkept⟩

theorem Alike.lt (h : Alike r settings start pairs entries m m') (hp : (id, id') ∈ pairs) :
    id < m.pool.length ∧ id' < m'.pool.length := by
  obtain ⟨d, d', hd, hd', -⟩ := h.same id id' hp
  exact ⟨(List.getElem?_eq_some_iff.mp hd).1, (List.getElem?_eq_some_iff.mp hd').1⟩

theorem Aside.track (m : Manager) (source : Source) (tile : String) (d : Descriptor)
    (ids : List Nat) :
    Aside source.id ids m { m with
      pool := m.pool ++ [d]
      tracked := m.tracked ++ [((source.id, tile), m.pool.length)]
      made := m.made ++ [source.id] } := by
  refine ⟨rfl, fun _ _ => rfl, fun other hne => ?_, fun other hne => ?_, fun id hlt _ => ?_⟩
  · simp [hne.symm]
  · simp [trackedFor, hne.symm]
  · exact List.getElem?_append_left hlt

theorem Alike.track (h : Alike r settings m (entries.map Prod.snd) entries m m')
    (hh : Houses r settings source) (index : TileIndex) (world world' : World) :
    let entry := ((source.id, source.fileName index), m.pool.length, m'.pool.length)
    Alike r settings m ((entries ++ [entry]).map Prod.snd) (entries ++ [entry])
      ((track source (source.fileName index)).run (m, world)).2.1
      ((track source (source.fileName index)).run (m', world')).2.1 := by
  intro entry
  have hnew := same_newDescriptor h.settings hh index
  rw [run_track, run_track, h.newDescriptor_eq hh]
  have hpairs : (entries ++ [entry]).map Prod.snd =
      entries.map Prod.snd ++ [(m.pool.length, m'.pool.length)] := List.map_append
  refine ⟨h.settings, h.settings', h.offline, ?_, ?_, ?_, ?_, ?_, fun id id' hp => ?_, ?_⟩
  · simp [h.made]
  · simpa [trackedFor, hh.id, entry] using h.tracked
  · simpa [trackedFor, hh.id, entry] using h.tracked'
  · rw [hpairs, List.map_append]
    refine List.nodup_append.mpr ⟨h.firsts, by simp, fun id hid other hother => ?_⟩
    obtain ⟨⟨_, id'⟩, hp, rfl⟩ := List.mem_map.mp hid
    obtain rfl : other = m.pool.length := by simpa using hother
    exact Nat.ne_of_lt (h.lt hp).1
  · rw [hpairs, List.map_append]
    refine List.nodup_append.mpr ⟨h.seconds, by simp, fun id hid other hother => ?_⟩
    obtain ⟨⟨id', _⟩, hp, rfl⟩ := List.mem_map.mp hid
    obtain rfl : other = m'.pool.length := by simpa using hother
    exact Nat.ne_of_lt (h.lt hp).2
  · rw [hpairs] at hp
    rcases List.mem_append.mp hp with hold | hlast
    · obtain ⟨d, d', hd, hd', hsame⟩ := h.same id id' hold
      obtain ⟨hlt, hlt'⟩ := h.lt hold
      exact ⟨d, d', by rw [List.getElem?_append_left hlt, hd],
        by rw [List.getElem?_append_left hlt', hd'], hsame⟩
    · obtain ⟨rfl, rfl⟩ : id = m.pool.length ∧ id' = m'.pool.length := by simpa using hlast
      exact ⟨_, _, by simp, by simp, hnew⟩
  · exact hh.id ▸ Aside.track m source _ _ _

/-- What begins with finding a tile of the source; what comes after it knows the place
of the descriptor in either manager. -/
theorem parallel_found {next next' : Nat → Act Manager β} (hh : Houses r settings source)
    (hm : Mirrors r settings m m') (ht : r.Twin world world') (lon lat : Double)
    (hnext : ∀ entries key id id', (key, id, id') ∈ entries →
      Confined r (Alike r settings m (entries.map Prod.snd) entries) W (next id) (next' id')) :
    Parallel r (Settled r settings m) W world
      ((descriptorFor source.id lon lat >>= next).run (m, world))
      ((descriptorFor source.id lon lat >>= next').run (m', world')) := by
  obtain ⟨entries, hm⟩ := hm
  have hrun := run_descriptorFor_of_mem hh.listed lon lat m world
  have hrun' := run_descriptorFor_of_mem hh.listed lon lat m' world'
  cases htile : source.tileName lon lat with
  | error fault =>
    rw [htile] at hrun hrun'
    rw [run_bind_of_error hrun, run_bind_of_error hrun']
    exact ⟨.error fault, hm.settled (.refl _) fun _ _ hp _ => (hm.owns hp).1, ht, .refl world⟩
  | ok tile =>
    obtain ⟨index, -, rfl⟩ := tileName_ok htile
    obtain ⟨hfind, hfind'⟩ := hm.find?_eq (source.id, source.fileName index) hh.id.symm
    rw [htile] at hrun hrun'
    dsimp only at hrun hrun'
    rw [hfind] at hrun
    rw [hfind'] at hrun'
    cases hlookup : entries.lookup (source.id, source.fileName index) with
    | some found =>
      obtain ⟨_, _, rfl, -⟩ := List.lookup_eq_some_iff.mp hlookup
      rw [hlookup] at hrun hrun'
      rw [run_bind_of_ok hrun, run_bind_of_ok hrun']
      obtain ⟨hends, hown, htwin, hbeside⟩ :=
        hnext _ (source.id, source.fileName index) found.1 found.2 (by simp) (m, world) (m', world')
          hm ht
      exact ⟨hends, hown.settled (.refl _) fun _ _ hp _ => (hm.owns hp).1, htwin, hbeside⟩
    | none =>
      rw [hlookup] at hrun hrun'
      have hmade := hm.track hh index world world'
      rw [run_track] at hrun hrun' hmade
      rw [run_track] at hmade
      rw [run_bind_of_ok hrun, run_bind_of_ok hrun']
      obtain ⟨hends, hown, htwin, hbeside⟩ :=
        hnext _ _ _ _ (List.mem_append_right entries List.mem_cons_self) (_, _) (_, _) hmade
          (ht.record _ _)
      refine ⟨hends, hown.settled (.refl _) fun id id' hp hlt => ?_, htwin,
        (Realm.Beside.record world _).trans hbeside⟩
      rw [List.map_append] at hp
      rcases List.mem_append.mp hp with hold | hlast
      · exact (hm.owns hold).1
      · obtain ⟨rfl, -⟩ : id = m.pool.length ∧ id' = m'.pool.length := by simpa using hlast
        exact absurd hlt (Nat.lt_irrefl _)

-- ---------------------------------------------------------------------------
-- Requests
-- ---------------------------------------------------------------------------

theorem parallel_request {next next' : String → Nat → Act Manager β}
    (hh : Houses r settings source) (hm : Mirrors r settings m m') (ht : r.Twin world world')
    {choice : Option String} (hchoice : m.effective choice = source.id) (lon lat : Double)
    (hnext : ∀ entries key id id', (key, id, id') ∈ entries →
      Confined r (Alike r settings m (entries.map Prod.snd) entries) W (next r.id id)
        (next' r.id id')) :
    Parallel r (Settled r settings m) W world
      ((chooseSource choice >>= fun name => descriptorFor name lon lat >>= next name).run
        (m, world))
      ((chooseSource choice >>= fun name => descriptorFor name lon lat >>= next' name).run
        (m', world')) := by
  have hchoice' : m'.effective choice = source.id := by
    obtain ⟨_, h⟩ := hm
    rw [← hchoice, effective, effective, h.settings, h.settings']
  rw [run_bind_of_ok (run_chooseSource m choice world),
    run_bind_of_ok (run_chooseSource m' choice world'), hchoice, hchoice']
  exact parallel_found hh hm ht lon lat (hh.id ▸ hnext)

theorem report_eq (h : Descriptor.Same r d d') (name : String) (tile : Option Tile) :
    report name d' tile = report name d tile := by
  have henabled := h.remoteEnabled_eq
  obtain ⟨-, -⟩ := h
  unfold report
  rw [henabled]
  rfl

theorem confined_report (hp : (key, id, id') ∈ entries) (name : String)
    {tile : Descriptor → Option Tile} (htile : ∀ d d', Descriptor.Same r d d' → tile d' = tile d) :
    Confined r (Alike r settings start (entries.map Prod.snd) entries) Eq
      (descriptor id >>= fun d => Act.ofExcept (report name d (tile d)))
      (descriptor id' >>= fun d => Act.ofExcept (report name d (tile d))) := by
  refine (confined_onDescriptor (List.mem_map.mpr ⟨_, hp, rfl⟩) .own).bind fun d d' h => ?_
  rw [htile d d' h, report_eq h]
  exact .ofExcept (.refl (fun _ => rfl) _)

theorem parallel_getTile (hh : Houses r settings source) (hm : Mirrors r settings m m')
    (ht : r.Twin world world') {choice : Option String}
    (hchoice : m.effective choice = source.id) (lon lat : Double) :
    Parallel r (Settled r settings m) Eq world ((getTile lon lat choice).run (m, world))
      ((getTile lon lat choice).run (m', world')) := by
  refine parallel_request hh hm ht hchoice lon lat fun entries key id id' hp => ?_
  refine (confined_acquire hp).bind ?_
  rintro loan _ rfl
  exact confined_report hp r.id fun _ _ _ => rfl

theorem parallel_tileStatus (hh : Houses r settings source) (hm : Mirrors r settings m m')
    (ht : r.Twin world world') {choice : Option String}
    (hchoice : m.effective choice = source.id) (lon lat : Double) :
    Parallel r (Settled r settings m) Eq world ((tileStatus lon lat choice).run (m, world))
      ((tileStatus lon lat choice).run (m', world')) := by
  refine parallel_request hh hm ht hchoice lon lat fun entries key id id' hp => ?_
  refine confined_report hp r.id ?_
  rintro d _ ⟨-, -⟩
  rfl

theorem parallel_getElevation (hh : Houses r settings source) (hm : Mirrors r settings m m')
    (ht : r.Twin world world') {choice : Option String}
    (hchoice : m.effective choice = source.id) (lon lat : Double) (method : String) :
    Parallel r (Settled r settings m) Eq world
      ((getElevation lon lat choice method).run (m, world))
      ((getElevation lon lat choice method).run (m', world')) := by
  unfold getElevation
  split
  · obtain ⟨entries, hm⟩ := hm
    exact ⟨.error _, hm.settled (.refl _) fun _ _ hp _ => (hm.owns hp).1, ht, .refl world⟩
  · refine parallel_request hh hm ht hchoice lon lat fun entries key id id' hp => ?_
    refine (confined_acquire hp).bind ?_
    rintro loan _ rfl
    refine (confined_onDescriptor (List.mem_map.mpr ⟨_, hp, rfl⟩) .own).bind ?_
    rintro d _ ⟨-, -⟩
    cases loan.bind fun loan => loan.tile.grid.map (·, loan.tile.transform) with
    | none => exact .pure rfl
    | some found =>
      refine (Confined.ofExcept (.refl (fun _ => rfl) _)).bind ?_
      rintro elevation _ rfl
      exact .pure rfl

-- ---------------------------------------------------------------------------
-- Releasing
-- ---------------------------------------------------------------------------

theorem filter_covers_some (m : Manager) (name : String) :
    m.tracked.filter (Covers (some name)) = m.trackedFor name :=
  List.filter_congr fun _ _ => by simp [Covers, eq_comm]

theorem trackedFor_filter_covers (m : Manager) (name other : String) :
    ({ m with tracked := m.tracked.filter fun entry => !Covers (some name) entry } :
      Manager).trackedFor other = if other = name then [] else m.trackedFor other := by
  unfold trackedFor
  rw [List.filter_filter]
  split
  · next heq =>
    refine List.filter_eq_nil_iff.mpr fun entry _ => ?_
    simp [Covers, heq, eq_comm]
  · next hne =>
    refine List.filter_congr fun entry _ => ?_
    by_cases heq : entry.1.1 = other
    · simp [Covers, heq, Ne.symm hne]
    · simp [heq]

theorem confined_disposeAll {l : List (Nat × Nat)} (h : ∀ p ∈ l, p ∈ pairs) :
    Confined r (Alike r settings start pairs entries) Eq (disposeAll (l.map Prod.fst))
      (disposeAll (l.map Prod.snd)) := by
  induction l with
  | nil => exact .pure rfl
  | cons p rest ih =>
    obtain ⟨hp, hrest⟩ := List.forall_mem_cons.mp h
    exact (confined_onDescriptor hp Descriptor.confined_dispose).bind fun _ _ _ => ih hrest

theorem Alike.untrack (h : Alike r settings m (entries.map Prod.snd) entries m m') :
    Alike r settings m (entries.map Prod.snd) []
      { m with tracked := m.tracked.filter fun entry => !Covers (some r.id) entry }
      { m' with tracked := m'.tracked.filter fun entry => !Covers (some r.id) entry } := by
  refine { h with tracked := ?_, tracked' := ?_, aside := { h.aside with tracked := ?_ } }
  · rw [trackedFor_filter_covers, if_pos rfl]
    rfl
  · rw [trackedFor_filter_covers, if_pos rfl]
    rfl
  · intro other hne
    rw [trackedFor_filter_covers, if_neg hne]

theorem parallel_release (hm : Mirrors r settings m m') (ht : r.Twin world world') :
    Parallel r (Settled r settings m) Eq world ((release (some r.id)).run (m, world))
      ((release (some r.id)).run (m', world')) := by
  obtain ⟨entries, hm⟩ := hm
  unfold release
  rw [run_bind_of_ok (run_untrack_eq m _ world), run_bind_of_ok (run_untrack_eq m' _ world'),
    filter_covers_some, filter_covers_some, hm.tracked, hm.tracked']
  have hdispose : Confined r (Alike r settings m (entries.map Prod.snd) []) Eq
      (disposeAll ((entries.map Prod.snd).map Prod.fst) >>= fun _ => pure entries.length)
      (disposeAll ((entries.map Prod.snd).map Prod.snd) >>= fun _ => pure entries.length) :=
    (confined_disposeAll fun _ hp => hp).bind fun _ _ _ => .pure rfl
  obtain ⟨hends, hown, htwin, hbeside⟩ := hdispose (_, world) (_, world') hm.untrack ht
  simp only [List.map_map, List.length_map, Function.comp_def] at hends hown htwin hbeside ⊢
  exact ⟨hends, hown.settled (List.nil_sublist _) fun _ _ hp _ => (hm.owns hp).1, htwin, hbeside⟩

-- ---------------------------------------------------------------------------
-- Calls
-- ---------------------------------------------------------------------------

inductive Answer where
  | tile (report : TileReport)
  | point (report : PointReport)
  | found
  | released (count : Nat)

namespace Call

def answer : Call → Manager × World → Except Fault Answer
  | getTile lon lat source, s => ((Manager.getTile lon lat source).run s).1.map .tile
  | getElevation lon lat source method, s =>
    ((Manager.getElevation lon lat source method).run s).1.map .point
  | tileStatus lon lat source, s => ((Manager.tileStatus lon lat source).run s).1.map .tile
  | descriptor source lon lat, s => ((descriptorFor source lon lat).run s).1.map fun _ => .found
  | release source, s => ((Manager.release source).run s).1.map .released

/-- The source that a call is on, named or by default; none for a release of everything. -/
def subject (settings : Settings) : Call → Option String
  | getTile _ _ source | getElevation _ _ source _ | tileStatus _ _ source =>
    some ((ofSettings settings).effective source)
  | descriptor source _ _ => some source
  | release source => source

def concerns (settings : Settings) (name : String) (call : Call) : Bool :=
  (call.subject settings).all (· = name)

end Call

theorem effective_ofSettings (hs : m.settings = settings) (choice : Option String) :
    (ofSettings settings).effective choice = m.effective choice := by
  subst hs
  rfl

theorem parallel_call (hh : Houses r settings source) (hs : m.settings = settings)
    (hm : Mirrors r settings m m') (ht : r.Twin world world')
    (hcall : call.subject settings = some source.id) :
    Parallel r (Settled r settings m) Eq world
      (call.answer (m, world), (call.run (m, world)).2)
      (call.answer (m', world'), (call.run (m', world')).2) := by
  cases call with
  | getTile lon lat choice =>
    have hchoice := (effective_ofSettings hs choice).symm.trans (Option.some.inj hcall)
    exact (parallel_getTile hh hm ht hchoice lon lat).map fun _ _ heq => congrArg _ heq
  | getElevation lon lat choice method =>
    have hchoice := (effective_ofSettings hs choice).symm.trans (Option.some.inj hcall)
    exact (parallel_getElevation hh hm ht hchoice lon lat method).map fun _ _ heq => congrArg _ heq
  | tileStatus lon lat choice =>
    have hchoice := (effective_ofSettings hs choice).symm.trans (Option.some.inj hcall)
    exact (parallel_tileStatus hh hm ht hchoice lon lat).map fun _ _ heq => congrArg _ heq
  | descriptor name lon lat =>
    obtain rfl : name = source.id := Option.some.inj hcall
    have hfound : Parallel r (Settled r settings m) (fun _ _ => True) world
        ((descriptorFor source.id lon lat >>= pure).run (m, world))
        ((descriptorFor source.id lon lat >>= pure).run (m', world')) :=
      parallel_found hh hm ht lon lat fun _ _ _ _ _ => .pure trivial
    rw [bind_pure] at hfound
    exact hfound.map fun _ _ _ => rfl
  | release choice =>
    obtain rfl : choice = some source.id := hcall
    exact (hh.id ▸ parallel_release hm ht).map fun _ _ heq => congrArg _ heq

end Manager

end TerrainTiles
