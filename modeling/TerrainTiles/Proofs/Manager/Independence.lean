import TerrainTiles.Proofs.Files.Ascent
import TerrainTiles.Proofs.Manager.Confinement

/-!
# Sources do not interfere

The calls on one source end the same whether calls on other sources are made in
between or not, and leave the same files in the source's directory
(`independent`). Two runs are followed side by side, one with all the calls and one
with those that concern the source (`Aligned`): a call on the source is made in
both, one on another source in the first only, where it is confined to a realm
apart, and a release of everything in both.

There are two ways for a source to be noticed by another (`noticed`). A cache path that
goes up again from a directory that is missing leads nowhere until a fetch makes that
directory on its way, and a decoder that counts what it is asked tells how often the
others have asked.
-/

namespace TerrainTiles

open Act

def Source.realm (site : Site) (owner : Channel → String) (source : Source)
    (h : source ∈ Source.all) : Realm where
  site := site
  id := source.id
  entry := Source.isEntry_id h
  lines channel := owner channel = source.id

theorem Source.apart_realm {site : Site} {owner : Channel → String} {source other : Source}
    (h : source ∈ Source.all) (h' : other ∈ Source.all) (hne : other.id ≠ source.id) :
    (source.realm site owner h).Apart (other.realm site owner h') :=
  ⟨rfl, hne, fun _ hc ho => hne (ho.symm.trans hc)⟩

namespace Manager

variable {r : Realm} {settings : Settings} {source : Source} {m m' left left' : Manager}
  {name : String} {id id' : Nat} {d d' : Descriptor} {pairs : List (Nat × Nat)}
  {entries : List (Key × Nat × Nat)} {world world' : World} {call : Call} {s s' : Manager × World}

-- ---------------------------------------------------------------------------
-- Calls on other sources
-- ---------------------------------------------------------------------------

theorem not_mem_trackedFor (h : (m.tracked.map (·.2)).Nodup) (hne : r.id ≠ name)
    (hid : id ∈ (m.trackedFor r.id).map (·.2)) : id ∉ (m.trackedFor name).map (·.2) := by
  intro hmem
  obtain ⟨⟨key, place⟩, hentry, rfl⟩ := List.mem_map.mp hid
  obtain ⟨⟨other, _⟩, hother, heq⟩ := List.mem_map.mp hmem
  obtain rfl : _ = place := heq
  obtain ⟨hentry, hkey⟩ := List.mem_filter.mp hentry
  obtain ⟨hother, hname⟩ := List.mem_filter.mp hother
  obtain rfl := eq_of_id h hentry hother
  exact hne ((of_decide_eq_true hkey).symm.trans (of_decide_eq_true hname))

/-- What is done for another source is not noticed in either manager. -/
theorem Mirrors.of_aside (hm : Mirrors r settings m m') (hne : r.id ≠ name)
    (h : Aside name ((m.trackedFor name).map (·.2)) m left)
    (h' : Aside name ((m'.trackedFor name).map (·.2)) m' left')
    (hids : (m.tracked.map (·.2)).Nodup) (hids' : (m'.tracked.map (·.2)).Nodup) :
    Mirrors r settings left left' := by
  obtain ⟨entries, hm⟩ := hm
  refine ⟨entries, ?_, ?_, ?_, ?_, ?_, ?_, hm.firsts, hm.seconds, fun id id' hp => ?_,
    .refl _ _ left⟩
  · rw [h.settings, hm.settings]
  · rw [h'.settings, hm.settings']
  · rw [h.offline _ hne, h'.offline _ hne, hm.offline]
  · rw [h.made _ hne, h'.made _ hne, hm.made]
  · rw [h.tracked _ hne, hm.tracked]
  · rw [h'.tracked _ hne, hm.tracked']
  · obtain ⟨d, d', hd, hd', hsame⟩ := hm.same id id' hp
    obtain ⟨hlt, hlt'⟩ := hm.lt hp
    refine ⟨d, d', ?_, ?_, hsame⟩
    · rw [h.pool id hlt (not_mem_trackedFor hids hne (hm.owns hp).1), hd]
    · rw [h'.pool id' hlt' (not_mem_trackedFor hids' hne (hm.owns hp).2), hd']

-- Nothing is known of a source that does not exist, and nothing is tracked for it.

theorem run_descriptorFor_of_unknown (hname : ∀ source ∈ Source.all, source.id ≠ name)
    (lon lat : Double) (m : Manager) (world : World) : ∃ fault,
      (descriptorFor name lon lat).run (m, world) = (.error fault, m, world) := by
  rcases run_descriptorFor m name lon lat world with ⟨fault, hrun, -⟩ | ⟨source, hsource, hid, -⟩
  · exact ⟨fault, hrun⟩
  · exact absurd hid (hname source hsource)

theorem run_request_of_unknown {β : Type} (hname : ∀ source ∈ Source.all, source.id ≠ name)
    {choice : Option String} (hchoice : m.effective choice = name) (lon lat : Double)
    (next : String → Nat → Act Manager β) (world : World) :
    ((chooseSource choice >>= fun name => descriptorFor name lon lat >>= next name).run
      (m, world)).2 = (m, world) := by
  obtain ⟨fault, hrun⟩ := run_descriptorFor_of_unknown hname lon lat m world
  rw [run_bind_of_ok (run_chooseSource m choice world), hchoice, run_bind_of_error hrun]

theorem run_release_of_unknown (h : Consistent m)
    (hname : ∀ source ∈ Source.all, source.id ≠ name) (world : World) :
    ((release (some name)).run (m, world)).2 = (m, world) := by
  have hnone : ∀ entry ∈ m.tracked, Covers (some name) entry = false := by
    intro entry hentry
    obtain ⟨_, -, ⟨source, hsource, _, hkey, -⟩, -⟩ := h.fits entry.1 entry.2 hentry
    have hne : name ≠ entry.1.1 := fun heq => hname source hsource (by rw [heq, hkey])
    simpa [Covers] using hne
  rw [run_release, List.filter_eq_nil_iff.mpr (by simpa using hnone),
    List.filter_eq_self.mpr (by simpa using hnone)]
  rfl

theorem run_of_unknown (h : Consistent m) (hs : m.settings = settings)
    (hname : ∀ source ∈ Source.all, source.id ≠ name) (hcall : call.subject settings = some name) :
    (call.run (m, world)).2 = (m, world) := by
  cases call with
  | getTile lon lat choice =>
    have hchoice := (effective_ofSettings hs choice).symm.trans (Option.some.inj hcall)
    change ((getTile lon lat choice).run (m, world)).2 = _
    exact run_request_of_unknown hname hchoice lon lat _ world
  | getElevation lon lat choice method =>
    have hchoice := (effective_ofSettings hs choice).symm.trans (Option.some.inj hcall)
    change ((getElevation lon lat choice method).run (m, world)).2 = _
    unfold getElevation
    split
    · rfl
    · exact run_request_of_unknown hname hchoice lon lat _ world
  | tileStatus lon lat choice =>
    have hchoice := (effective_ofSettings hs choice).symm.trans (Option.some.inj hcall)
    change ((tileStatus lon lat choice).run (m, world)).2 = _
    exact run_request_of_unknown hname hchoice lon lat _ world
  | descriptor other lon lat =>
    obtain rfl : other = name := Option.some.inj hcall
    obtain ⟨fault, hrun⟩ := run_descriptorFor_of_unknown hname lon lat m world
    change ((descriptorFor other lon lat).run (m, world)).2 = _
    rw [hrun]
  | release choice =>
    obtain rfl : choice = some name := hcall
    exact run_release_of_unknown h hname world

-- ---------------------------------------------------------------------------
-- Releasing everything
-- ---------------------------------------------------------------------------

theorem mirrors_of_untracked (hs : m.settings = settings) (h : m.trackedFor r.id = []) :
    Mirrors r settings m m :=
  ⟨[], hs, hs, rfl, rfl, h, h, List.nodup_nil, List.nodup_nil, by simp, .refl _ _ m⟩

theorem Mirrors.same {key : Key} (hm : Mirrors r settings m m) (h : (key, id) ∈ m.trackedFor r.id) :
    ∃ d, m.pool[id]? = some d ∧ Descriptor.Same r d d := by
  obtain ⟨entries, hm⟩ := hm
  have hboth := List.map_inj_left.mp (hm.tracked.symm.trans hm.tracked')
  rw [hm.tracked] at h
  obtain ⟨⟨key', i, i'⟩, hentry, heq⟩ := List.mem_map.mp h
  obtain ⟨rfl, rfl⟩ : key' = key ∧ i = id := by simpa using heq
  obtain rfl : i = i' := (Prod.mk.inj (hboth _ hentry)).2
  obtain ⟨d, d', hd, hd', hsame⟩ := hm.same i i (List.mem_map.mpr ⟨_, hentry, rfl⟩)
  obtain rfl : d = d' := Option.some.inj (hd.symm.trans hd')
  exact ⟨d, hd, hsame⟩

variable {site : Site} {owner : Channel → String} {hs : source ∈ Source.all}

def Owned (site : Site) (owner : Channel → String) (m : Manager) (entry : Key × Nat) : Prop :=
  ∃ (source : Source) (h : source ∈ Source.all), entry.1.1 = source.id ∧
    ∃ d, m.pool[entry.2]? = some d ∧ Descriptor.Same (source.realm site owner h) d d

theorem Owned.set {entry : Key × Nat} (h : Owned site owner m entry) (hne : id ≠ entry.2)
    (d : Descriptor) : Owned site owner { m with pool := m.pool.set id d } entry := by
  obtain ⟨source, hs, hkey, e, he, hsame⟩ := h
  exact ⟨source, hs, hkey, e, by rw [List.getElem?_set_ne hne, he], hsame⟩

theorem Alike.setOther {start : Manager} (h : Alike r settings start pairs entries m m')
    (hid : id ∉ pairs.map Prod.fst) (d : Descriptor) :
    Alike r settings { m with pool := m.pool.set id d } pairs entries
      { m with pool := m.pool.set id d } m' := by
  refine { h with same := fun j j' hj => ?_, aside := .refl _ _ _ }
  obtain ⟨e, e', he, he', hsame⟩ := h.same j j' hj
  have hne : id ≠ j := fun heq => hid (heq ▸ List.mem_map.mpr ⟨_, hj, rfl⟩)
  exact ⟨e, e', by rw [List.getElem?_set_ne hne, he], he', hsame⟩

/-- Disposing of the descriptors of all sources in one manager, and of those of one
source in the other. -/
theorem alike_disposeAll {l : List (Key × Nat)} {rest : List (Nat × Nat)}
    (h : Alike (source.realm site owner hs) settings m pairs [] m m')
    (ht : (source.realm site owner hs).Twin world world') (hids : (l.map (·.2)).Nodup)
    (howned : ∀ entry ∈ l, Owned site owner m entry)
    (hothers : ∀ entry ∈ l, entry.1.1 ≠ source.id → entry.2 ∉ pairs.map Prod.fst)
    (hrest : (l.filter (·.1.1 = source.id)).map (·.2) = rest.map Prod.fst)
    (hsub : ∀ p ∈ rest, p ∈ pairs) :
    let ended := ((disposeAll (l.map (·.2))).run (m, world)).2
    let ended' := ((disposeAll (rest.map Prod.snd)).run (m', world')).2
    Alike (source.realm site owner hs) settings ended.1 pairs [] ended.1 ended'.1 ∧
      (source.realm site owner hs).Twin ended.2 ended'.2 := by
  induction l generalizing rest m m' world world' with
  | nil =>
    obtain rfl : rest = [] := by simpa using hrest.symm
    exact ⟨h, ht⟩
  | cons entry l ih =>
    obtain ⟨hfirst, hids⟩ := List.nodup_cons.mp hids
    obtain ⟨hentry, howned⟩ := List.forall_mem_cons.mp howned
    obtain ⟨hother, hothers⟩ := List.forall_mem_cons.mp hothers
    have hstill : ∀ d, ∀ later ∈ l,
        Owned site owner { m with pool := m.pool.set entry.2 d } later := by
      intro d later hlater
      exact (howned later hlater).set
        (fun heq => hfirst (List.mem_map.mpr ⟨later, hlater, heq.symm⟩)) d
    by_cases hkey : entry.1.1 = source.id
    · -- One of the source: it is disposed of in both.
      rw [List.filter_cons_of_pos (by simpa using hkey), List.map_cons] at hrest
      obtain ⟨⟨i, i'⟩, rest, rfl⟩ := List.exists_cons_of_ne_nil (l := rest) (by
        rintro rfl
        cases hrest)
      obtain ⟨rfl, htail⟩ : entry.2 = i ∧ _ := List.cons.inj hrest
      obtain ⟨hp, hsub⟩ := List.forall_mem_cons.mp hsub
      obtain ⟨d, d', hd, hd', hsame⟩ := h.same _ _ hp
      obtain ⟨-, hown, htwin, -⟩ := Descriptor.confined_dispose (d, world) (d', world') hsame ht
      rw [List.map_cons, List.map_cons, run_disposeAll_cons hd, run_disposeAll_cons hd']
      exact ih (h.set hp hown).restart htwin hids (hstill _) hothers htail hsub
    · -- One of another source: what that does is beside the realm.
      rw [List.filter_cons_of_neg (by simpa using hkey)] at hrest
      obtain ⟨other, ho, hid, d, hd, hsame⟩ := hentry
      have hne : other.id ≠ source.id := hid ▸ hkey
      obtain ⟨-, -, -, hbeside⟩ :=
        Descriptor.confined_dispose (d, world) (d, world) hsame (ht.refl rfl)
      rw [List.map_cons, run_disposeAll_cons hd]
      exact ih (h.setOther (hother hkey) _) (ht.of_beside hbeside (source.apart_realm hs ho hne))
        hids (hstill _) hothers hrest hsub

-- ---------------------------------------------------------------------------
-- Two runs
-- ---------------------------------------------------------------------------

def answers (settings : Settings) (name : String) :
    List Call → Manager × World → List (Except Fault Answer)
  | [], _ => []
  | call :: rest, s =>
    if call.subject settings = some name then
      call.answer s :: answers settings name rest (call.run s).2
    else answers settings name rest (call.run s).2

/-- A run with all the calls and one with those that concern the source, which cannot be
told apart by it. -/
structure Aligned (site : Site) (owner : Channel → String) (given : Settings) (source : Source)
    (hs : source ∈ Source.all) (s s' : Manager × World) : Prop where
  consistent : Consistent s.1
  consistent' : Consistent s'.1
  each : ∀ other (h : other ∈ Source.all), Mirrors (other.realm site owner h) given s.1 s.1
  each' : Mirrors (source.realm site owner hs) given s'.1 s'.1
  only : ∀ name, name ≠ source.id → s'.1.trackedFor name = []
  mirrors : Mirrors (source.realm site owner hs) given s.1 s'.1
  twin : (source.realm site owner hs).Twin s.2 s'.2

def Housed (site : Site) (owner : Channel → String) (given : Settings) : Prop :=
  ∀ source (h : source ∈ Source.all), Houses (source.realm site owner h) given source

theorem Mirrors.given (h : Mirrors r settings m m') : m.settings = settings := by
  obtain ⟨_, h⟩ := h
  exact h.settings

/-- After a call on one source the descriptors of every source are still of its realm. -/
theorem each_after {other : Source} (ho : other ∈ Source.all)
    (hids : (m.tracked.map (·.2)).Nodup)
    (heach : ∀ other (h : other ∈ Source.all), Mirrors (other.realm site owner h) settings m m)
    (hsettled : Settled (other.realm site owner ho) settings m left left) (source : Source)
    (hs : source ∈ Source.all) : Mirrors (source.realm site owner hs) settings left left := by
  by_cases heq : source.id = other.id
  · obtain rfl : source = other := by
      have hfind := Source.find_id hs
      rw [heq, Source.find_id ho] at hfind
      exact (Except.ok.inj hfind).symm
    exact hsettled.mirrors
  · exact (heach source hs).of_aside heq hsettled.aside hsettled.aside hids hids

theorem Aligned.own (h : Aligned site owner settings source hs s s')
    (hh : Housed site owner settings) (hcall : call.subject settings = some source.id) :
    call.answer s' = call.answer s ∧
      Aligned site owner settings source hs (call.run s).2 (call.run s').2 := by
  obtain ⟨m, world⟩ := s
  obtain ⟨m', world'⟩ := s'
  have hsettings := h.mirrors.given
  have hboth := parallel_call (hh source hs) hsettings h.mirrors h.twin hcall
  have hfirst := parallel_call (hh source hs) hsettings (h.each source hs) (h.twin.refl rfl) hcall
  have hsecond :=
    parallel_call (hh source hs) h.each'.given h.each' (h.twin.symm.refl rfl) hcall
  refine ⟨hboth.ends.eq, (call.transition h.consistent).consistent,
    (call.transition h.consistent').consistent,
    each_after hs h.consistent.ids h.each hfirst.own, hsecond.own.mirrors, fun name hne => ?_,
    hboth.own.mirrors, hboth.twin⟩
  exact (hsecond.own.aside.tracked name hne).trans (h.only name hne)

theorem Aligned.other (h : Aligned site owner settings source hs s s')
    (hh : Housed site owner settings) (hcall : call.subject settings = some name)
    (hne : name ≠ source.id) : Aligned site owner settings source hs (call.run s).2 s' := by
  obtain ⟨m, world⟩ := s
  have hsettings := h.mirrors.given
  by_cases hknown : ∃ other ∈ Source.all, other.id = name
  · obtain ⟨other, ho, rfl⟩ := hknown
    have hfirst := parallel_call (hh other ho) hsettings (h.each other ho) (h.twin.refl rfl) hcall
    refine ⟨(call.transition h.consistent).consistent, h.consistent',
      each_after ho h.consistent.ids h.each hfirst.own, h.each', h.only, ?_, ?_⟩
    · exact h.mirrors.of_aside (Ne.symm hne) hfirst.own.aside (.refl _ _ _) h.consistent.ids
        h.consistent'.ids
    · exact h.twin.of_beside hfirst.beside (source.apart_realm hs ho hne)
  · have hunknown : ∀ other ∈ Source.all, other.id ≠ name := by simpa using hknown
    rwa [run_of_unknown h.consistent hsettings hunknown hcall]

theorem trackedFor_eq_tracked (h : ∀ other, other ≠ name → m.trackedFor other = []) :
    m.trackedFor name = m.tracked := by
  refine List.filter_eq_self.mpr fun entry hentry => ?_
  by_contra hne
  have hmem : entry ∈ m.trackedFor entry.1.1 := List.mem_filter.mpr ⟨hentry, by simp⟩
  rw [h _ (by simpa using hne)] at hmem
  cases hmem

theorem run_releaseAll (m : Manager) (world : World) :
    ((release none).run (m, world)).2 =
      ((disposeAll (m.tracked.map (·.2))).run ({ m with tracked := [] }, world)).2 := by
  have hcovers : ∀ entry ∈ m.tracked, Covers none entry = true := fun _ _ => rfl
  rw [run_release, List.filter_eq_self.mpr hcovers,
    List.filter_eq_nil_iff.mpr (by simpa using hcovers)]

theorem Aligned.all (h : Aligned site owner settings source hs s s') :
    Aligned site owner settings source hs ((Call.release none).run s).2
      ((Call.release none).run s').2 := by
  obtain ⟨m, world⟩ := s
  obtain ⟨m', world'⟩ := s'
  obtain ⟨entries, hm⟩ := h.mirrors
  have howned : ∀ entry ∈ m.tracked, Owned site owner m entry := by
    rintro ⟨key, id⟩ hentry
    obtain ⟨_, -, ⟨other, ho, _, hkey, -⟩, -⟩ := h.consistent.fits key id hentry
    have hid : key.1 = other.id := by rw [hkey]
    have hmem : (key, id) ∈ m.trackedFor other.id :=
      List.mem_filter.mpr ⟨hentry, decide_eq_true hid⟩
    exact ⟨other, ho, hid, (h.each other ho).same hmem⟩
  have hothers : ∀ entry ∈ m.tracked, entry.1.1 ≠ source.id →
      entry.2 ∉ (entries.map Prod.snd).map Prod.fst := by
    intro entry hentry hne hmem
    obtain ⟨⟨_, id'⟩, hp, rfl⟩ := List.mem_map.mp hmem
    refine not_mem_trackedFor h.consistent.ids (Ne.symm hne) (hm.owns hp).1 ?_
    exact List.mem_map.mpr ⟨entry, List.mem_filter.mpr ⟨hentry, by simp⟩, rfl⟩
  have hrest : (m.tracked.filter (·.1.1 = source.id)).map (·.2) =
      (entries.map Prod.snd).map Prod.fst := by
    rw [← trackedFor, show m.trackedFor source.id = _ from hm.tracked]
    simp
  have hids' : m'.tracked.map (·.2) = (entries.map Prod.snd).map Prod.snd := by
    rw [← trackedFor_eq_tracked h.only, show m'.trackedFor source.id = _ from hm.tracked']
    simp
  have hfreed : Alike (source.realm site owner hs) settings { m with tracked := [] }
      (entries.map Prod.snd) [] { m with tracked := [] } { m' with tracked := [] } :=
    { hm with tracked := rfl, tracked' := rfl, aside := .refl _ _ _ }
  obtain ⟨hmirrors, htwin⟩ := alike_disposeAll (l := m.tracked) hfreed h.twin h.consistent.ids
    howned hothers hrest fun _ hp => hp
  rw [← run_releaseAll, ← hids', ← run_releaseAll] at hmirrors htwin
  have huntracked := tracked_releaseAll h.consistent world
  have huntracked' := tracked_releaseAll h.consistent' world'
  have hnone : ∀ name, ((release none).run (m, world)).2.1.trackedFor name = [] := by
    simp [trackedFor, huntracked]
  have hnone' : ∀ name, ((release none).run (m', world')).2.1.trackedFor name = [] := by
    simp [trackedFor, huntracked']
  exact ⟨(transition_release h.consistent none world).consistent,
    (transition_release h.consistent' none world').consistent,
    fun other _ => mirrors_of_untracked hmirrors.settings (hnone _),
    mirrors_of_untracked hmirrors.settings' (hnone' _), fun name _ => hnone' name,
    hmirrors.mirrors (List.nil_sublist _), htwin⟩

theorem aligned_afterAll (hh : Housed site owner settings)
    (h : Aligned site owner settings source hs s s') (calls : List Call) :
    let kept := calls.filter (·.concerns settings source.id)
    answers settings source.id kept s' = answers settings source.id calls s ∧
      Aligned site owner settings source hs (afterAll calls s) (afterAll kept s') := by
  induction calls generalizing s s' with
  | nil => exact ⟨rfl, h⟩
  | cons call rest ih =>
    rcases hcall : call.subject settings with _ | name
    · -- A release of everything.
      have hconcerns : call.concerns settings source.id = true := by simp [Call.concerns, hcall]
      obtain rfl : call = .release none := by cases call <;> simp_all [Call.subject]
      obtain ⟨hrest, hleft⟩ := ih h.all
      rw [List.filter_cons_of_pos hconcerns]
      exact ⟨hrest, hleft⟩
    · by_cases hname : name = source.id
      · subst hname
        have hconcerns : call.concerns settings source.id = true := by simp [Call.concerns, hcall]
        obtain ⟨hanswer, hafter⟩ := h.own hh hcall
        obtain ⟨hrest, hleft⟩ := ih hafter
        rw [List.filter_cons_of_pos hconcerns]
        simp only [answers, hcall, if_true, hanswer, hrest]
        exact ⟨trivial, hleft⟩
      · have hconcerns : ¬ call.concerns settings source.id = true := by
          simpa [Call.concerns, hcall] using hname
        obtain ⟨hrest, hleft⟩ := ih (h.other hh hcall hname)
        rw [List.filter_cons_of_neg hconcerns]
        simp only [answers, hcall, Option.some.injEq, hname, if_false]
        exact ⟨hrest, hleft⟩

/-- Fetchers of different sources share no channel, and each writes only the archive
it is asked for. -/
def Separate (settings : Settings) (owner : Channel → String) : Prop :=
  ∀ source ∈ Source.all, ∀ n fetcher, settings.makeFetcher source n = some fetcher →
    fetcher.Within fun channel => owner channel = source.id

/-- The calls on a source end the same, and leave the same in its directory, if the calls
on other sources are left out. Fetchers of different sources share nothing, the decoder
does not count what it is asked, and no directory is missing that the cache path goes
up from. -/
theorem independent (settings : Settings) (world : World) {text : String}
    {owner : Channel → String} (hcache : settings.cache = Path.parse text)
    (htree : world.files.IsTree)
    (hup : ∀ e, world.files.locate settings.cache.ascent = .error e → e.code ≠ .notFound)
    (hdecoder : ∃ f, world.decoder = .deterministic f) (hfetchers : Separate settings owner)
    (hs : source ∈ Source.all) (calls : List Call) :
    let start := (ofSettings settings, world)
    let kept := calls.filter (·.concerns settings source.id)
    answers settings source.id kept start = answers settings source.id calls start ∧
      ∀ names, (∀ name ∈ names, Path.IsEntry name) →
        (afterAll kept start).2.files.at? ((settings.cache / source.id).below names) =
          (afterAll calls start).2.files.at? ((settings.cache / source.id).below names) := by
  intro start kept
  rw [hcache] at hup
  obtain ⟨site, hpath, hagrees⟩ := Site.exists_of_parse htree hup
  have hsite : site.path [] = settings.cache := hpath.trans hcache.symm
  have hh : Housed site owner settings := fun source hs => ⟨hs, rfl, hsite, hfetchers source hs⟩
  have hstart : Aligned site owner settings source hs start start :=
    ⟨consistent_ofSettings settings, consistent_ofSettings settings,
      fun _ _ => mirrors_of_untracked rfl rfl, mirrors_of_untracked rfl rfl, fun _ _ => rfl,
      mirrors_of_untracked rfl rfl,
      ⟨hagrees source.id, rfl, hdecoder, fun _ _ => rfl, fun _ _ => rfl⟩⟩
  obtain ⟨hanswers, hend⟩ := aligned_afterAll hh hstart calls
  refine ⟨hanswers, fun names hnames => ?_⟩
  have hbelow : (settings.cache / source.id).below names = site.path (source.id :: names) := by
    rw [Source.div_id hs, ← hsite]
    simp [Site.path, Path.below]
  rw [hbelow]
  exact hend.twin.files.at?_eq (Source.isEntry_id hs) hnames

-- ---------------------------------------------------------------------------
-- Two sources
-- ---------------------------------------------------------------------------

def Answer.state? : Except Fault Answer → Option State
  | .ok (.tile report) => some report.state
  | _ => none

def settingsAt (cache : String) : Settings where
  cache := Path.parse cache
  defaultSource := "srtm3"
  environment := []
  makeFetcher source _ :=
    if source.id = "srtm3_ftp" then some (.scripted { steps := [{ write := some [] }] })
    else some (.scripted { steps := [{ outcome := .recoverable "busy" }] })

theorem separate_settingsAt (cache : String) : Separate (settingsAt cache) fun _ => "" := by
  intro source _ n fetcher hf
  simp only [settingsAt] at hf
  split at hf <;> cases hf <;>
    simpa [Fetcher.Within] using ScriptStep.local_of_effect fun _ _ => rfl

def stocked : FileSystem where
  entries := [
    (["srtm3"], .directory), (["srtm3", "srtm_38_03.tif"], .file []),
    (["srtm3_ftp"], .directory), (["srtm3_ftp", "srtm_38_03.tif"], .file [])]

theorem isTree_stocked : stocked.IsTree := FileSystem.isTree_of_entries (by decide)

def fruitless : World where
  files := stocked
  decoder := .deterministic { decode := fun _ _ => .ok none }

def counting : World where
  files := stocked
  decoder := .scripted [.ok none, .error .unreadableRaster] (.ok none)

def oneEach : List Call := [.getTile 7 46 (some "srtm3_ftp"), .getTile 7 46 (some "srtm3")]

/-- The cache path may go up from a directory that is there. -/
theorem independent_fruitless :
    let settings := settingsAt "/srtm3/.."
    let start := (ofSettings settings, fruitless)
    answers settings "srtm3" (oneEach.filter (·.concerns settings "srtm3")) start =
        answers settings "srtm3" oneEach start ∧
      (answers settings "srtm3" oneEach start).map Answer.state? = [some .absent] := by
  have hup : fruitless.files.locate (settingsAt "/srtm3/..").cache.ascent = .ok [] := by decide
  have hcache : (settingsAt "/srtm3/..").cache = Path.parse "/srtm3/.." := rfl
  have hlisted : Source.srtm3 ∈ Source.all := by decide
  exact ⟨(independent (settingsAt "/srtm3/..") fruitless hcache isTree_stocked (by simp [hup])
    ⟨_, rfl⟩ (separate_settingsAt _) hlisted oneEach).1, by decide +kernel⟩

/-- A source is noticed by another where a fetch makes a directory that the cache path
goes up from, and where the decoder counts. -/
theorem noticed :
    (let settings := settingsAt "/x/.."
      let start := (ofSettings settings, fruitless)
      fruitless.files.IsTree ∧ (∃ f, fruitless.decoder = .deterministic f) ∧
        Separate settings (fun _ => "") ∧
        answers settings "srtm3" (oneEach.filter (·.concerns settings "srtm3")) start ≠
          answers settings "srtm3" oneEach start) ∧
    (let settings := settingsAt "/"
      let start := (ofSettings settings, counting)
      counting.files.IsTree ∧ counting.files.locate settings.cache.ascent = .ok [] ∧
        Separate settings (fun _ => "") ∧
        answers settings "srtm3" (oneEach.filter (·.concerns settings "srtm3")) start ≠
          answers settings "srtm3" oneEach start) := by
  refine ⟨⟨isTree_stocked, ⟨_, rfl⟩, separate_settingsAt _, fun h => ?_⟩,
    ⟨isTree_stocked, by decide, separate_settingsAt _, fun h => ?_⟩⟩
  · have hstates := congrArg (List.map Answer.state?) h
    revert hstates
    decide +kernel
  · have hstates := congrArg (List.map Answer.state?) h
    revert hstates
    decide +kernel

end Manager

end TerrainTiles
