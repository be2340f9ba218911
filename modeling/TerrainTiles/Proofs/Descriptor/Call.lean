import TerrainTiles.Proofs.Descriptor.Acquisition

/-!
# Calls on a descriptor

`Call` lists what is done with a descriptor from outside, and `afterAll` is what
a sequence of calls leaves. No call changes the local copy it stands for or the
remote place its fetcher asks (`alike_afterAll`). `getTile` fetches the archive
only, and only while remote fetches are enabled (`steady_getTile`).
-/

namespace TerrainTiles.Descriptor

open Act

inductive Call where
  | getTile
  | dispose
  | disableRemote

/-- What a call leaves, whatever comes of it. -/
def Call.after : Call → Descriptor × World → Descriptor × World
  | getTile, s => (Descriptor.getTile.run s).2
  | dispose, s => (Descriptor.dispose.run s).2
  | disableRemote, (d, world) => (d.disableRemote, world)

def afterAll (calls : List Call) (s : Descriptor × World) : Descriptor × World :=
  calls.foldl (fun s call => call.after s) s

-- ---------------------------------------------------------------------------
-- Disposing
-- ---------------------------------------------------------------------------

def closed (d : Descriptor) (world : World) : Option Fetcher × World :=
  match d.fetcher with
  | none => (none, world)
  | some fetcher =>
    let (_, fetcher, world) := Fetcher.close.run (fetcher, world)
    (some fetcher, world)

theorem run_dispose (d : Descriptor) (world : World) :
    dispose.run (d, world) = (.ok (), { d with
      fetcher := (d.closed world).1, cached := none,
      state := if d.state = .ready then .unknown else d.state }, (d.closed world).2) := by
  obtain ⟨copy, fetcher, state, cached, decoded, message, allowed⟩ := d
  unfold dispose closed
  rw [run_bind, run_own]
  cases fetcher with
  | none => cases state <;> rfl
  | some fetcher =>
    dsimp only
    rw [run_bind, run_attempt]
    unfold onFetcher
    rw [run_focus]
    cases state <;> rfl

-- ---------------------------------------------------------------------------
-- What stays
-- ---------------------------------------------------------------------------

structure Alike (d d' : Descriptor) : Prop where
  copy : d'.copy = d.copy
  fetcher : Option.Rel Fetcher.Alike d.fetcher d'.fetcher

theorem rel_refl (f : Option Fetcher) : Option.Rel Fetcher.Alike f f := by
  cases f with
  | none => exact .none
  | some f => exact .some (Std.Refl.refl f)

theorem rel_trans {f f' f'' : Option Fetcher} (h : Option.Rel Fetcher.Alike f f')
    (h' : Option.Rel Fetcher.Alike f' f'') : Option.Rel Fetcher.Alike f f'' := by
  cases h with
  | none => exact h'
  | some h =>
    cases h' with
    | some h' => exact .some (IsTrans.trans _ _ _ h h')

instance : IsPreorder Descriptor Alike where
  refl _ := ⟨rfl, rel_refl _⟩
  trans _ _ _ h h' := ⟨h'.copy.trans h.copy, rel_trans h.fetcher h'.fetcher⟩

theorem Alike.lasting {P : Fetcher → Prop} (h : Alike d d') (hP : Fetcher.Lasting P)
    (hd : ∀ f, d.fetcher = some f → P f) : ∀ f, d'.fetcher = some f → P f := by
  intro f' hf'
  have hrel := h.fetcher
  rw [hf'] at hrel
  cases hf : d.fetcher with
  | none => rw [hf] at hrel; cases hrel
  | some f =>
    rw [hf] at hrel
    cases hrel with
    | some hrel => exact hP f f' hrel (hd f hf)

theorem closed_frame (d : Descriptor) (world : World) :
    Option.Rel Fetcher.Alike d.fetcher (d.closed world).1 ∧
      World.Quiet world (d.closed world).2 := by
  unfold closed
  cases d.fetcher with
  | none => exact ⟨.none, Std.Refl.refl _⟩
  | some fetcher =>
    have h := Fetcher.keeps_close (fetcher, world)
    exact ⟨.some h.1, h.2⟩

theorem files_dispose (d : Descriptor) (world : World) :
    (dispose.run (d, world)).2.2.files = world.files := by
  rw [run_dispose]
  exact (closed_frame d world).2.files

theorem asked_frame (fetcher : Fetcher) (path : Path) (world : World) :
    fetcher.Alike (asked fetcher path world).2.1 ∧
      World.Records (fun event => event.isFetch → event = .fetchBegun path) world
        (asked fetcher path world).2.2 ∧
      (asked fetcher path world).2.2.decoder = world.decoder := by
  have h := Fetcher.keeps_fetch path (fetcher, world.record (.fetchBegun path))
  refine ⟨h.1, ?_, h.2.decoder⟩
  have hbegun : World.Records (fun event => event.isFetch → event = .fetchBegun path) world
      (world.record (.fetchBegun path)) := ⟨[.fetchBegun path], rfl, by simp⟩
  refine hbegun.trans (h.2.events.mono ?_)
  rintro event ⟨hfetch, -⟩ he
  rw [hfetch] at he
  cases he

/-- A fetch changes nothing of the descriptor but its fetcher, records no fetch
but that of the archive, and gives the archive if it gives anything. -/
theorem fetchRemote_frame (d : Descriptor) (world : World) :
    ∃ result fetcher left, fetchRemote.run (d, world) = (result, { d with fetcher }, left) ∧
      Option.Rel Fetcher.Alike d.fetcher fetcher ∧
      World.Records (fun event => event.isFetch →
        ∃ path, d.copy.archive = .ok path ∧ event = .fetchBegun path) world left ∧
      left.decoder = world.decoder ∧
      ∀ value, result = .ok (.success value) → d.copy.archive = .ok value := by
  cases hf : d.fetcher with
  | none =>
    rw [run_fetchRemote_none hf]
    exact ⟨_, d.fetcher, _, rfl, hf ▸ rel_refl _, World.records_of_eq rfl, rfl, by simp⟩
  | some fetcher =>
    cases ha : d.copy.archive with
    | error fault =>
      rw [run_fetchRemote_nameless hf ha]
      exact ⟨_, d.fetcher, _, rfl, hf ▸ rel_refl _, World.records_of_eq rfl, rfl, by simp⟩
    | ok path =>
      obtain ⟨halike, hrecords, hdecoder⟩ := asked_frame fetcher path world
      rw [run_fetchRemote hf ha]
      cases hasked : asked fetcher path world with
      | mk answer t =>
        obtain ⟨fetcher', left⟩ := t
        rw [hasked] at halike hrecords hdecoder
        have hevents := hrecords.mono (q := fun event => event.isFetch →
          ∃ p, (Except.ok path : Except Fault Path) = .ok p ∧ event = .fetchBegun p)
          fun event h he => ⟨path, rfl, h he⟩
        cases answer with
        | ok outcome =>
          refine ⟨_, _, _, rfl, .some halike, hevents, hdecoder, ?_⟩
          intro value hvalue
          cases hvalue
          rw [Fetcher.fetch_value hasked]
        | error fault =>
          dsimp only
          split
          · exact ⟨_, _, _, rfl, .some halike, hevents, hdecoder, by simp⟩
          · exact ⟨_, _, _, rfl, .some halike, hevents, hdecoder, by simp⟩

-- ---------------------------------------------------------------------------
-- Calls
-- ---------------------------------------------------------------------------

def Permits (d : Descriptor) (event : Event) : Prop :=
  event.isFetch → d.remoteEnabled ∧ ∃ path, d.copy.archive = .ok path ∧ event = .fetchBegun path

structure Steady (s t : Descriptor × World) : Prop where
  alike : Alike s.1 t.1
  remoteAllowed : t.1.remoteAllowed = s.1.remoteAllowed
  records : World.Records (Permits s.1) s.2 t.2
  decoder : ∀ f, s.2.decoder = .deterministic f → t.2.decoder = .deterministic f

theorem steady_finish (d : Descriptor) (preferred : Option Path) (world : World) :
    Steady (d, world) ((finish preferred).run (d, world)).2 := by
  obtain ⟨result, d', left, hrun, hreading, hfinished⟩ := run_finish d preferred world
  obtain ⟨hcopy, hfetcher, hallowed⟩ := hfinished.alike
  rw [hrun]
  refine ⟨⟨hcopy, hfetcher ▸ rel_refl _⟩, hallowed, hreading.events.mono ?_, hreading.decoder⟩
  intro event hfetch h
  rw [hfetch] at h
  cases h

theorem Steady.remoteEnabled {s t : Descriptor × World} (h : Steady s t) :
    t.1.remoteEnabled = s.1.remoteEnabled := by
  have hsome : t.1.fetcher.isSome = s.1.fetcher.isSome := by
    have hf := h.alike.fetcher
    revert hf
    generalize s.1.fetcher = f
    generalize t.1.fetcher = f'
    rintro (_ | _)
    · rfl
    · rfl
  rw [Descriptor.remoteEnabled, h.remoteAllowed, hsome, Descriptor.remoteEnabled]

theorem Steady.trans {s t u : Descriptor × World} (h : Steady s t) (h' : Steady t u) :
    Steady s u := by
  refine ⟨IsTrans.trans _ _ _ h.alike h'.alike, h'.remoteAllowed.trans h.remoteAllowed, ?_,
    fun f hf => h'.decoder f (h.decoder f hf)⟩
  refine h.records.trans (h'.records.mono ?_)
  intro event he hfetch
  obtain ⟨henabled, path, hpath, rfl⟩ := he hfetch
  exact ⟨h.remoteEnabled ▸ henabled, path, h.alike.copy ▸ hpath, rfl⟩

theorem steady_of_eq {d d' : Descriptor} {world : World} (hc : d'.copy = d.copy)
    (hf : d'.fetcher = d.fetcher) (ha : d'.remoteAllowed = d.remoteAllowed) :
    Steady (d, world) (d', world) :=
  ⟨⟨hc, hf ▸ rel_refl _⟩, ha, World.records_of_eq rfl, fun _ h => h⟩

theorem steady_acquireRemote {d : Descriptor} (h : d.remoteEnabled) (world : World) :
    Steady (d, world) (acquireRemote.run (d, world)).2 := by
  obtain ⟨result, fetcher, left, hrun, hfetcher, hrecords, hdecoder, -⟩ := fetchRemote_frame d world
  have hfetch : ∀ state message, Steady (d, world) ({ d with fetcher, state, message }, left) :=
    fun _ _ => ⟨⟨rfl, hfetcher⟩, rfl, hrecords.mono fun _ he hf => ⟨h, he hf⟩,
      fun _ hd => hdecoder.trans hd⟩
  rw [run_acquireRemote, hrun]
  rcases result with fault | value | _ | _ | _
  · exact hfetch _ _
  · exact (hfetch .onDisk d.message).trans (steady_finish _ _ _)
  · exact hfetch _ _
  · exact hfetch _ _
  · exact hfetch _ _

theorem steady_getTile (s : Descriptor × World) : Steady s (getTile.run s).2 := by
  obtain ⟨d, world⟩ := s
  rw [run_getTile]
  cases d.settled? with
  | some answer => exact steady_of_eq rfl rfl rfl
  | none =>
    cases d.probed world.files with
    | error fault => exact steady_of_eq rfl rfl rfl
    | ok state =>
      have hprobe : Steady (d, world) ({ d with state }, world) := steady_of_eq rfl rfl rfl
      dsimp only
      split
      · split
        · next h => exact hprobe.trans (steady_acquireRemote (d := { d with state }) h _)
        · exact hprobe
      · exact hprobe.trans (steady_finish _ _ _)

theorem steady_dispose (s : Descriptor × World) : Steady s (dispose.run s).2 := by
  obtain ⟨d, world⟩ := s
  rw [run_dispose]
  obtain ⟨hfetcher, hquiet⟩ := closed_frame d world
  refine ⟨⟨rfl, hfetcher⟩, rfl, hquiet.events.mono ?_, fun _ hd => hquiet.decoder.trans hd⟩
  rintro event ⟨hfetch, -⟩ h
  rw [hfetch] at h
  cases h

theorem Call.alike (call : Call) (s : Descriptor × World) : Alike s.1 (call.after s).1 := by
  cases call with
  | getTile => exact (steady_getTile s).alike
  | dispose => exact (steady_dispose s).alike
  | disableRemote => exact ⟨rfl, rel_refl _⟩

theorem alike_afterAll (calls : List Call) (s : Descriptor × World) :
    Alike s.1 (afterAll calls s).1 := by
  induction calls generalizing s with
  | nil => exact Std.Refl.refl _
  | cons call rest ih => exact IsTrans.trans _ _ _ (call.alike s) (ih _)

end TerrainTiles.Descriptor
