import TerrainTiles.Proofs.Manager.Offline

/-!
# Requests that interleave

A request for a tile takes three steps: it finds its descriptor, acquires the tile
of it, and marks its source as offline if that was unreachable. In a `System`
any number of requests are under way, and between two steps of one there may be
steps of others and releases. What the manager's own calls do are steps in a row
(`run_eq_afterSteps`).

A request keeps the descriptor it holds, whether that is still tracked or not.
So the invariants are about the whole pool: each step `Grows` it, and a held
descriptor stays one for a tile of the source that was asked for (`Coherent`).
-/

namespace TerrainTiles.Manager

open Act

inductive Progress where
  | holding (source : String) (id : Nat)
  /-- The source was found unreachable and is to be marked. -/
  | raised (source : String)
  | ended
  deriving DecidableEq

structure System where
  manager : Manager
  world : World
  requests : List Progress := []

inductive Step where
  | find (source : String) (lon lat : Double)
  | acquire (request : Nat)
  | mark (request : Nat)
  | release (source : Option String)

def Progress.found (source : String) : Except Fault Nat → Progress
  | .ok id => holding source id
  | .error _ => ended

def Progress.tried (source : String) (result : Except Fault (Option Loan)) : Progress :=
  match raisedBy source result with
  | some source => raised source
  | none => ended

namespace Step

/-- What a step leaves. A step that its request is not due to take does nothing. -/
def after : Step → System → System
  | find source lon lat, s =>
    let ended := (descriptorFor source lon lat).run (s.manager, s.world)
    ⟨ended.2.1, ended.2.2, s.requests ++ [.found source ended.1]⟩
  | acquire i, s =>
    match s.requests[i]? with
    | some (.holding source id) =>
      let ended := (onDescriptor id Descriptor.getTile).run (s.manager, s.world)
      ⟨ended.2.1, ended.2.2, s.requests.set i (.tried source ended.1)⟩
    | _ => s
  | mark i, s =>
    match s.requests[i]? with
    | some (.raised source) =>
      let ended := (markOffline source).run (s.manager, s.world)
      ⟨ended.2.1, ended.2.2, s.requests.set i .ended⟩
    | _ => s
  | release source, s =>
    let ended := (Manager.release source).run (s.manager, s.world)
    ⟨ended.2.1, ended.2.2, s.requests⟩

def marks (s : System) : Step → Option String
  | mark i =>
    match s.requests[i]? with
    | some (.raised source) => some source
    | _ => none
  | _ => none

end Step

def afterSteps (steps : List Step) (s : System) : System :=
  steps.foldl (fun s step => step.after s) s

theorem afterSteps_append (before later : List Step) (s : System) :
    afterSteps (before ++ later) s = afterSteps later (afterSteps before s) := List.foldl_append

theorem invariant_afterSteps {P : System → Prop} (hstep : ∀ s step, P s → P (Step.after step s))
    {s : System} (h : P s) (steps : List Step) : P (afterSteps steps s) := by
  induction steps generalizing s with
  | nil => exact h
  | cons step rest ih => exact ih (hstep s step h)

-- ---------------------------------------------------------------------------
-- Calls are steps in a row
-- ---------------------------------------------------------------------------

def Call.steps (m : Manager) (n : Nat) : Call → List Step
  | getTile lon lat source => [.find (m.effective source) lon lat, .acquire n, .mark n]
  | getElevation lon lat source method =>
    if (Interpolation.ofName? method).isNone then []
    else [.find (m.effective source) lon lat, .acquire n, .mark n]
  | tileStatus lon lat source => [.find (m.effective source) lon lat]
  | descriptor source lon lat => [.find source lon lat]
  | release source => [.release source]

variable {s : System} {m m' m'' : Manager} {world : World} {name other : String} {id i : Nat}
  {d d' : Descriptor} {step : Step}

theorem after_find {lon lat : Double} {result : Except Fault Nat}
    (hrun : (descriptorFor name lon lat).run (s.manager, s.world) = (result, m, world)) :
    (Step.find name lon lat).after s = ⟨m, world, s.requests ++ [.found name result]⟩ := by
  simp only [Step.after, hrun]

theorem after_acquire {result : Except Fault (Option Loan)}
    (h : s.requests[i]? = some (.holding name id))
    (hrun : (onDescriptor id Descriptor.getTile).run (s.manager, s.world) = (result, m, world)) :
    (Step.acquire i).after s = ⟨m, world, s.requests.set i (.tried name result)⟩ := by
  simp only [Step.after, h, hrun]

theorem after_mark (h : s.requests[i]? = some (.raised name)) :
    (Step.mark i).after s =
      ⟨((markOffline name).run (s.manager, s.world)).2.1, s.world, s.requests.set i .ended⟩ := by
  simp only [Step.after, h]
  rfl

/-- Acquiring is trying and then marking, if the source is to be marked. -/
theorem run_acquire_eq (h : s.requests[i]? = some (.holding name id)) :
    let t := (Step.mark i).after ((Step.acquire i).after s)
    ((Manager.acquire name id).run (s.manager, s.world)).2 = (t.manager, t.world) := by
  have hi : i < s.requests.length := (List.getElem?_eq_some_iff.mp h).1
  unfold Manager.acquire
  rw [run_bind, run_attempt]
  cases hrun : (onDescriptor id Descriptor.getTile).run (s.manager, s.world) with
  | mk result u =>
    obtain ⟨m, world⟩ := u
    rw [after_acquire h hrun]
    cases result with
    | ok loan => simp [Step.after, hi, Progress.tried, raisedBy]
    | error fault =>
      cases hf : isAcquisitionFault fault with
      | false => simp [Step.after, hi, Progress.tried, raisedBy, hf]
      | true =>
        have hraised : (s.requests.set i (.tried name (.error fault)))[i]? =
            some (.raised name) := by
          simp [hi, Progress.tried, raisedBy, hf]
        rw [after_mark hraised]
        simp only [hf, if_true, run_bind]
        rfl

theorem run_request_eq (s : System) (choice : Option String) (lon lat : Double) {β : Type}
    {answer : String → Nat → Option Loan → Act Manager β}
    (hanswer : ∀ source id loan, Plain (answer source id loan)) :
    let request := chooseSource choice >>= fun source => descriptorFor source lon lat >>= fun id =>
      Manager.acquire source id >>= fun loan => answer source id loan
    let n := s.requests.length
    let t := afterSteps [.find (s.manager.effective choice) lon lat, .acquire n, .mark n] s
    (request.run (s.manager, s.world)).2 = (t.manager, t.world) := by
  intro request n t
  have hrequest : request.run (s.manager, s.world) = _ :=
    run_bind_of_ok (run_chooseSource s.manager choice s.world)
  have ht : t = (Step.mark n).after ((Step.acquire n).after
    ((Step.find (s.manager.effective choice) lon lat).after s)) := rfl
  cases hfind : (descriptorFor (s.manager.effective choice) lon lat).run (s.manager, s.world) with
  | mk result u =>
    obtain ⟨m, world⟩ := u
    rw [after_find hfind] at ht
    rw [hrequest, ht]
    cases result with
    | error fault =>
      rw [run_bind_of_error hfind]
      simp [Step.after, n, Progress.found]
    | ok id =>
      have hheld : (s.requests ++ [.found (s.manager.effective choice) (.ok id)])[n]? =
          some (.holding (s.manager.effective choice) id) := by
        simp [n, Progress.found]
      rw [run_bind_of_ok hfind, run_bind, ← run_acquire_eq hheld]
      -- What is answered from the tile changes nothing any more.
      rcases (Manager.acquire (s.manager.effective choice) id).run (m, world) with ⟨_ | loan, v⟩
      · rfl
      · obtain ⟨result, hrest, -⟩ := hanswer (s.manager.effective choice) id loan v
        exact congrArg Prod.snd hrest

theorem run_eq_afterSteps (call : Call) (s : System) :
    let t := afterSteps (call.steps s.manager s.requests.length) s
    (call.run (s.manager, s.world)).2 = (t.manager, t.world) := by
  cases call with
  | getTile lon lat source =>
    have hrequest := run_request_eq s source lon lat fun source id loan =>
      plain_report source id fun _ => loan.map (·.tile)
    exact hrequest
  | getElevation lon lat source method =>
    change ((Manager.getElevation lon lat source method).run (s.manager, s.world)).2 = _
    unfold Manager.getElevation
    simp only [Call.steps]
    split
    · rfl
    · exact run_request_eq s source lon lat fun source id loan =>
        plain_pointReport source method lon lat id loan
  | tileStatus lon lat source =>
    change ((Manager.tileStatus lon lat source).run (s.manager, s.world)).2 =
      ((descriptorFor (s.manager.effective source) lon lat).run (s.manager, s.world)).2
    unfold Manager.tileStatus
    rw [run_bind_of_ok (run_chooseSource s.manager source s.world), run_bind]
    rcases (descriptorFor (s.manager.effective source) lon lat).run (s.manager, s.world) with
      ⟨_ | id, t⟩
    · rfl
    · obtain ⟨result, hrest, -⟩ :=
        plain_report (s.manager.effective source) id (·.cached.map (·.tile)) t
      exact congrArg Prod.snd hrest
  | descriptor source lon lat => rfl
  | release source => rfl

-- ---------------------------------------------------------------------------
-- The pool
-- ---------------------------------------------------------------------------

def OfSource (m : Manager) (name : String) (d : Descriptor) : Prop :=
  ∃ source ∈ Source.all, source.id = name ∧
    ∃ index, d.copy = source.localCopy m.settings.cache (source.fileName index)

theorem OfSource.mono (h : OfSource m name d) (hs : m'.settings = m.settings)
    (hc : d'.copy = d.copy) : OfSource m' name d' := by
  obtain ⟨source, hsource, hname, index, hcopy⟩ := h
  exact ⟨source, hsource, hname, index, by rw [hc, hcopy, hs]⟩

theorem OfSource.unique (h : OfSource m name d) (h' : OfSource m other d) : name = other := by
  obtain ⟨source, hsource, rfl, index, hcopy⟩ := h
  obtain ⟨source', hsource', rfl, index', hcopy'⟩ := h'
  have hparent := congrArg (·.plain.parent) (hcopy.symm.trans hcopy')
  exact Source.directory_injective hsource hsource'
    ((Source.parent_plain hsource).symm.trans (hparent.trans (Source.parent_plain hsource')))

theorem Fits.ofSource {key : Key} (h : Fits m key d) : OfSource m key.1 d := by
  obtain ⟨⟨source, hsource, index, rfl, hcopy⟩, -⟩ := h
  exact ⟨source, hsource, rfl, index, hcopy⟩

/-- No descriptor is forgotten or becomes one of another tile, only some have their
remote disabled, and those that are made follow the state of their source. -/
structure Grows (disabled : List Nat) (m m' : Manager) : Prop where
  settings : m'.settings = m.settings
  kept : ∀ (id : Nat) d, m.pool[id]? = some d → ∃ d', m'.pool[id]? = some d' ∧
    d'.copy = d.copy ∧ d'.remoteAllowed = (d.remoteAllowed && !decide (id ∈ disabled))
  made : ∀ (id : Nat) d', m.pool[id]? = none → m'.pool[id]? = some d' →
    ∃ name, OfSource m' name d' ∧ d'.remoteAllowed = !m'.isOffline name
  tracked : ∀ key (id : Nat), (key, id) ∈ m'.tracked → (key, id) ∈ m.tracked ∨ m.pool[id]? = none

theorem Grows.refl (m : Manager) : Grows [] m m :=
  ⟨rfl, fun _ d h => ⟨d, h, rfl, by simp⟩, fun _ _ h h' => by simp [h] at h',
    fun _ _ => .inl⟩

theorem Grows.trans (h : Grows [] m m') (h' : Grows [] m' m'')
    (ho : ∀ name, m''.isOffline name = m'.isOffline name) : Grows [] m m'' := by
  refine ⟨h'.settings.trans h.settings, ?_, ?_, ?_⟩
  · intro id d hd
    obtain ⟨d', hd', hcopy, hallowed⟩ := h.kept id d hd
    obtain ⟨d'', hd'', hcopy', hallowed'⟩ := h'.kept id d' hd'
    exact ⟨d'', hd'', hcopy'.trans hcopy, by simp [hallowed', hallowed]⟩
  · intro id d'' hnone hd''
    cases hd : m'.pool[id]? with
    | none => exact h'.made id d'' hd hd''
    | some d' =>
      obtain ⟨name, hname, hallowed⟩ := h.made id d' hnone hd
      obtain ⟨_, hsame, hcopy, hallowed'⟩ := h'.kept id d' hd
      cases hd''.symm.trans hsame
      exact ⟨name, hname.mono h'.settings hcopy, by simp [hallowed', hallowed, ho]⟩
  · intro key id hentry
    rcases h'.tracked key id hentry with hentry | hnone
    · exact h.tracked key id hentry
    · refine .inr (Option.eq_none_iff_forall_ne_some.mpr fun d hd => ?_)
      obtain ⟨d', hd', -⟩ := h.kept id d hd
      simp [hnone] at hd'

theorem grows_set (hd : m.pool[id]? = some d) (hc : d'.copy = d.copy)
    (ha : d'.remoteAllowed = d.remoteAllowed) :
    Grows [] m { m with pool := m.pool.set id d' } := by
  obtain ⟨hlt, -⟩ := List.getElem?_eq_some_iff.mp hd
  refine ⟨rfl, ?_, ?_, fun _ _ => .inl⟩
  · intro other old hold
    by_cases heq : id = other
    · subst heq
      cases hd.symm.trans hold
      exact ⟨d', by simp [hlt], hc, by simp [ha]⟩
    · exact ⟨old, by simp [heq, hold], rfl, by simp⟩
  · intro other old hnone hold
    by_cases heq : id = other
    · subst heq
      cases hd.symm.trans hnone
    · simp [heq, hnone] at hold

theorem grows_append (hd : OfSource m name d) (ha : d.remoteAllowed = !m.isOffline name)
    (key : Key) (made : List String) :
    Grows [] m { m with
      pool := m.pool ++ [d], tracked := m.tracked ++ [(key, m.pool.length)], made := made } := by
  refine ⟨rfl, ?_, ?_, ?_⟩
  · intro other old hold
    obtain ⟨hlt, -⟩ := List.getElem?_eq_some_iff.mp hold
    exact ⟨old, by simp [List.getElem?_append_left hlt, hold], rfl, by simp⟩
  · intro other new hnone hnew
    have hle : m.pool.length ≤ other := List.getElem?_eq_none_iff.mp hnone
    rw [List.getElem?_append_right hle, List.getElem?_singleton] at hnew
    split at hnew
    · cases hnew
      exact ⟨name, hd, ha⟩
    · cases hnew
  · intro other id hentry
    rcases List.mem_append.mp hentry with hentry | hentry
    · exact .inl hentry
    · simp only [List.mem_singleton, Prod.mk.injEq] at hentry
      exact .inr (by simp [hentry.2])

theorem grows_untrack {kept : List (Key × Nat)} (hk : kept.Sublist m.tracked) :
    Grows [] m { m with tracked := kept } :=
  ⟨rfl, fun _ d h => ⟨d, h, rfl, by simp⟩, fun _ _ h h' => by simp [h] at h',
    fun _ _ hentry => .inl (hk.subset hentry)⟩

theorem grows_disable (m : Manager) (offline : List String) (ids : List Nat) :
    Grows ids m { m with offline := offline, pool := disableAt m.pool ids } := by
  refine ⟨rfl, ?_, ?_, fun _ _ => .inl⟩
  · intro id d hd
    refine ⟨if id ∈ ids then d.disableRemote else d, by simp [disableAt, hd], ?_, ?_⟩
    · split <;> rfl
    · split <;> simp_all [Descriptor.disableRemote]
  · intro id d' hnone hd'
    simp [disableAt, hnone] at hd'

-- ---------------------------------------------------------------------------
-- Steps and the pool
-- ---------------------------------------------------------------------------

theorem grows_descriptorFor (m : Manager) (name : String) (lon lat : Double) (world : World) :
    Grows [] m ((descriptorFor name lon lat).run (m, world)).2.1 := by
  rcases run_descriptorFor m name lon lat world with
    ⟨fault, hrun, -⟩ | ⟨source, hsource, rfl, index, -, ⟨id, -, hrun⟩ | hrun⟩
  · exact hrun ▸ .refl m
  · exact hrun ▸ .refl m
  · rw [hrun, run_track]
    exact grows_append ⟨source, hsource, rfl, index, newDescriptor_copy m source _⟩
      (newDescriptor_remoteAllowed m source _) _ _

theorem grows_disposeAll (m : Manager) (ids : List Nat) (world : World) :
    Grows [] m ((disposeAll ids).run (m, world)).2.1 ∧
      ((disposeAll ids).run (m, world)).2.1.offline = m.offline := by
  induction ids generalizing m world with
  | nil => exact ⟨.refl m, rfl⟩
  | cons id rest ih =>
    unfold disposeAll
    cases hd : m.pool[id]? with
    | none =>
      rw [run_bind_of_error (run_onDescriptor_missing hd _ world)]
      exact ⟨.refl m, rfl⟩
    | some d =>
      have hsteady := Descriptor.steady_dispose (d, world)
      rw [run_bind, run_onDescriptor hd, Descriptor.run_dispose]
      rw [Descriptor.run_dispose] at hsteady
      obtain ⟨hrest, hoffline⟩ := ih { m with pool := m.pool.set id _ } _
      exact ⟨(grows_set hd hsteady.alike.copy hsteady.remoteAllowed).trans hrest
        fun name => by simp only [isOffline, hoffline], hoffline⟩

theorem grows_release (m : Manager) (source : Option String) (world : World) :
    Grows [] m ((Manager.release source).run (m, world)).2.1 := by
  obtain ⟨ids, kept, hkept, hrun⟩ := run_untrack m source world
  obtain ⟨hdispose, hoffline⟩ := grows_disposeAll { m with tracked := kept } ids world
  have hgrows := (grows_untrack hkept).trans hdispose fun name => by
    simp only [isOffline, hoffline]
  unfold Manager.release
  rw [run_bind_of_ok hrun, run_bind]
  revert hgrows
  rcases (disposeAll ids).run ({ m with tracked := kept }, world) with ⟨fault | _, t⟩
  · exact fun h => h
  · exact fun h => h

-- ---------------------------------------------------------------------------
-- Coherent systems
-- ---------------------------------------------------------------------------

/-- The remote of the source's descriptors is enabled while the source is not
offline, and afterwards for those that are spared. -/
def Follows (m : Manager) (name : String) (spared : Nat → Prop) : Prop :=
  ∀ (id : Nat) d, m.pool[id]? = some d → OfSource m name d →
    (d.remoteAllowed ↔ m.isOffline name = false ∨ spared id)

structure Coherent (s : System) : Prop where
  consistent : Consistent s.manager
  follows : ∀ name, s.manager.isOffline name = false → Follows s.manager name fun _ => False
  held : ∀ (j : Nat) name id, s.requests[j]? = some (.holding name id) →
    ∃ d, s.manager.pool[id]? = some d ∧ OfSource s.manager name d
  raised : ∀ (j : Nat) name, s.requests[j]? = some (.raised name) →
    ∃ source ∈ Source.all, source.id = name

theorem acquire_cases (h : Coherent s) (i : Nat) :
    (Step.acquire i).after s = s ∨ ∃ name id d,
      s.requests[i]? = some (.holding name id) ∧ s.manager.pool[id]? = some d ∧
      OfSource s.manager name d ∧
      let ended := Descriptor.getTile.run (d, s.world)
      (Step.acquire i).after s = ⟨{ s.manager with pool := s.manager.pool.set id ended.2.1 },
        ended.2.2, s.requests.set i (.tried name ended.1)⟩ := by
  rcases hi : s.requests[i]? with _ | ⟨name, id⟩ | name | _
  · exact .inl (by simp [Step.after, hi])
  · obtain ⟨d, hd, hsource⟩ := h.held i name id hi
    exact .inr ⟨name, id, d, rfl, hd, hsource, after_acquire hi (run_onDescriptor hd _ _)⟩
  · exact .inl (by simp [Step.after, hi])
  · exact .inl (by simp [Step.after, hi])

theorem mark_cases (s : System) (i : Nat) :
    ((Step.mark i).after s = s ∧ (Step.mark i).marks s = none) ∨ ∃ name,
      s.requests[i]? = some (.raised name) ∧ (Step.mark i).marks s = some name ∧
      (Step.mark i).after s =
        ⟨((markOffline name).run (s.manager, s.world)).2.1, s.world, s.requests.set i .ended⟩ := by
  rcases hi : s.requests[i]? with _ | ⟨name, id⟩ | name | _
  · exact .inl (by simp [Step.after, Step.marks, hi])
  · exact .inl (by simp [Step.after, Step.marks, hi])
  · exact .inr ⟨name, rfl, by simp [Step.marks, hi], after_mark hi⟩
  · exact .inl (by simp [Step.after, Step.marks, hi])

theorem transition_after (h : Coherent s) (hne : ∀ i, step ≠ .acquire i) :
    Transition (step.marks s) (s.manager, s.world)
      ((step.after s).manager, (step.after s).world) := by
  cases step with
  | find name lon lat =>
    rcases descriptorFor_cases h.consistent name lon lat s.world with
      ⟨fault, hrun, -⟩ | ⟨id, t, tile, hrun, htransition, -⟩
    · rw [after_find hrun]
      exact .refl h.consistent
    · rw [after_find hrun]
      exact htransition
  | acquire i => exact absurd rfl (hne i)
  | mark i =>
    rcases mark_cases s i with ⟨hafter, hmarks⟩ | ⟨name, hi, hmarks, hafter⟩
    · rw [hafter, hmarks]
      exact .refl h.consistent
    · rw [hafter, hmarks]
      exact transition_markOffline h.consistent (h.raised i name hi) s.world
  | release source => exact transition_release h.consistent source s.world

theorem consistent_after (h : Coherent s) (step : Step) : Consistent (step.after s).manager := by
  have htransition : (∀ i, step ≠ .acquire i) → _ := transition_after h
  cases step with
  | find | mark | release => exact (htransition (by simp)).consistent
  | acquire i =>
    rcases acquire_cases h i with hafter | ⟨name, id, d, -, hd, -, hafter⟩
    · rw [hafter]
      exact h.consistent
    · have hsteady := Descriptor.steady_getTile (d, s.world)
      rw [hafter]
      exact consistent_set h.consistent hd hsteady.alike.copy hsteady.remoteAllowed

theorem offline_after (h : Coherent s) (step : Step) (name : String) :
    (step.after s).manager.isOffline name =
      (s.manager.isOffline name || decide (step.marks s = some name)) := by
  have htransition : (∀ i, step ≠ .acquire i) → _ := transition_after h
  cases step with
  | find | mark | release => exact (htransition (by simp)).offline name
  | acquire i =>
    rcases acquire_cases h i with hafter | ⟨_, _, _, -, -, -, hafter⟩
    · simp [hafter, Step.marks]
    · simp [hafter, Step.marks, isOffline]

def Step.disables (s : System) (step : Step) : List Nat :=
  match step.marks s with
  | some name =>
    if s.manager.isOffline name then []
    else (s.manager.tracked.filter (·.1.1 = name)).map (·.2)
  | none => []

theorem grows_after (h : Coherent s) (step : Step) :
    Grows (step.disables s) s.manager (step.after s).manager := by
  cases step with
  | find name lon lat => exact grows_descriptorFor s.manager name lon lat s.world
  | acquire i =>
    rcases acquire_cases h i with hafter | ⟨_, id, d, -, hd, -, hafter⟩
    · rw [hafter]
      exact .refl s.manager
    · have hsteady := Descriptor.steady_getTile (d, s.world)
      rw [hafter]
      exact grows_set hd hsteady.alike.copy hsteady.remoteAllowed
  | mark i =>
    rcases mark_cases s i with ⟨hafter, hmarks⟩ | ⟨name, hi, hmarks, hafter⟩
    · rw [hafter, Step.disables, hmarks]
      exact .refl s.manager
    · rw [hafter, Step.disables, hmarks]
      unfold markOffline
      rw [run_modifyOwn]
      cases ho : s.manager.isOffline name with
      | true => simpa [ho] using Grows.refl s.manager
      | false => simpa [ho] using grows_disable s.manager _ _
  | release source => exact grows_release s.manager source s.world

/-- Marking another source, or this one again, leaves its descriptors alone. -/
theorem not_mem_disables (h : Consistent s.manager)
    (hs : step.marks s ≠ some name ∨ s.manager.isOffline name) (hd : s.manager.pool[id]? = some d)
    (hsource : OfSource s.manager name d) : id ∉ step.disables s := by
  unfold Step.disables
  split
  · next marked hmarks =>
    split
    · simp
    · next ho =>
      intro hmem
      obtain ⟨⟨key, _⟩, hentry, rfl⟩ := List.mem_map.mp hmem
      obtain ⟨hentry, hkey⟩ := List.mem_filter.mp hentry
      obtain ⟨_, hsame, hfits⟩ := h.fits _ _ hentry
      cases hd.symm.trans hsame
      obtain rfl : marked = name :=
        (of_decide_eq_true hkey).symm.trans (hfits.ofSource.unique hsource)
      exact hs.elim (absurd hmarks) ho
  · simp

theorem follows_after (h : Coherent s) {spared : Nat → Prop}
    (hspared : ∀ id, spared id → id < s.manager.pool.length)
    (hs : step.marks s ≠ some name ∨ s.manager.isOffline name)
    (hf : Follows s.manager name spared) : Follows (step.after s).manager name spared := by
  have hgrows := grows_after h step
  have ho : (step.after s).manager.isOffline name = s.manager.isOffline name := by
    rw [offline_after h]
    rcases hs with hs | hs <;> simp [hs]
  intro id d' hd' hsource
  cases hd : s.manager.pool[id]? with
  | none =>
    obtain ⟨other, hother, hallowed⟩ := hgrows.made id d' hd hd'
    obtain rfl := hother.unique hsource
    have hnew : ¬ spared id := fun hold =>
      absurd (hspared id hold) (Nat.not_lt.mpr (List.getElem?_eq_none_iff.mp hd))
    simp [hallowed, hnew]
  | some d =>
    obtain ⟨_, hsame, hcopy, hallowed⟩ := hgrows.kept id d hd
    cases hd'.symm.trans hsame
    have hbefore : OfSource s.manager name d := hsource.mono hgrows.settings.symm hcopy.symm
    simp [hallowed, not_mem_disables h.consistent hs hd hbefore, ho, hf id d hd hbefore]

def Progress.Grounded (m : Manager) : Progress → Prop
  | holding name id => ∃ tile, ((name, tile), id) ∈ m.tracked
  | raised name => ∃ source ∈ Source.all, source.id = name
  | ended => True

theorem getElem?_concat_or {α : Type} {l : List α} {a b : α} {j : Nat}
    (h : (l ++ [a])[j]? = some b) : l[j]? = some b ∨ b = a := by
  by_cases hj : j < l.length
  · rw [List.getElem?_append_left hj] at h
    exact .inl h
  · rw [List.getElem?_append_right (Nat.not_lt.mp hj), List.getElem?_singleton] at h
    split at h
    · exact .inr (Option.some.inj h).symm
    · cases h

theorem getElem?_set_or {α : Type} {l : List α} {a b : α} {j : Nat}
    (h : (l.set i a)[j]? = some b) : l[j]? = some b ∨ b = a := by
  by_cases hj : i = j
  · rw [hj, List.getElem?_set_self'] at h
    obtain ⟨_, -, rfl⟩ := Option.map_eq_some_iff.mp h
    exact .inr rfl
  · rw [List.getElem?_set_ne hj] at h
    exact .inl h

theorem grounded_found (h : Coherent s) (name : String) (lon lat : Double) :
    let ended := (descriptorFor name lon lat).run (s.manager, s.world)
    (Progress.found name ended.1).Grounded ended.2.1 := by
  intro ended
  rcases descriptorFor_cases h.consistent name lon lat s.world with
    ⟨fault, hrun, -⟩ | ⟨id, t, tile, hrun, -, htracked⟩
  · rw [show ended = _ from hrun]
    trivial
  · rw [show ended = _ from hrun]
    exact ⟨tile, htracked⟩

theorem grounded_tried (h : OfSource m name d) (result : Except Fault (Option Loan)) :
    (Progress.tried name result).Grounded m' := by
  obtain ⟨source, hsource, hname, -⟩ := h
  rcases result with fault | loan
  · cases hf : isAcquisitionFault fault with
    | true => simpa [Progress.tried, raisedBy, hf] using ⟨source, hsource, hname⟩
    | false => simp [Progress.tried, raisedBy, hf, Progress.Grounded]
  · trivial

theorem request_after (h : Coherent s) (step : Step) {j : Nat} {p : Progress}
    (hp : (step.after s).requests[j]? = some p) :
    s.requests[j]? = some p ∨ p.Grounded (step.after s).manager := by
  cases step with
  | find name lon lat =>
    rcases getElem?_concat_or hp with hold | rfl
    · exact .inl hold
    · exact .inr (grounded_found h name lon lat)
  | acquire i =>
    rcases acquire_cases h i with hafter | ⟨name, id, d, -, -, hsource, hafter⟩
    · exact .inl (hafter ▸ hp)
    · rw [hafter] at hp
      rcases getElem?_set_or hp with hold | rfl
      · exact .inl hold
      · exact .inr (grounded_tried hsource _)
  | mark i =>
    rcases mark_cases s i with ⟨hafter, -⟩ | ⟨name, -, -, hafter⟩
    · exact .inl (hafter ▸ hp)
    · rw [hafter] at hp
      rcases getElem?_set_or hp with hold | rfl
      · exact .inl hold
      · exact .inr trivial
  | release source => exact .inl hp

theorem coherent_after (s : System) (step : Step) (h : Coherent s) : Coherent (step.after s) := by
  have hgrows := grows_after h step
  have hconsistent := consistent_after h step
  refine ⟨hconsistent, ?_, ?_, ?_⟩
  · intro name ho
    simp only [offline_after h, Bool.or_eq_false_iff, decide_eq_false_iff_not] at ho
    exact follows_after h (by simp) (.inl ho.2) (h.follows name ho.1)
  · intro j name id hj
    rcases request_after h step hj with hold | ⟨tile, htracked⟩
    · obtain ⟨d, hd, hsource⟩ := h.held j name id hold
      obtain ⟨d', hd', hcopy, -⟩ := hgrows.kept id d hd
      exact ⟨d', hd', hsource.mono hgrows.settings hcopy⟩
    · obtain ⟨d, hd, hfits⟩ := hconsistent.fits _ _ htracked
      exact ⟨d, hd, hfits.ofSource⟩
  · intro j name hj
    exact (request_after h step hj).elim (h.raised j name) fun hknown => hknown

theorem coherent_start (settings : Settings) (world : World) :
    Coherent { manager := ofSettings settings, world } := by
  refine ⟨consistent_ofSettings settings, ?_, by simp, by simp⟩
  intro name _ id d hd
  simp [ofSettings] at hd

theorem coherent_afterSteps (settings : Settings) (world : World) (steps : List Step) :
    let s := afterSteps steps { manager := ofSettings settings, world }
    Coherent s ∧ s.manager.settings = settings :=
  invariant_afterSteps (P := fun s => Coherent s ∧ s.manager.settings = settings)
    (fun s step h => ⟨coherent_after s step h.1, (grows_after h.1 step).settings.trans h.2⟩)
    ⟨coherent_start settings world, rfl⟩ steps

end TerrainTiles.Manager
