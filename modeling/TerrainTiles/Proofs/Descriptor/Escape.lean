import TerrainTiles.Proofs.Descriptor.Acquisition

/-!
# What escapes from `getTile`

Only the fault of an unreachable source is meant to come out of `getTile`. The
decoder's faults are all caught (`finish_error`). A fetcher's are too, but the
archive is then removed, and where that is refused the refusal comes out
(`escapes_acquireRemote`). The other way out is an archive without a name.
Together these are all there is (`escapes_getTile_iff`).
-/

namespace TerrainTiles.Descriptor

open Act

/-- A fault other than that of an unreachable source. -/
def Escapes {α : Type} (result : Except Fault α) : Prop :=
  ∃ fault, result = .error fault ∧ fault.kind ≠ .acquisition

def Refuses (files : FileSystem) (path : Path) : Prop :=
  files.isDirectory path ∨ ∃ e, files.locate path = .error e ∧ e.code ≠ .notFound

variable {d : Descriptor} {world : World} {path : Path} {fault : Fault}

theorem escapes_ok {α : Type} (a : α) : ¬ Escapes (.ok a) := by
  rintro ⟨fault, h, -⟩
  cases h

theorem escapes_error : Escapes (.error fault : Except Fault α) ↔ fault.kind ≠ .acquisition := by
  constructor
  · rintro ⟨fault, h, hk⟩
    cases h
    exact hk
  · intro hk
    exact ⟨fault, rfl, hk⟩

instance {α : Type} (result : Except Fault α) : Decidable (Escapes result) :=
  match result with
  | .ok a => .isFalse (escapes_ok a)
  | .error _ => decidable_of_iff _ escapes_error.symm

theorem refuses_iff (files : FileSystem) (path : Path) :
    Refuses files path ↔ ∃ e, files.unlink path = .error e := by
  unfold Refuses
  simp only [FileSystem.unlink_error_iff]
  constructor
  · rintro (h | ⟨e, h⟩)
    · exact ⟨_, .inl ⟨h, rfl⟩⟩
    · exact ⟨e, .inr h⟩
  · rintro ⟨e, ⟨h, -⟩ | h⟩
    · exact .inl h
    · exact .inr ⟨e, h⟩

theorem kind_file (e : FileError) : (Fault.file e).kind ≠ .acquisition := by
  simp only [Fault.kind]
  split <;> simp

theorem kind_of_archive_error {copy : LocalCopy} (h : copy.archive = .error fault) :
    fault.kind ≠ .acquisition := by
  unfold LocalCopy.archive at h
  cases ht : Text.fillTemplate [("stem", copy.plain.stem)] copy.template with
  | error e =>
    simp only [ht, mapError_error, bind, Except.bind, Except.error.injEq] at h
    subst h
    simp only [Fault.kind]
    split <;> simp
  | ok name =>
    simp only [ht, mapError_ok, bind, Except.bind] at h
    cases hwith : copy.plain.withName name with
    | error e =>
      rw [hwith, mapError_error, Except.error.injEq] at h
      simp [← h, Fault.kind]
    | ok archive => simp [hwith] at h

-- ---------------------------------------------------------------------------
-- Decoding
-- ---------------------------------------------------------------------------

theorem finish_error {preferred : Option Path}
    (h : ((finish preferred).run (d, world)).1 = .error fault) :
    d.copy.locate world.files = .error fault := by
  obtain ⟨result, d', left, hrun, -, hfinished⟩ := run_finish d preferred world
  rw [hrun] at h
  cases hfinished with
  | nameless hchosen =>
    cases h
    unfold chosen at hchosen
    split at hchosen
    · cases hchosen
    · exact hchosen
  | empty => cases h
  | lent => cases h

theorem escapes_finish_none :
    Escapes ((finish none).run (d, world)).1 ↔
      world.files.isFile d.copy.plain = false ∧ ∃ fault, d.copy.archive = .error fault := by
  constructor
  · rintro ⟨fault, h, -⟩
    obtain ⟨hplain, ha⟩ := locate_error.mp (finish_error h)
    exact ⟨hplain, fault, ha⟩
  · rintro ⟨hplain, fault, ha⟩
    have hnone : d.chosen none world.files = .error fault := locate_error.mpr ⟨hplain, ha⟩
    obtain ⟨result, d', left, hrun, -, hfinished⟩ := run_finish d none world
    rw [hrun]
    cases hfinished with
    | nameless hchosen =>
      rw [hnone] at hchosen
      cases hchosen
      exact escapes_error.mpr (kind_of_archive_error ha)
    | empty hchosen => rw [hnone] at hchosen; cases hchosen
    | lent hchosen => rw [hnone] at hchosen; cases hchosen

-- ---------------------------------------------------------------------------
-- Fetching
-- ---------------------------------------------------------------------------

theorem kind_unreachable (d : Descriptor) (cause : Option Fault) :
    (d.unreachable cause).kind = .acquisition := rfl

theorem escapes_acquireRemote (ha : d.copy.archive = .ok path) :
    Escapes (acquireRemote.run (d, world)).1 ↔ ∃ fetcher, d.fetcher = some fetcher ∧
      (∃ fault, (asked fetcher path world).1 = .error fault) ∧
      Refuses (asked fetcher path world).2.2.files path := by
  rw [run_acquireRemote]
  cases hf : d.fetcher with
  | none =>
    rw [run_fetchRemote_none hf]
    refine iff_of_false (escapes_ok _) ?_
    rintro ⟨fetcher, ⟨⟩, -⟩
  | some fetcher =>
    rw [run_fetchRemote hf ha]
    simp only [Option.some.injEq, exists_eq_left']
    rcases asked fetcher path world with ⟨fault | outcome, f', left⟩
    · rw [refuses_iff]
      dsimp only
      cases left.files.unlink path with
      | ok files => exact iff_of_false (escapes_ok _) (by simp)
      | error e => exact iff_of_true (escapes_error.mpr (kind_file e)) (by simp)
    · refine iff_of_false ?_ (by simp)
      cases outcome with
      | success value =>
        rintro ⟨fault, h, -⟩
        have hlocate := finish_error h
        rw [(locate_error.mp hlocate).2] at ha
        cases ha
      | absent => exact escapes_ok _
      | recoverable => exact escapes_ok _
      | fatal => rw [escapes_error, kind_unreachable]; simp

theorem escapes_acquireRemote_nameless (hr : d.remoteEnabled) (ha : d.copy.archive = .error fault) :
    Escapes (acquireRemote.run (d, world)).1 := by
  cases hf : d.fetcher with
  | none => simp [remoteEnabled, hf] at hr
  | some fetcher =>
    rw [run_acquireRemote, run_fetchRemote_nameless hf ha]
    exact escapes_error.mpr (kind_of_archive_error ha)

-- ---------------------------------------------------------------------------
-- The whole acquisition
-- ---------------------------------------------------------------------------

/-- The archive has a name, its fetch fails, and what is then at its path cannot
be removed; or it has no name where one is needed. -/
def Obstructed (d : Descriptor) (world : World) : Prop :=
  match d.copy.archive with
  | .ok path => ∃ state fetcher, d.probed world.files = .ok state ∧
      (state = .remote ∨ state = .localError) ∧ d.remoteEnabled ∧ d.fetcher = some fetcher ∧
      (∃ fault, (asked fetcher path world).1 = .error fault) ∧
      Refuses (asked fetcher path world).2.2.files path
  | .error _ => if d.state = .remote ∨ d.state = .localError then d.remoteEnabled = true
      else world.files.isFile d.copy.plain = false

theorem escapes_settled {answer : Except Fault (Option Loan)} (h : d.settled? = some answer) :
    ¬ Escapes answer := by
  unfold settled? at h
  split at h
  · cases h
    exact escapes_ok _
  · split at h
    · cases h
      exact escapes_ok _
    · split at h
      · cases h
        rw [escapes_error, kind_unreachable]
        simp
      · cases h

theorem probed_error : d.probed world.files = .error fault ↔
    d.state = .unknown ∧ world.files.isFile d.copy.plain = false ∧
      d.copy.archive = .error fault := by
  rw [← locate_error]
  unfold probed LocalCopy.isPresent
  split
  · cases d.copy.locate world.files <;> simp_all [Except.map]
  · simp_all

theorem probed_nameless {state : State} (ha : d.copy.archive = .error fault)
    (h : d.probed world.files = .ok state) :
    (state = .remote ∨ state = .localError) ↔ (d.state = .remote ∨ d.state = .localError) := by
  by_cases hu : d.state = .unknown
  · have hplain : d.copy.locate world.files = .ok (some d.copy.plain) := by
      cases hl : d.copy.locate world.files with
      | error e => simp [probed, hu, LocalCopy.isPresent, hl, Except.map] at h
      | ok found =>
        cases hf : world.files.isFile d.copy.plain with
        | true => simp [← hl, LocalCopy.locate, LocalCopy.plainExists, hf, pure, Except.pure]
        | false => rw [locate_error.mpr ⟨hf, ha⟩] at hl; cases hl
    simp only [probed, hu, if_true, LocalCopy.isPresent, hplain, Except.map, Option.isSome_some,
      Except.ok.injEq] at h
    subst h
    simp [hu]
  · simp only [probed, hu, if_false, Except.ok.injEq] at h
    rw [h]

/-- With a name for the archive, only a failed fetch lets a fault out. -/
theorem escapes_named (ha : d.copy.archive = .ok path) {state : State}
    (hprobed : d.probed world.files = .ok state) (hs : d.settled? = none) :
    Escapes (getTile.run (d, world)).1 ↔ d.Obstructed world := by
  rw [run_getTile, hs]
  unfold Obstructed
  simp only [hprobed, ha, Except.ok.injEq]
  split
  · next hstate =>
    split
    · next hr =>
      rw [escapes_acquireRemote (d := { d with state }) ha]
      constructor
      · rintro ⟨fetcher, h⟩
        exact ⟨state, fetcher, rfl, hstate, hr, h⟩
      · rintro ⟨_, fetcher, rfl, -, -, h⟩
        exact ⟨fetcher, h⟩
    · next hr =>
      refine iff_of_false (escapes_ok _) ?_
      rintro ⟨_, _, -, -, h, -⟩
      exact hr h
  · next hstate =>
    rw [escapes_finish_none]
    refine iff_of_false ?_ ?_
    · rintro ⟨-, fault, h⟩
      rw [show d.copy.archive = .error fault from h] at ha
      cases ha
    · rintro ⟨_, _, rfl, h, -⟩
      exact hstate h

theorem escapes_nameless (ha : d.copy.archive = .error fault) {state : State}
    (hprobed : d.probed world.files = .ok state) (hs : d.settled? = none) :
    Escapes (getTile.run (d, world)).1 ↔ d.Obstructed world := by
  rw [run_getTile, hs]
  unfold Obstructed
  simp only [hprobed, ha, probed_nameless ha hprobed]
  split
  · split
    · next hr =>
      exact iff_of_true (escapes_acquireRemote_nameless (d := { d with state }) hr ha) hr
    · next hr => exact iff_of_false (escapes_ok _) hr
  · rw [escapes_finish_none]
    constructor
    · exact And.left
    · exact fun hplain => ⟨hplain, fault, ha⟩

/-- A fault other than that of an unreachable source comes out of `getTile`
exactly where the archive is obstructed. -/
theorem escapes_getTile_iff (d : Descriptor) (world : World) :
    Escapes (getTile.run (d, world)).1 ↔ d.settled? = none ∧ d.Obstructed world := by
  cases hs : d.settled? with
  | some answer =>
    rw [run_getTile, hs]
    exact iff_of_false (escapes_settled hs) (by simp)
  | none =>
    rw [and_iff_right rfl]
    cases hprobed : d.probed world.files with
    | error fault =>
      -- The probe itself needs the name only if there is no plain file.
      obtain ⟨hunknown, hplain, ha⟩ := probed_error.mp hprobed
      have hstate : ¬ (d.state = .remote ∨ d.state = .localError) := by simp [hunknown]
      rw [run_getTile, hs, hprobed]
      unfold Obstructed
      simp only [ha, if_neg hstate]
      exact iff_of_true (escapes_error.mpr (kind_of_archive_error ha)) hplain
    | ok state =>
      cases ha : d.copy.archive with
      | ok path => exact escapes_named ha hprobed hs
      | error fault => exact escapes_nameless ha hprobed hs

/-- A descriptor whose archive cannot be written because a directory has its
path, and an answer that would be written there. -/
def shadowed : Descriptor × World :=
  ({ copy := { plain := ⟨.root, ["dem", "t.tif"]⟩, template := "t.zip" },
     fetcher := some (.http { base := "http://host", channel := 0 }) },
   { files := ⟨[(["dem"], .directory), (["dem", "t.zip"], .directory)]⟩
     decoder := .scripted [] (.ok none)
     replies := fun _ => [.answered { chunks := [[1]] }] })

theorem escapes_shadowed : Escapes (getTile.run shadowed).1 := by
  decide +kernel

end TerrainTiles.Descriptor
