import TerrainTiles.Proofs.Files.Content
import Mathlib.Order.Defs.Unbundled

/-!
# Making room for a file

Directories are made where nothing was, and only at a path and above it
(`makes_makeDirectories`). Those that were made are there, and making them again
changes nothing (`makeDirectories_of_isDirectory`). A file that was written can be removed
(`Holds.unlink`).
-/

namespace TerrainTiles

/-- The path of the directory itself or of one above it. -/
structure Path.IsAbove (above path : Path) : Prop where
  anchor : above.anchor = path.anchor
  names : above.names <+: path.names

theorem Path.isAbove_self (path : Path) : path.IsAbove path := ⟨rfl, List.prefix_rfl⟩

namespace FileSystem

variable {fs fs' : FileSystem} {path directory : Path} {loc : Location}

-- ---------------------------------------------------------------------------
-- Directories that are made
-- ---------------------------------------------------------------------------

theorem KeepsDirectories.refl (fs : FileSystem) : fs.KeepsDirectories fs := fun _ h => h

theorem KeepsDirectories.trans {fs'' : FileSystem} (h : fs.KeepsDirectories fs')
    (h' : fs'.KeepsDirectories fs'') : fs.KeepsDirectories fs'' := fun loc hd => h' loc (h loc hd)

theorem isDirectory_iff :
    fs.isDirectory path ↔ ∃ loc, fs.locate path = .ok loc ∧ fs.node? loc = some .directory := by
  unfold isDirectory at?
  cases fs.locate path <;> simp

theorem KeepsDirectories.isDirectory (h : fs.KeepsDirectories fs') (hd : fs.isDirectory path) :
    fs'.isDirectory path := by
  obtain ⟨loc, hl, hn⟩ := isDirectory_iff.mp hd
  exact isDirectory_iff.mpr ⟨loc, locate_of_keepsDirectories h hl, h loc hn⟩

theorem makeDirectory_ok (h : fs.makeDirectory path = .ok fs') :
    fs.KeepsDirectories fs' ∧ fs'.isDirectory path := by
  unfold makeDirectory at h
  cases hl : fs.locate path with
  | error e => simp [hl, bind, Except.bind] at h
  | ok loc =>
    simp only [hl, bind, Except.bind] at h
    split at h
    · cases h
    · next hn =>
      obtain rfl : fs.set loc .directory = fs' := Except.ok.inj h
      have hne : fs.node? loc ≠ some .directory := by simp [hn]
      have hkeeps : fs.KeepsDirectories (fs.set loc .directory) := keepsDirectories_set hne
      exact ⟨hkeeps, isDirectory_iff.mpr ⟨loc, locate_of_keepsDirectories hkeeps hl,
        node?_set fs _ (ne_nil_of_node? hne)⟩⟩

theorem ensureDirectory_ok (h : fs.ensureDirectory path = .ok fs') :
    fs.KeepsDirectories fs' ∧ fs'.isDirectory path := by
  unfold ensureDirectory at h
  split at h
  · next made hmade =>
    cases h
    exact makeDirectory_ok hmade
  · split at h
    · next hd =>
      cases h
      exact ⟨.refl fs, hd.2⟩
    · cases h

theorem ensureDirectory_of_isDirectory (h : fs.isDirectory path) :
    fs.ensureDirectory path = .ok fs := by
  obtain ⟨loc, hl, hn⟩ := isDirectory_iff.mp h
  have hmake : fs.makeDirectory path = .error ⟨.occupied, path.text⟩ := by
    simp only [makeDirectory, hl, hn, bind, Except.bind]
    rfl
  simp [ensureDirectory, hmake, h]

theorem isDirectory_makeUpwards {anchor : Anchor} {names : List String}
    (h : (makeUpwards anchor names fs).1 = .ok ()) :
    (makeUpwards anchor names fs).2.isDirectory ⟨anchor, names.reverse⟩ := by
  cases names with
  | nil =>
    unfold makeUpwards at h ⊢
    split at h
    · next made hmade => exact (ensureDirectory_ok hmade).2
    · cases h
  | cons name above =>
    unfold makeUpwards at h ⊢
    dsimp only at h ⊢
    split at h
    · next made hmade => exact (ensureDirectory_ok hmade).2
    · split at h
      · next hcode =>
        rw [if_pos hcode]
        split at h
        · cases h
        · split at h
          · next made hmade => exact (ensureDirectory_ok hmade).2
          · cases h
      · cases h

theorem makeUpwards_of_isDirectory {anchor : Anchor} {names : List String}
    (h : fs.isDirectory ⟨anchor, names.reverse⟩) : makeUpwards anchor names fs = (.ok (), fs) := by
  have hensure := ensureDirectory_of_isDirectory h
  cases names with
  | nil => simp only [makeUpwards, show fs.ensureDirectory ⟨anchor, []⟩ = .ok fs from hensure]
  | cons name above => simp only [makeUpwards, hensure]

theorem isDirectory_makeDirectories (h : (fs.makeDirectories path).1 = .ok ()) :
    (fs.makeDirectories path).2.isDirectory path := by
  have hdirectory := isDirectory_makeUpwards h
  rwa [List.reverse_reverse] at hdirectory

theorem makeDirectories_of_isDirectory (h : fs.isDirectory path) :
    fs.makeDirectories path = (.ok (), fs) :=
  makeUpwards_of_isDirectory (by rwa [List.reverse_reverse])

-- ---------------------------------------------------------------------------
-- Directories above
-- ---------------------------------------------------------------------------

structure Makes (directory : Path) (fs fs' : FileSystem) : Prop where
  keeps : fs.KeepsDirectories fs'
  nodes : ∀ loc, fs'.node? loc = fs.node? loc ∨
    fs.node? loc = none ∧ fs'.node? loc = some .directory ∧
      ∃ above : Path, above.IsAbove directory ∧ fs'.locate above = .ok loc

instance (directory : Path) : IsPreorder FileSystem (Makes directory) where
  refl fs := ⟨.refl fs, fun _ => .inl rfl⟩
  trans fs fs' fs'' h h' := by
    refine ⟨h.keeps.trans h'.keeps, fun loc => ?_⟩
    rcases h'.nodes loc with hsame' | ⟨hnone, hmade⟩
    · rcases h.nodes loc with hsame | ⟨hnone, hd, above, habove, hl⟩
      · exact .inl (hsame'.trans hsame)
      · exact .inr ⟨hnone, hsame'.trans hd, above, habove,
          locate_of_keepsDirectories h'.keeps hl⟩
    · rcases h.nodes loc with hsame | ⟨-, hd, -⟩
      · exact .inr ⟨hsame ▸ hnone, hmade⟩
      · simp [hnone] at hd

theorem makes_makeDirectory (h : fs.makeDirectory path = .ok fs') (hpath : path.IsAbove directory) :
    fs.Makes directory fs' := by
  have hkeeps := (makeDirectory_ok h).1
  unfold makeDirectory at h
  cases hl : fs.locate path with
  | error e => simp [hl, bind, Except.bind] at h
  | ok made =>
    simp only [hl, bind, Except.bind] at h
    split at h
    · cases h
    · next hn =>
      obtain rfl : fs.set made .directory = fs' := Except.ok.inj h
      refine ⟨hkeeps, fun loc => ?_⟩
      have hne : fs.node? made ≠ some .directory := by simp [hn]
      by_cases hloc : loc = made
      · subst hloc
        exact .inr ⟨hn, node?_set fs _ (ne_nil_of_node? hne), path, hpath,
          locate_of_keepsDirectories hkeeps hl⟩
      · exact .inl (node?_set_ne fs _ hloc)

theorem makes_ensureDirectory (h : fs.ensureDirectory path = .ok fs')
    (hpath : path.IsAbove directory) : fs.Makes directory fs' := by
  unfold ensureDirectory at h
  split at h
  · next made hmade =>
    cases h
    exact makes_makeDirectory hmade hpath
  · split at h
    · cases h
      exact Std.Refl.refl fs
    · cases h

theorem makes_makeUpwards (anchor : Anchor) (names : List String) (fs : FileSystem)
    (h : (⟨anchor, names.reverse⟩ : Path).IsAbove directory) :
    fs.Makes directory (makeUpwards anchor names fs).2 := by
  induction names generalizing fs with
  | nil =>
    unfold makeUpwards
    split
    · next made hmade => exact makes_ensureDirectory hmade h
    · exact Std.Refl.refl fs
  | cons name above ih =>
    have habove : (⟨anchor, above.reverse⟩ : Path).IsAbove directory := by
      refine ⟨h.anchor, List.IsPrefix.trans ?_ h.names⟩
      exact List.reverse_cons ▸ List.prefix_append _ _
    unfold makeUpwards
    dsimp only
    split
    · next made hmade => exact makes_ensureDirectory hmade h
    · split
      · have hup := ih fs habove
        split
        · next hrun => exact hrun ▸ hup
        · next left hrun =>
          have hleft : fs.Makes directory left := by simpa [hrun] using hup
          split
          · next made hmade => exact IsTrans.trans _ _ _ hleft (makes_ensureDirectory hmade h)
          · exact hleft
      · exact Std.Refl.refl fs

theorem makes_makeDirectories (fs : FileSystem) (directory : Path) :
    fs.Makes directory (fs.makeDirectories directory).2 := by
  refine makes_makeUpwards directory.anchor directory.names.reverse fs ?_
  rw [List.reverse_reverse]
  exact directory.isAbove_self

theorem keepsDirectories_makeDirectories (fs : FileSystem) (path : Path) :
    fs.KeepsDirectories (fs.makeDirectories path).2 := (makes_makeDirectories fs path).keeps

-- ---------------------------------------------------------------------------
-- Room for a file
-- ---------------------------------------------------------------------------

/-- A file can be written at the path, once the directories it is to stand in are made. -/
structure Receptive (fs : FileSystem) (path : Path) : Prop where
  directories : (fs.makeDirectories path.parent).1 = .ok ()
  creates : ∃ made, (fs.makeDirectories path.parent).2.create path = .ok made

theorem create_ok_iff : (∃ made, fs.create path = .ok made) ↔
    ∃ loc, fs.locate path = .ok loc ∧ fs.node? loc ≠ some .directory := by
  unfold create
  cases hl : fs.locate path with
  | error e => simp [bind, Except.bind]
  | ok loc =>
    rcases hn : fs.node? loc with _ | _ | content
    · simp [hn, bind, Except.bind, pure, Except.pure]
    · simp [hn, bind, Except.bind, throw, throwThe, MonadExceptOf.throw]
    · simp [hn, bind, Except.bind, pure, Except.pure]

theorem create_of_ne_directory (hl : fs.locate path = .ok loc)
    (hn : fs.node? loc ≠ some .directory) : fs.create path = .ok (loc, fs.set loc (.file [])) := by
  unfold create
  rcases hnode : fs.node? loc with _ | _ | content
  · simp [hl, hnode, bind, Except.bind, pure, Except.pure]
  · exact absurd hnode hn
  · simp [hl, hnode, bind, Except.bind, pure, Except.pure]

theorem read_of_content? {content : Bytes} (h : fs.content? path = some content) :
    fs.read path = .ok content := by
  rw [← toOption_read] at h
  cases hr : fs.read path with
  | error e => simp [hr, Except.toOption] at h
  | ok found => simpa [hr, Except.toOption] using h

theorem Holds.unlink {content : Bytes} (h : fs.Holds path loc content) :
    fs.unlink path = .ok (fs.erase loc) := by
  simp [FileSystem.unlink, h.leads, h.node]

end FileSystem

end TerrainTiles
