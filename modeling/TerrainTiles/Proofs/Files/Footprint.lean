import TerrainTiles.Proofs.Files.Creation

/-!
# What is touched

While archives are written, the files that their paths lead to may change, and the
directories above them may be made: `Touches`. Each operation on an archive touches no
more than that, and operations in a row together touch no more either.

Directories stay once they are there, so a path that has led somewhere leads there to
the end. That is why the end decides which files are meant.
-/

namespace TerrainTiles

namespace FileSystem

variable {fs fs' : FileSystem} {path : Path} {loc : Location}
  {archives others : Path → Prop}

-- ---------------------------------------------------------------------------
-- Touching
-- ---------------------------------------------------------------------------

/-- No file is made, changed or deleted but those that the archives' paths lead to, no
directory is deleted, and those that are made are above an archive. -/
structure Touches (archives : Path → Prop) (fs fs' : FileSystem) : Prop where
  keeps : fs.KeepsDirectories fs'
  files : ∀ loc, (∀ path, archives path → fs'.locate path ≠ .ok loc) → ∀ content,
    fs'.node? loc = some (.file content) ↔ fs.node? loc = some (.file content)
  directories : ∀ loc, fs'.node? loc = some .directory → fs.node? loc = some .directory ∨
    ∃ path above : Path, archives path ∧ above.IsAbove path.parent ∧ fs'.locate above = .ok loc

instance (archives : Path → Prop) : IsPreorder FileSystem (Touches archives) where
  refl fs := ⟨.refl fs, fun _ _ _ => Iff.rfl, fun _ => .inl⟩
  trans fs fs' fs'' h h' := by
    refine ⟨h.keeps.trans h'.keeps, ?_, ?_⟩
    · intro loc hfree content
      have hbefore : ∀ path, archives path → fs'.locate path ≠ .ok loc := fun path hpath hl =>
        hfree path hpath (locate_of_keepsDirectories h'.keeps hl)
      exact (h'.files loc hfree content).trans (h.files loc hbefore content)
    · intro loc hd
      rcases h'.directories loc hd with hd' | hmade
      · refine (h.directories loc hd').imp_right ?_
        rintro ⟨path, above, hpath, habove, hl⟩
        exact ⟨path, above, hpath, habove, locate_of_keepsDirectories h'.keeps hl⟩
      · exact .inr hmade

theorem Touches.mono (h : fs.Touches archives fs') (hsub : ∀ path, archives path → others path) :
    fs.Touches others fs' := by
  refine ⟨h.keeps, fun loc hfree => h.files loc fun path hpath => hfree path (hsub path hpath), ?_⟩
  intro loc hd
  refine (h.directories loc hd).imp_right ?_
  rintro ⟨path, above, hpath, hrest⟩
  exact ⟨path, above, hsub path hpath, hrest⟩

theorem Makes.touches (h : fs.Makes path.parent fs') (hpath : archives path) :
    fs.Touches archives fs' := by
  refine ⟨h.keeps, fun loc _ content => ?_, fun loc hd => ?_⟩
  · rcases h.nodes loc with hsame | ⟨hnone, hmade, -⟩
    · rw [hsame]
    · simp [hnone, hmade]
  · rcases h.nodes loc with hsame | ⟨-, -, above, habove, hl⟩
    · exact .inl (hsame ▸ hd)
    · exact .inr ⟨path, above, hpath, habove, hl⟩

theorem touches_makeDirectories (hpath : archives path) (fs : FileSystem) :
    fs.Touches archives (fs.makeDirectories path.parent).2 :=
  (makes_makeDirectories fs path.parent).touches hpath

theorem touches_change (hpath : archives path) (hl : fs.locate path = .ok loc)
    (hkeeps : fs.KeepsDirectories fs') (hnode : fs'.node? loc ≠ some .directory)
    (hothers : ∀ other, other ≠ loc → fs'.node? other = fs.node? other) :
    fs.Touches archives fs' := by
  have hl' : fs'.locate path = .ok loc := locate_of_keepsDirectories hkeeps hl
  refine ⟨hkeeps, fun other hfree content => ?_, fun other hd => ?_⟩
  · have hne : other ≠ loc := by
      rintro rfl
      exact hfree path hpath hl'
    rw [hothers other hne]
  · have hne : other ≠ loc := by
      rintro rfl
      exact hnode hd
    exact .inl (hothers other hne ▸ hd)

theorem touches_setFile (hpath : archives path) (hl : fs.locate path = .ok loc)
    (hn : fs.node? loc ≠ some .directory) (content : Bytes) :
    fs.Touches archives (fs.set loc (.file content)) := by
  refine touches_change hpath hl (keepsDirectories_set hn) ?_ fun other => node?_set_ne fs _
  simp [node?_set fs _ (ne_nil_of_node? hn)]

theorem touches_create (hpath : archives path) (h : fs.create path = .ok (loc, fs')) :
    fs.Touches archives fs' ∧ fs'.locate path = .ok loc := by
  obtain ⟨found, hl, hn⟩ := create_ok_iff.mp ⟨_, h⟩
  rw [create_of_ne_directory hl hn] at h
  obtain ⟨rfl, rfl⟩ := Prod.mk.inj (Except.ok.inj h)
  exact ⟨touches_setFile hpath hl hn [], locate_of_keepsDirectories (keepsDirectories_set hn) hl⟩

theorem touches_append (hpath : archives path) (hl : fs.locate path = .ok loc) (chunk : Bytes) :
    fs.Touches archives (fs.append loc chunk) := by
  unfold append
  split
  · next hn => exact touches_setFile hpath hl (by simp [hn]) _
  · exact Std.Refl.refl fs

theorem touches_unlink (hpath : archives path) (h : fs.unlink path = .ok fs') :
    fs.Touches archives fs' := by
  unfold unlink at h
  cases hl : fs.locate path with
  | error e =>
    simp only [hl] at h
    split at h
    · cases h
      exact Std.Refl.refl fs
    · cases h
  | ok loc =>
    simp only [hl] at h
    split at h
    · next content hn =>
      cases h
      have hne : fs.node? loc ≠ some .directory := by simp [hn]
      refine touches_change hpath hl (keepsDirectories_erase hne) ?_ fun other => node?_erase_ne fs
      simp [node?_erase fs (ne_nil_of_node? hne)]
    · cases h
    · cases h
      exact Std.Refl.refl fs

end FileSystem

end TerrainTiles
