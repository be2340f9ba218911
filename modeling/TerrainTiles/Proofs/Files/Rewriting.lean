import TerrainTiles.Proofs.Files.Creation

/-!
# Files that are written again

What a file is written with last is all that counts: writing it once more, or in
pieces, or after it was removed makes no difference (`set_set`, `appendAll_set`,
`set_erase`). So where a file was perhaps removed (`Cleared`), a path can be written,
emptied and removed as if nothing had happened.
-/

namespace TerrainTiles.FileSystem

variable {fs fs' : FileSystem} {path : Path} {loc : Location} {data : Bytes} {e : FileError}

-- ---------------------------------------------------------------------------
-- One location
-- ---------------------------------------------------------------------------

theorem erase_erase (fs : FileSystem) (loc : Location) : (fs.erase loc).erase loc = fs.erase loc := by
  simp [erase]

theorem erase_set (fs : FileSystem) (loc : Location) (node : Node) :
    (fs.set loc node).erase loc = fs.erase loc := by
  simp [set, erase]

theorem set_erase (fs : FileSystem) (loc : Location) (node : Node) :
    (fs.erase loc).set loc node = fs.set loc node := by
  rw [set, erase_erase, set]

theorem set_set (fs : FileSystem) (loc : Location) (first node : Node) :
    (fs.set loc first).set loc node = fs.set loc node := by
  rw [set, erase_set, set]

theorem erase_of_node?_none (h : fs.node? loc = none) : fs.erase loc = fs := by
  have hdirectory : fs.node? loc ≠ some .directory := by simp [h]
  have hne : loc ≠ [] := ne_nil_of_node? hdirectory
  have hentries : ∀ entry ∈ fs.entries, entry.1 ≠ loc := by
    simp only [node?, if_neg hne, List.lookup_eq_none_iff, bne_iff_ne] at h
    exact fun entry hentry => (h entry hentry).symm
  rw [erase, List.filter_eq_self.mpr (by simpa using hentries)]

theorem appendAll_set (fs : FileSystem) (hloc : loc ≠ []) (data : Bytes) (chunks : List Bytes) :
    chunks.foldl (fun fs => fs.append loc) (fs.set loc (.file data)) =
      fs.set loc (.file (data ++ chunks.flatten)) := by
  induction chunks generalizing data with
  | nil => simp
  | cons chunk rest ih =>
    have happend : (fs.set loc (.file data)).append loc chunk = fs.set loc (.file (data ++ chunk)) := by
      simp only [append, node?_set fs _ hloc, set_set]
    rw [List.foldl_cons, happend, ih, List.flatten_cons, List.append_assoc]

-- ---------------------------------------------------------------------------
-- One path
-- ---------------------------------------------------------------------------

theorem create_eq_ok (h : fs.create path = .ok (loc, fs')) :
    fs.locate path = .ok loc ∧ fs.node? loc ≠ some .directory ∧ fs' = fs.set loc (.file []) := by
  obtain ⟨found, hl, hn⟩ := create_ok_iff.mp ⟨_, h⟩
  rw [create_of_ne_directory hl hn] at h
  obtain ⟨rfl, rfl⟩ := Prod.mk.inj (Except.ok.inj h)
  exact ⟨hl, hn, rfl⟩

/-- Where no file can be opened there is none to remove, and most often this fails too. -/
theorem unlink_of_create_error (h : fs.create path = .error e) :
    fs.unlink path = .error e ∨ e.code = .notFound ∧ fs.unlink path = .ok fs := by
  unfold create at h
  unfold unlink
  cases hl : fs.locate path with
  | error e' =>
    simp only [hl, bind, Except.bind, Except.error.injEq] at h
    subst h
    dsimp only
    split
    · next hcode => exact .inr ⟨hcode, rfl⟩
    · exact .inl rfl
  | ok loc =>
    simp only [hl, bind, Except.bind] at h
    split at h
    · next hn =>
      simp only [throw, throwThe, MonadExceptOf.throw, Except.error.injEq] at h
      subst h
      exact .inl (by simp [hn])
    · cases h

theorem create_of_unlink_error (h : fs.unlink path = .error e) : fs.create path = .error e := by
  unfold create
  rcases unlink_error_iff.mp h with ⟨hd, rfl⟩ | ⟨hl, -⟩
  · obtain ⟨loc, hl, hn⟩ := isDirectory_iff.mp hd
    simp [hl, hn, bind, Except.bind, throw, throwThe, MonadExceptOf.throw]
  · simp [hl, bind, Except.bind]

theorem locate_set (hl : fs.locate path = .ok loc) (hn : fs.node? loc ≠ some .directory)
    (node : Node) : (fs.set loc node).locate path = .ok loc :=
  locate_of_keepsDirectories (keepsDirectories_set hn) hl

theorem locate_erase (hl : fs.locate path = .ok loc) (hn : fs.node? loc ≠ some .directory) :
    (fs.erase loc).locate path = .ok loc :=
  locate_of_keepsDirectories (keepsDirectories_erase hn) hl

theorem holds_set (hl : fs.locate path = .ok loc) (hn : fs.node? loc ≠ some .directory)
    (data : Bytes) : (fs.set loc (.file data)).Holds path loc data :=
  ⟨locate_set hl hn _, node?_set fs _ (ne_nil_of_node? hn)⟩

theorem unlink_of_ne_directory (hl : fs.locate path = .ok loc)
    (hn : fs.node? loc ≠ some .directory) : fs.unlink path = .ok (fs.erase loc) := by
  unfold unlink
  rcases hnode : fs.node? loc with _ | _ | content
  · simp [hl, hnode, erase_of_node?_none hnode]
  · exact absurd hnode hn
  · simp [hl, hnode]

theorem unlink_set (hl : fs.locate path = .ok loc) (hn : fs.node? loc ≠ some .directory)
    (data : Bytes) : (fs.set loc (.file data)).unlink path = .ok (fs.erase loc) := by
  rw [(holds_set hl hn data).unlink, erase_set]

theorem unlink_erase (hl : fs.locate path = .ok loc) (hn : fs.node? loc ≠ some .directory) :
    (fs.erase loc).unlink path = .ok (fs.erase loc) := by
  have hnone : (fs.erase loc).node? loc = none := node?_erase fs (ne_nil_of_node? hn)
  rw [unlink_of_ne_directory (locate_erase hl hn) (by simp [hnone]), erase_erase]

-- ---------------------------------------------------------------------------
-- Files that were perhaps removed
-- ---------------------------------------------------------------------------

inductive Cleared (fs : FileSystem) (path : Path) : FileSystem → Prop
  | same : Cleared fs path fs
  | removed {loc : Location} (hl : fs.locate path = .ok loc)
      (hn : fs.node? loc ≠ some .directory) : Cleared fs path (fs.erase loc)

namespace Cleared

theorem trans {fs'' : FileSystem} (h : fs.Cleared path fs') (h' : fs'.Cleared path fs'') :
    fs.Cleared path fs'' := by
  cases h with
  | same => exact h'
  | removed hl hn =>
    cases h' with
    | same => exact .removed hl hn
    | removed hl' hn' =>
      obtain rfl := Except.ok.inj ((locate_erase hl hn).symm.trans hl')
      rw [erase_erase]
      exact .removed hl hn

theorem keeps (h : fs.Cleared path fs') : fs.KeepsDirectories fs' := by
  cases h with
  | same => exact .refl fs
  | removed _ hn => exact keepsDirectories_erase hn

theorem create_eq_ok (h : fs.Cleared path fs') {made : FileSystem}
    (hc : fs.create path = .ok (loc, made)) : fs'.create path = .ok (loc, made) := by
  cases h with
  | same => exact hc
  | removed hl hn =>
    have hnone := node?_erase fs (ne_nil_of_node? hn)
    rw [create_of_ne_directory hl hn] at hc
    rw [create_of_ne_directory (locate_erase hl hn) (by simp [hnone]), set_erase, hc]

theorem eq_of_create_error (h : fs.Cleared path fs') (hc : fs.create path = .error e) :
    fs' = fs := by
  cases h with
  | same => rfl
  | removed hl hn => simp [create_of_ne_directory hl hn] at hc

theorem set_eq (h : fs.Cleared path fs') (hl : fs.locate path = .ok loc) (node : Node) :
    fs'.set loc node = fs.set loc node := by
  cases h with
  | same => rfl
  | removed hl' hn =>
    obtain rfl := Except.ok.inj (hl.symm.trans hl')
    exact set_erase fs loc node

theorem erase_eq (h : fs.Cleared path fs') (hl : fs.locate path = .ok loc) :
    fs'.erase loc = fs.erase loc := by
  cases h with
  | same => rfl
  | removed hl' hn =>
    obtain rfl := Except.ok.inj (hl.symm.trans hl')
    exact erase_erase fs loc

theorem unlink_eq (h : fs.Cleared path fs') :
    fs' = fs ∨ ∃ left, fs.unlink path = .ok left ∧ fs'.unlink path = .ok left := by
  cases h with
  | same => exact .inl rfl
  | removed hl hn => exact .inr ⟨_, unlink_of_ne_directory hl hn, unlink_erase hl hn⟩

theorem isOk_create (h : fs.Cleared path fs') :
    (fs'.create path).isOk = (fs.create path).isOk := by
  cases hc : fs.create path with
  | error e => rw [h.eq_of_create_error hc, hc]
  | ok made => rw [h.create_eq_ok hc]

end Cleared

end TerrainTiles.FileSystem
