import TerrainTiles.Files.FileSystem

/-!
# The file at a path

`content?` is what a regular file at a path holds. A path keeps leading to the
same location as long as no directory is lost (`locate_of_keepsDirectories`),
and creating, writing and deleting files loses none; so what a file holds can be
followed from `create` over `append` to `unlink`.

`unlink` is refused only where no file is (`content?_of_unlink_error`): at a
directory, or where the way to the path is blocked (`unlink_error_iff`).
-/

namespace TerrainTiles

section

variable {ε ε' α : Type} (f : ε → ε')

@[simp] theorem mapError_ok (a : α) : (Except.ok a : Except ε α).mapError f = .ok a := rfl

@[simp] theorem mapError_error (e : ε) :
    (Except.error e : Except ε α).mapError f = .error (f e) := rfl

end

namespace FileSystem

variable {fs fs' : FileSystem} {path : Path} {loc : Location} {content chunk : Bytes}

def content? (fs : FileSystem) (path : Path) : Option Bytes :=
  match fs.at? path with
  | some (.file content) => some content
  | _ => none

structure Holds (fs : FileSystem) (path : Path) (loc : Location) (content : Bytes) : Prop where
  leads : fs.locate path = .ok loc
  node : fs.node? loc = some (.file content)

theorem Holds.content? (h : fs.Holds path loc content) : fs.content? path = some content := by
  simp [FileSystem.content?, at?, h.leads, h.node]

theorem toOption_read (fs : FileSystem) (path : Path) :
    (fs.read path).toOption = fs.content? path := by
  unfold read content? at?
  cases fs.locate path with
  | error => rfl
  | ok loc =>
    cases hn : fs.node? loc with
    | none => simp only [hn, bind, Except.bind]; rfl
    | some node => cases node <;> (simp only [hn, bind, Except.bind]; rfl)

-- ---------------------------------------------------------------------------
-- Directories are kept
-- ---------------------------------------------------------------------------

def KeepsDirectories (fs fs' : FileSystem) : Prop :=
  ∀ loc, fs.node? loc = some .directory → fs'.node? loc = some .directory

theorem walk_of_keepsDirectories (h : fs.KeepsDirectories fs') {directory : Location}
    {names : List String} (hw : fs.walk directory names = .ok loc) :
    fs'.walk directory names = .ok loc := by
  induction names generalizing directory with
  | nil => exact hw
  | cons name rest ih =>
    simp only [walk] at hw ⊢
    split at hw
    · next hd => simpa [hd] using ih hw
    · split at hw
      · next hn hd => simpa [hn, hd] using ih hw
      · next hn hd =>
        simp only [hn, hd, if_false]
        cases rest with
        | nil => exact hw
        | cons name' rest =>
          cases hnode : fs.node? (directory ++ [name]) with
          | none => simp [hnode] at hw
          | some node =>
            cases node with
            | file => simp [hnode] at hw
            | directory =>
              simp only [hnode] at hw
              simpa only [h _ hnode] using ih hw

theorem locate_of_keepsDirectories (h : fs.KeepsDirectories fs') (hl : fs.locate path = .ok loc) :
    fs'.locate path = .ok loc := by
  unfold locate at hl ⊢
  split at hl
  · cases hl
  · next hc =>
    rw [if_neg hc]
    cases hw : fs.walk [] (stepsOf path) with
    | error => simp [hw] at hl
    | ok found =>
      rw [walk_of_keepsDirectories h hw]
      simpa [hw] using hl

theorem ne_nil_of_node? (h : fs.node? loc ≠ some .directory) : loc ≠ [] := by
  rintro rfl
  exact h rfl

theorem keepsDirectories_set {node : Node} (h : fs.node? loc ≠ some .directory) :
    fs.KeepsDirectories (fs.set loc node) := by
  intro other ho
  have hne : other ≠ loc := by rintro rfl; exact h ho
  rwa [node?_set_ne fs node hne]

theorem keepsDirectories_erase (h : fs.node? loc ≠ some .directory) :
    fs.KeepsDirectories (fs.erase loc) := by
  intro other ho
  have hne : other ≠ loc := by rintro rfl; exact h ho
  rwa [node?_erase_ne fs hne]

theorem keepsDirectories_append : fs.KeepsDirectories (fs.append loc chunk) := by
  unfold append
  split
  · next hn => exact keepsDirectories_set (by simp [hn])
  · exact fun _ h => h

-- ---------------------------------------------------------------------------
-- A file from its creation to its end
-- ---------------------------------------------------------------------------

theorem holds_create (h : fs.create path = .ok (loc, fs')) : fs'.Holds path loc [] := by
  unfold create at h
  cases hl : fs.locate path with
  | error e => simp [hl, bind, Except.bind] at h
  | ok found =>
    simp only [hl, bind, Except.bind] at h
    split at h
    · cases h
    · next hn =>
      cases h
      exact ⟨locate_of_keepsDirectories (keepsDirectories_set hn) hl,
        node?_set fs _ (ne_nil_of_node? hn)⟩

theorem Holds.append (h : fs.Holds path loc content) (chunk : Bytes) :
    (fs.append loc chunk).Holds path loc (content ++ chunk) := by
  refine ⟨locate_of_keepsDirectories keepsDirectories_append h.leads, ?_⟩
  have hne : fs.node? loc ≠ some .directory := by simp [h.node]
  simp only [FileSystem.append, h.node]
  exact node?_set fs _ (ne_nil_of_node? hne)

theorem Holds.appendAll (h : fs.Holds path loc content) (chunks : List Bytes) :
    (chunks.foldl (fun fs => fs.append loc) fs).Holds path loc (content ++ chunks.flatten) := by
  induction chunks generalizing fs content with
  | nil => simpa using h
  | cons chunk rest ih => simpa using ih (h.append chunk)

theorem at?_unlink (h : fs.unlink path = .ok fs') : fs'.at? path = none := by
  unfold unlink at h
  cases hl : fs.locate path with
  | error e =>
    simp only [hl] at h
    split at h
    · cases h
      simp [at?, hl]
    · cases h
  | ok loc =>
    simp only [hl] at h
    split at h
    · next hn =>
      cases h
      have hne : fs.node? loc ≠ some .directory := by simp [hn]
      simp [at?, locate_of_keepsDirectories (keepsDirectories_erase hne) hl,
        node?_erase fs (ne_nil_of_node? hne)]
    · cases h
    · next hn =>
      cases h
      simp [at?, hl, hn]

theorem content?_unlink (h : fs.unlink path = .ok fs') : fs'.content? path = none := by
  simp [content?, at?_unlink h]

theorem unlink_error_iff {e : FileError} :
    fs.unlink path = .error e ↔ (fs.isDirectory path ∧ e = ⟨.isDirectory, path.text⟩) ∨
      (fs.locate path = .error e ∧ e.code ≠ .notFound) := by
  unfold unlink isDirectory at?
  cases hl : fs.locate path with
  | error e' =>
    by_cases hc : e'.code = .notFound
    · simp [hc]; rintro rfl; exact hc
    · simp [hc]; rintro rfl; exact hc
  | ok loc =>
    cases hn : fs.node? loc with
    | none => simp [hn]
    | some node => cases node <;> simp [hn, eq_comm]

theorem content?_of_unlink_error {e : FileError} (h : fs.unlink path = .error e) :
    fs.content? path = none := by
  rcases unlink_error_iff.mp h with ⟨hd, -⟩ | ⟨hl, -⟩
  · have hd : fs.at? path = some .directory := by simpa [isDirectory] using hd
    simp [content?, hd]
  · simp [content?, at?, hl]

end FileSystem

end TerrainTiles
