import TerrainTiles.Proofs.Files.Creation
import Mathlib.Data.List.Infix

/-!
# File systems are trees

What stands somewhere stands in a directory (`IsTree`). So a path that can be
walked leads to a directory or to a name in one (`walk_cases`), and whatever is
made, written or deleted at a path, a tree stays a tree.
-/

namespace TerrainTiles.FileSystem

variable {fs fs' : FileSystem} {path : Path} {loc parent directory : Location} {name : String}
  {names : List String} {node : Node} {chunk : Bytes}

/-- What stands somewhere stands in a directory. -/
def IsTree (fs : FileSystem) : Prop :=
  ∀ loc name, fs.node? (loc ++ [name]) ≠ none → fs.node? loc = some .directory

theorem isTree_of_entries (h : ∀ entry ∈ fs.entries, fs.node? entry.1.dropLast = some .directory) :
    fs.IsTree := by
  intro loc name hn
  obtain ⟨node, hlookup⟩ := Option.ne_none_iff_exists'.mp hn
  rw [node?, if_neg (by simp)] at hlookup
  obtain ⟨_, _, hentries, -⟩ := List.lookup_eq_some_iff.mp hlookup
  simpa using h (loc ++ [name], node) (by simp [hentries])

theorem IsTree.above (h : fs.IsTree) (hn : fs.node? (loc ++ name :: names) ≠ none) :
    fs.node? loc = some .directory := by
  induction names using List.reverseRecOn with
  | nil => exact h loc name hn
  | append_singleton names last ih =>
    have hd : fs.node? (loc ++ name :: names) = some .directory :=
      h _ last (by rwa [List.append_assoc])
    exact ih (by simp [hd])

theorem IsTree.dropLast (h : fs.IsTree) (hd : fs.node? loc = some .directory) :
    fs.node? loc.dropLast = some .directory := by
  rcases List.eq_nil_or_concat' loc with rfl | ⟨parent, name, rfl⟩
  · exact hd
  · rw [List.dropLast_concat]
    exact h parent name (by simp [hd])

-- ---------------------------------------------------------------------------
-- Changes
-- ---------------------------------------------------------------------------

theorem isTree_set (h : fs.IsTree) (hp : fs.node? parent = some .directory)
    (hn : fs.node? (parent ++ [name]) ≠ some .directory) :
    (fs.set (parent ++ [name]) node).IsTree := by
  intro loc last hl
  refine keepsDirectories_set hn loc ?_
  by_cases heq : loc ++ [last] = parent ++ [name]
  · exact (List.append_inj' heq rfl).1 ▸ hp
  · exact h loc last (by rwa [node?_set_ne fs node heq] at hl)

theorem isTree_erase (h : fs.IsTree) (hn : fs.node? loc ≠ some .directory) :
    (fs.erase loc).IsTree := by
  intro above last hl
  refine keepsDirectories_erase hn above ?_
  by_cases heq : above ++ [last] = loc
  · rw [heq, node?_erase fs (ne_nil_of_node? hn)] at hl
    exact absurd rfl hl
  · exact h above last (by rwa [node?_erase_ne fs heq] at hl)

theorem isTree_append (h : fs.IsTree) (loc : Location) (chunk : Bytes) :
    (fs.append loc chunk).IsTree := by
  unfold append
  split
  · next hn =>
    have hne : fs.node? loc ≠ some .directory := by simp [hn]
    obtain ⟨parent, name, rfl⟩ :=
      (List.eq_nil_or_concat' loc).resolve_left (ne_nil_of_node? hne)
    exact isTree_set h (h parent name (by simp [hn])) hne
  · exact h

-- ---------------------------------------------------------------------------
-- Walks
-- ---------------------------------------------------------------------------

theorem walk_cases (h : fs.IsTree) (hd : fs.node? directory = some .directory)
    (hw : fs.walk directory names = .ok loc) :
    fs.node? loc = some .directory ∨
      ∃ parent name, loc = parent ++ [name] ∧ fs.node? parent = some .directory := by
  induction names generalizing directory with
  | nil =>
    cases hw
    exact .inl hd
  | cons name rest ih =>
    rw [walk] at hw
    split at hw
    · exact ih hd hw
    · split at hw
      · exact ih (h.dropLast hd) hw
      · dsimp only at hw
        split at hw
        · cases hw
          exact .inr ⟨directory, name, rfl, hd⟩
        · next hn => exact ih hn hw
        · cases hw
        · cases hw

theorem locate_ok (hl : fs.locate path = .ok loc) :
    path.names.any (·.toList.contains '\x00') = false ∧ fs.walk [] (stepsOf path) = .ok loc := by
  unfold locate at hl
  split at hl
  · cases hl
  · next hnull =>
    refine ⟨by simpa using hnull, ?_⟩
    cases hw : fs.walk [] (stepsOf path) with
    | error => simp [hw] at hl
    | ok found => simpa [hw] using hl

theorem locate_cases (h : fs.IsTree) (hl : fs.locate path = .ok loc) :
    fs.node? loc = some .directory ∨
      ∃ parent name, loc = parent ++ [name] ∧ fs.node? parent = some .directory :=
  walk_cases h (node?_nil fs) (locate_ok hl).2

theorem isTree_set_of_locate (h : fs.IsTree) (hl : fs.locate path = .ok loc)
    (hn : fs.node? loc ≠ some .directory) : (fs.set loc node).IsTree := by
  obtain ⟨parent, name, rfl, hp⟩ := (locate_cases h hl).resolve_left hn
  exact isTree_set h hp hn

end TerrainTiles.FileSystem
