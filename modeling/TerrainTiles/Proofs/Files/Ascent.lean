import TerrainTiles.Proofs.Files.Site
import Mathlib.Data.List.DropRight

/-!
# How far a path goes up

A path that was read goes up as far as its last `..` (`Path.ascent`) and only down
from there. In a tree the part that goes up leads to a directory, if anywhere
(`directory_of_ascent`), so the path is the one of a site unless a directory is
missing on the way up (`Site.exists_of_parse`).
-/

namespace TerrainTiles

namespace Path

/-- The path as far as its last `..`; the anchor alone if there is none. -/
def ascent (path : Path) : Path := { path with names := path.names.rdropWhile (· ≠ "..") }

def trail (path : Path) : List String := path.names.rtakeWhile (· ≠ "..")

theorem below_trail (path : Path) : path.ascent.below path.trail = path := by
  simp [ascent, trail, below, List.rdropWhile_append_rtakeWhile]

theorem ascent_cases (path : Path) :
    path.ascent.names = [] ∨ ∃ above, path.ascent.names = above ++ [".."] := by
  unfold ascent
  induction path.names using List.reverseRecOn with
  | nil => exact .inl rfl
  | append_singleton names last ih =>
    by_cases hlast : last = ".."
    · exact .inr ⟨names, by simp [hlast]⟩
    · simpa only [List.rdropWhile_concat, hlast, ne_eq, not_false_eq_true, decide_true, if_true]
        using ih

-- ---------------------------------------------------------------------------
-- What reading keeps
-- ---------------------------------------------------------------------------

theorem not_mem_of_mem_splitAt {mark : Char} {cs piece : List Char}
    (h : piece ∈ Text.splitAt mark cs) : mark ∉ piece := by
  induction cs generalizing piece with
  | nil => simp_all [Text.splitAt]
  | cons c rest ih =>
    rw [Text.splitAt] at h
    split at h
    · rcases List.mem_cons.mp h with rfl | hmem
      · simp
      · exact ih hmem
    · next hc =>
      split at h
      · obtain rfl : piece = [c] := by simpa using h
        simpa using Ne.symm hc
      · next first pieces hpieces =>
        rw [hpieces] at ih
        rcases List.mem_cons.mp h with rfl | hmem
        · simpa [Ne.symm hc] using ih List.mem_cons_self
        · exact ih (List.mem_cons_of_mem _ hmem)

theorem namesOf_plain {cs : List Char} {name : String} (h : name ∈ namesOf cs) :
    name ≠ "" ∧ name ≠ "." ∧ '/' ∉ name.toList := by
  obtain ⟨piece, hpiece, rfl⟩ := List.mem_map.mp h
  obtain ⟨hpiece, hkept⟩ := List.mem_filter.mp hpiece
  simp only [ne_eq, decide_eq_true_eq] at hkept
  refine ⟨?_, ?_, by simpa using not_mem_of_mem_splitAt hpiece⟩
  · intro hempty
    exact hkept.1 (by simpa using congrArg String.toList hempty)
  · intro hdot
    exact hkept.2 (by simpa using congrArg String.toList hdot)

theorem parse_plain {text name : String} (h : name ∈ (parse text).names) :
    name ≠ "" ∧ name ≠ "." ∧ '/' ∉ name.toList := namesOf_plain h

end Path

namespace FileSystem

variable {fs : FileSystem} {directory loc : Location} {names : List String} {text : String}

theorem directory_of_walk_up (h : fs.IsTree) (hd : fs.node? directory = some .directory)
    (hw : fs.walk directory (names ++ [".."]) = .ok loc) : fs.node? loc = some .directory := by
  induction names generalizing directory with
  | nil =>
    obtain rfl : directory.dropLast = loc := by simpa [walk] using hw
    exact h.dropLast hd
  | cons name rest ih =>
    rw [List.cons_append, walk] at hw
    split at hw
    · exact ih hd hw
    · split at hw
      · exact ih (h.dropLast hd) hw
      · dsimp only at hw
        -- There is at least `..` after the name, so the name has to be a directory's.
        split at hw
        · next hnil => simp at hnil
        · next hn _ => exact ih hn hw
        · cases hw
        · cases hw

theorem directory_of_ascent (h : fs.IsTree)
    (hl : fs.locate (Path.parse text).ascent = .ok loc) : fs.node? loc = some .directory := by
  have hplain : ∀ name ∈ (Path.parse text).ascent.names, name ≠ "" ∧ '/' ∉ name.toList := by
    intro name hname
    obtain ⟨hne, -, hslash⟩ := Path.parse_plain ((List.rdropWhile_prefix _ _).subset hname)
    exact ⟨hne, hslash⟩
  obtain ⟨-, hwalk⟩ := locate_ok hl
  rw [stepsOf_of_plain hplain] at hwalk
  rcases Path.ascent_cases (Path.parse text) with hnil | ⟨above, hup⟩
  · rw [hnil] at hwalk
    cases hwalk
    exact node?_nil fs
  · rw [hup] at hwalk
    exact directory_of_walk_up h (node?_nil fs) hwalk

end FileSystem

namespace Site

variable {fs : FileSystem} {text : String}

/-- A path that was read is a site's, unless a directory is missing on the way up. -/
theorem exists_of_parse (htree : fs.IsTree)
    (h : ∀ e, fs.locate (Path.parse text).ascent = .error e → e.code ≠ .notFound) :
    ∃ site : Site, site.path [] = Path.parse text ∧ ∀ id, site.Agrees id fs fs := by
  by_cases hnull : (Path.parse text).names.any (·.toList.contains '\x00')
  · -- No operation gets as far as walking such a path.
    have hlocate : fs.locate (Path.parse text) = .error ⟨.nullCharacter, (Path.parse text).text⟩ :=
      if_pos hnull
    refine ⟨⟨Path.parse text, none, [], by simp⟩, by simp [path], fun id => ?_⟩
    exact .barred rfl hlocate hlocate (by simp)
  · have hentries : ∀ name ∈ (Path.parse text).trail, Path.IsEntry name := by
      intro name hname
      have hmem := (List.rtakeWhile_suffix _ _).subset hname
      obtain ⟨hne, hdot, hslash⟩ := Path.parse_plain hmem
      refine ⟨hne, hdot, by simpa using List.mem_rtakeWhile_imp hname, hslash, fun hchar => ?_⟩
      refine hnull ?_
      exact List.any_eq_true.mpr ⟨name, hmem, by simpa using hchar⟩
    cases hl : fs.locate (Path.parse text).ascent with
    | error e =>
      refine ⟨⟨(Path.parse text).ascent, none, _, hentries⟩, ?_,
        fun id => .barred rfl hl hl (h e hl)⟩
      simp [path, Path.below_trail]
    | ok base =>
      have hleads : fs.Leads (Path.parse text).ascent base :=
        ⟨htree, hl, FileSystem.directory_of_ascent htree hl⟩
      refine ⟨⟨(Path.parse text).ascent, some base, _, hentries⟩, ?_,
        fun id => .refl_of_leads rfl hleads id⟩
      simp [path, Path.below_trail]

end Site

end TerrainTiles
