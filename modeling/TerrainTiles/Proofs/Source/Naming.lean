import TerrainTiles.Proofs.Archive.Naming
import TerrainTiles.Proofs.Files.Descent

/-!
# The names of tiles and of their archives

The plain file of a tile and its archive both stand right in the directory of the
source (`plain_below`, `archive_below`). The archive's name is what the template makes
of the tile's stem (`archive_eq`); it ends like that of an archive, and no tile's name
does (`plain_apart`).
-/

namespace TerrainTiles

open TerrainTiles.Path (IsEntry)

variable {name new : String} {path : Path}

theorem Path.isEntry_of_length (h : 3 ≤ name.toList.length) (hslash : '/' ∉ name.toList)
    (hnull : '\x00' ∉ name.toList) : IsEntry name := by
  refine ⟨?_, ?_, ?_, hslash, hnull⟩ <;> rintro rfl <;> simp at h

-- ---------------------------------------------------------------------------
-- The names of archives
-- ---------------------------------------------------------------------------

namespace Text

def EndsStem (template ending : String) : Prop :=
  pieces .text template.toList =
    .ok (.field { name := "stem".toList }) :: ending.toList.map fun c => .ok (.char c)

theorem value_stem (value : String) :
    Field.value { name := "stem".toList } [("stem", value)] = .ok value.toList := by
  have hlookup : lookup [("stem", value)] "stem".toList = .ok value := by
    have hposition : position? "stem".toList = .ok none := by decide
    have hempty : "stem".toList.isEmpty = false := by decide
    simp only [lookup, hposition, hempty]
    rfl
  have htake : ("stem".toList.takeWhile fun c => c ≠ '.' && c ≠ '[') = "stem".toList := by decide
  have hdrop : ("stem".toList.dropWhile fun c => c ≠ '.' && c ≠ '[') = [] := by decide
  unfold Field.value
  simp only [htake, hdrop, hlookup]
  rfl

theorem mapM_of_chars {fill : Except TemplateError Piece → Except TemplateError (List Char)}
    (out : List Char) (hchar : ∀ c, fill (.ok (.char c)) = .ok [c])
    {piece : Except TemplateError Piece} (hpiece : fill piece = .ok out) (cs : List Char) :
    (piece :: cs.map fun c => .ok (.char c)).mapM fill = .ok (out :: cs.map fun c => [c]) := by
  have hrest := mapM_of_ok (f := fill ∘ _) hchar cs
  rw [List.mapM_cons, hpiece, List.mapM_map, hrest]
  rfl

theorem fillTemplate_of_endsStem {template ending : String}
    (h : EndsStem template ending) (value : String) :
    fillTemplate [("stem", value)] template = .ok (value ++ ending) := by
  have hfill : fillFields [("stem", value)] 2 template.toList =
      .ok (value.toList ++ ending.toList) := by
    rw [fillFields, h, mapM_of_chars value.toList (fun _ => rfl)]
    · simp [bind, Except.bind, pure, Except.pure, ← List.flatMap_def]
    · simp only [bind, Except.bind, value_stem]
      rfl
  rw [fillTemplate, hfill]
  simp [Except.map, String.ofList_append]

end Text

theorem Path.name_below (path : Path) (name : String) : (path.below [name]).name = name := by
  simp [below, Path.name]

theorem Path.isName_of_isEntry (h : IsEntry name) : isName name := by
  have hnil : name.toList ≠ [] := by simpa using h.nonempty
  have hdot : name.toList ≠ ['.'] := fun hd => h.ne_dot (String.toList_injective hd)
  have hlast : name.toList.getLast? ≠ some '/' := fun hl => h.no_slash (List.mem_of_getLast? hl)
  have hhead : name.toList.head? ≠ some '/' := fun hh => h.no_slash (List.mem_of_head? hh)
  simp [isName, hlast, hhead, namesOf, Text.splitAt_of_not_mem h.no_slash, hnil, hdot]

theorem Path.withName_below (hname : name ≠ "") (hnew : IsEntry new) (path : Path) :
    (path.below [name]).withName new = .ok (path.below [new]) := by
  rw [withName, name_below, if_neg hname, if_pos (isName_of_isEntry hnew)]
  simp [below]

theorem Path.stem_of_suffix {stem ending : String} (hname : path.name = stem ++ ending)
    (hstem : stem ≠ "") {after : List Char} (hending : ending.toList = '.' :: after)
    (hafter : after ≠ []) (hdot : '.' ∉ after) : path.stem = stem := by
  have hne : stem.toList ≠ [] := by simpa using hstem
  rw [Path.stem, hname, String.toList_append, hending, splitSuffix,
    Text.splitLast?_append hdot]
  simp [hne, hafter]

namespace Source

variable {source other : Source} {index index' : TileIndex} {cache archive : Path}

theorem isEntry_id (h : source ∈ all) : IsEntry source.id := by
  have hid : 3 ≤ source.id.toList.length ∧ '/' ∉ source.id.toList ∧ '\x00' ∉ source.id.toList := by
    revert source
    decide
  exact Path.isEntry_of_length hid.1 hid.2.1 hid.2.2

theorem isEntry_fileName (h : source ∈ all) (index : TileIndex) :
    IsEntry (source.fileName index) :=
  Path.isEntry_of_length (Nat.le_of_lt (length_fileName h index))
    (not_mem_fileName h index (by decide)) (not_mem_fileName h index (by decide))

theorem endsStem_template (h : source ∈ all) : ∃ ending,
    source.template = "\x7bstem\x7d" ++ ending ∧ Text.EndsStem source.template ending ∧
    3 ≤ ending.toList.length ∧ '/' ∉ ending.toList ∧ '\x00' ∉ ending.toList ∧
    ".zip".toList <:+ ending.toList := by
  simp only [all, List.mem_cons, List.not_mem_nil, or_false] at h
  rcases h with rfl | rfl | rfl
  · exact ⟨".zip", rfl, rfl, by decide⟩
  · exact ⟨".zip", rfl, rfl, by decide⟩
  · exact ⟨".SRTMGL1.hgt.zip", rfl, rfl, by decide⟩

theorem plain_below (h : source ∈ all) (cache : Path) (index : TileIndex) :
    (source.localCopy cache (source.fileName index)).plain =
      (cache / source.id).below [source.fileName index] := div_fileName h index _

theorem stem_below (h : source ∈ all) (directory : Path) (index : TileIndex) :
    (directory.below [source.fileName index]).stem = stem source.naming index := by
  have hending : ∃ after, source.extension.toList = '.' :: after ∧ after ≠ [] ∧ '.' ∉ after := by
    simp only [all, List.mem_cons, List.not_mem_nil, or_false] at h
    rcases h with rfl | rfl | rfl
    · exact ⟨"tif".toList, by decide⟩
    · exact ⟨"tif".toList, by decide⟩
    · exact ⟨"hgt".toList, by decide⟩
  obtain ⟨after, hending, hafter, hdot⟩ := hending
  have hstem : stem source.naming index ≠ "" := by
    cases source.naming with
    | columnRow => simp [stem]
    | corner =>
      have hside : (if 0 ≤ index.1 then "N" else "S") ≠ "" := by split <;> decide
      simp [stem, cornerName, hside]
  exact Path.stem_of_suffix (Path.name_below _ _) hstem hending hafter hdot

/-- The archive stands beside the plain file, under the name that the template makes of the
tile's stem. -/
theorem archive_eq (h : source ∈ all) (cache : Path) (index : TileIndex) :
    ∃ ending, source.template = "\x7bstem\x7d" ++ ending ∧
      IsEntry (stem source.naming index ++ ending) ∧ ".zip".toList <:+ ending.toList ∧
      (source.localCopy cache (source.fileName index)).archive =
        .ok ((cache / source.id).below [stem source.naming index ++ ending]) := by
  obtain ⟨ending, htemplate, hends, hlength, hslash, hnull, hzip⟩ := endsStem_template h
  have hchars : ∀ c, isNameChar c = false → c ∉ (stem source.naming index).toList := by
    intro c hc hmem
    rw [List.all_eq_true.mp (all_stem source.naming index) c hmem] at hc
    cases hc
  have hentry : IsEntry (stem source.naming index ++ ending) := by
    refine Path.isEntry_of_length ?_ ?_ ?_
    · rw [String.toList_append, List.length_append]
      omega
    · simpa using ⟨hchars '/' (by decide), hslash⟩
    · simpa using ⟨hchars '\x00' (by decide), hnull⟩
  refine ⟨ending, htemplate, hentry, hzip, ?_⟩
  rw [LocalCopy.archive, plain_below h, stem_below h,
    show (source.localCopy cache (source.fileName index)).template = source.template from rfl,
    Text.fillTemplate_of_endsStem hends, mapError_ok]
  simp only [bind, Except.bind]
  rw [Path.withName_below (isEntry_fileName h index).nonempty hentry, mapError_ok]

theorem archive_below (h : source ∈ all)
    (ha : (source.localCopy cache (source.fileName index)).archive = .ok archive) :
    ∃ name, IsEntry name ∧ ".zip".toList <:+ name.toList ∧
      archive = (cache / source.id).below [name] := by
  obtain ⟨ending, -, hentry, hzip, harchive⟩ := archive_eq h cache index
  refine ⟨_, hentry, ?_, Except.ok.inj (ha.symm.trans harchive)⟩
  rw [String.toList_append]
  exact hzip.trans (List.suffix_append _ _)

theorem not_zip_fileName (h : source ∈ all) (index : TileIndex) :
    ¬ ".zip".toList <:+ (source.fileName index).toList := by
  have hextension : ".zip".toList.length = source.extension.toList.length ∧
      ".zip".toList ≠ source.extension.toList := by
    revert source
    decide
  intro hzip
  have hends : source.extension.toList <:+ (source.fileName index).toList := by
    rw [fileName, String.toList_append]
    exact List.suffix_append _ _
  exact hextension.2 (List.suffix_of_suffix_length_le hzip hends (Nat.le_of_eq hextension.1)
    |>.eq_of_length hextension.1)

/-- No plain file is where an archive is, whatever sources and tiles they are of. -/
theorem plain_apart {fs : FileSystem} {loc : Location} (h : source ∈ all) (h' : other ∈ all)
    (ha : (other.localCopy cache (other.fileName index')).archive = .ok archive)
    (hl : fs.locate (source.localCopy cache (source.fileName index)).plain = .ok loc) :
    fs.locate archive ≠ .ok loc := by
  obtain ⟨name, hname, hzip, rfl⟩ := archive_below h' ha
  rw [plain_below h] at hl
  intro hl'
  obtain ⟨parent, -, hloc⟩ := FileSystem.locate_below_entry (isEntry_fileName h index) hl
  obtain ⟨parent', -, hloc'⟩ := FileSystem.locate_below_entry hname hl'
  obtain ⟨-, heq⟩ := List.append_inj' (hloc.symm.trans hloc') rfl
  obtain rfl : source.fileName index = name := List.cons.inj heq |>.1
  exact not_zip_fileName h index hzip

end Source

end TerrainTiles
