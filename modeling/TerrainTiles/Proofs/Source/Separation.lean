import TerrainTiles.Proofs.Decimal.Padded
import TerrainTiles.Proofs.Source.Naming
import Mathlib.Data.List.Nodup

/-!
# Tiles have files of their own

An index can be read off a tile's name: the stem keeps any two pairs of integers apart,
whatever their signs and lengths (`stem_injective`). The files of a tile stand in the
directory of its source, under the stem with the extension and under the stem with the
ending of an archive, and no extension is such an ending. So requests for different
tiles are about files that differ as paths and, in every file system, as places
(`tiles_apart`).
-/

namespace TerrainTiles

open TerrainTiles.Path (IsEntry)

/-- The paths differ, and lead to different places wherever both lead somewhere. -/
def Path.Apart (path other : Path) : Prop :=
  path ≠ other ∧ ∀ (fs : FileSystem) (loc : Location), fs.locate path = .ok loc →
    fs.locate other ≠ .ok loc

namespace Source

variable {source other : Source} {index index' : TileIndex} {cache archive : Path}
  {name name' : String} {lon lat lon' lat' : Double}

-- ---------------------------------------------------------------------------
-- Names
-- ---------------------------------------------------------------------------

theorem toList_cornerName (lat lon : Int) : (cornerName lat lon).toList =
    (if 0 ≤ lat then 'N' else 'S') :: ((paddedInt 2 lat.natAbs).toList ++
      (if 0 ≤ lon then 'E' else 'W') :: (paddedInt 3 lon.natAbs).toList) := by
  have hnorth : (if 0 ≤ lat then "N" else "S").toList = [if 0 ≤ lat then 'N' else 'S'] := by
    split <;> rfl
  have heast : (if 0 ≤ lon then "E" else "W").toList = [if 0 ≤ lon then 'E' else 'W'] := by
    split <;> rfl
  simp [cornerName, hnorth, heast]

theorem eq_of_letter {m n : Int} {positive negative : Char} (hne : positive ≠ negative)
    (h : (if 0 ≤ m then positive else negative) = if 0 ≤ n then positive else negative)
    (habs : m.natAbs = n.natAbs) : m = n := by
  have hsign : 0 ≤ m ↔ 0 ≤ n := by
    split at h <;> split at h
    · exact iff_of_true ‹_› ‹_›
    · exact absurd h hne
    · exact absurd h.symm hne
    · exact iff_of_false ‹_› ‹_›
  omega

theorem cornerName_injective {lat lon lat' lon' : Int}
    (h : cornerName lat lon = cornerName lat' lon') : lat = lat' ∧ lon = lon' := by
  have hlist := congrArg String.toList h
  rw [toList_cornerName, toList_cornerName] at hlist
  obtain ⟨hnorth, hrest⟩ := List.cons.inj hlist
  have hletter (n : Int) : isNumeralChar (if 0 ≤ n then 'E' else 'W') = false := by
    split <;> decide
  obtain ⟨hlat, heast, hlon⟩ := append_cons_inj (fun _ => isNumeralChar_of_mem)
    (fun _ => isNumeralChar_of_mem) (hletter _) (hletter _) hrest
  have hlat' := paddedInt_injective 2 (String.toList_injective hlat)
  have hlon' := paddedInt_injective 3 (String.toList_injective hlon)
  exact ⟨eq_of_letter (by decide) hnorth (by exact_mod_cast hlat'),
    eq_of_letter (by decide) heast (by exact_mod_cast hlon')⟩

theorem stem_injective (naming : Naming) : Function.Injective (stem naming) := by
  rintro ⟨a, b⟩ ⟨a', b'⟩ h
  cases naming with
  | columnRow =>
    have hlist : (paddedInt 2 a).toList ++ '_' :: (paddedInt 2 b).toList =
        (paddedInt 2 a').toList ++ '_' :: (paddedInt 2 b').toList := by
      simpa [stem] using congrArg String.toList h
    obtain ⟨hcolumn, -, hrow⟩ := append_cons_inj (fun _ => isNumeralChar_of_mem)
      (fun _ => isNumeralChar_of_mem) (by decide) (by decide) hlist
    rw [paddedInt_injective 2 (String.toList_injective hcolumn),
      paddedInt_injective 2 (String.toList_injective hrow)]
  | corner =>
    obtain ⟨hlat, hlon⟩ := cornerName_injective h
    exact Prod.ext hlat hlon

theorem fileName_injective (source : Source) : Function.Injective source.fileName := fun _ _ h =>
  stem_injective source.naming ((String.append_left_inj _).mp h)

theorem fileName_ne_archive {ending : String} (h : source ∈ all)
    (hzip : ".zip".toList <:+ ending.toList) {stem : String} :
    source.fileName index ≠ stem ++ ending := by
  intro heq
  refine not_zip_fileName h index ?_
  rw [heq, String.toList_append]
  exact hzip.trans (List.suffix_append _ _)

theorem eq_of_id (h : source ∈ all) (h' : other ∈ all) (hid : source.id = other.id) :
    source = other := by
  have hnodup : (all.map id).Nodup := by decide
  exact List.inj_on_of_nodup_map hnodup h h' hid

-- ---------------------------------------------------------------------------
-- Files
-- ---------------------------------------------------------------------------

/-- Files of different names, or in the directories of different sources. -/
theorem apart_below (h : source ∈ all) (h' : other ∈ all) (hname : IsEntry name)
    (hname' : IsEntry name') (hne : source.id = other.id → name ≠ name') (cache : Path) :
    ((cache / source.id).below [name]).Apart ((cache / other.id).below [name']) := by
  have hid : cache / source.id = cache.below [source.id] := div_id h cache
  have hid' : cache / other.id = cache.below [other.id] := div_id h' cache
  rw [hid, hid']
  constructor
  · intro heq
    have hnames : [source.id, name] = [other.id, name'] := by
      simpa [Path.below] using heq
    simp only [List.cons.injEq, and_true] at hnames
    exact hne hnames.1 hnames.2
  · intro fs loc hl hl'
    obtain ⟨parent, hparent, rfl⟩ := FileSystem.locate_below_entry hname hl
    obtain ⟨parent', hparent', heq⟩ := FileSystem.locate_below_entry hname' hl'
    obtain ⟨rfl, hlast⟩ := List.append_inj' heq rfl
    obtain ⟨_, -, rfl⟩ := FileSystem.locate_below_entry (isEntry_id h) hparent
    obtain ⟨_, -, heq⟩ := FileSystem.locate_below_entry (isEntry_id h') hparent'
    have hsource := (List.append_inj' heq rfl).2
    exact hne (List.cons.inj hsource).1 (List.cons.inj hlast).1

/-- Requests for different tiles, by source or by index, are about four different files;
requests for the same tile are about the same two. -/
theorem tiles_apart (cache : Path) (h : source ∈ all) (h' : other ∈ all)
    (hindex : source.index lon lat = .ok index) (hindex' : other.index lon' lat' = .ok index') :
    ∃ tile tile' archive archive', source.tileName lon lat = .ok tile ∧
      other.tileName lon' lat' = .ok tile' ∧
      (source.localCopy cache tile).archive = .ok archive ∧
      (other.localCopy cache tile').archive = .ok archive' ∧
      (source.id = other.id ∧ index = index' ∧ tile = tile' ∧
          (source.localCopy cache tile).plain = (other.localCopy cache tile').plain ∧
          archive = archive' ∨
        [(source.localCopy cache tile).plain, archive, (other.localCopy cache tile').plain,
          archive'].Pairwise Path.Apart) ∧
      ∀ naming, Function.Injective (stem naming) := by
  obtain ⟨ending, htemplate, hentry, hzip, harchive⟩ := archive_eq h cache index
  obtain ⟨ending', htemplate', hentry', hzip', harchive'⟩ := archive_eq h' cache index'
  have htile : source.tileName lon lat = .ok (source.fileName index) := by
    rw [tileName, hindex]
    rfl
  have htile' : other.tileName lon' lat' = .ok (other.fileName index') := by
    rw [tileName, hindex']
    rfl
  refine ⟨_, _, _, _, htile, htile', harchive, harchive', ?_, stem_injective⟩
  by_cases hsame : source.id = other.id ∧ index = index'
  · obtain ⟨hid, rfl⟩ := hsame
    obtain rfl := eq_of_id h h' hid
    obtain rfl : ending = ending' :=
      (String.append_right_inj _).mp (htemplate.symm.trans htemplate')
    exact .inl ⟨rfl, rfl, rfl, rfl, rfl⟩
  · right
    have hplain : source.id = other.id → source.fileName index ≠ other.fileName index' := by
      intro hid heq
      obtain rfl := eq_of_id h h' hid
      exact hsame ⟨rfl, fileName_injective source heq⟩
    have harchives : source.id = other.id →
        stem source.naming index ++ ending ≠ stem other.naming index' ++ ending' := by
      intro hid heq
      obtain rfl := eq_of_id h h' hid
      obtain rfl : ending = ending' :=
        (String.append_right_inj _).mp (htemplate.symm.trans htemplate')
      exact hsame ⟨rfl, stem_injective source.naming ((String.append_left_inj _).mp heq)⟩
    rw [plain_below h, plain_below h']
    have hfile := isEntry_fileName h index
    have hfile' := isEntry_fileName h' index'
    simp only [List.pairwise_cons, List.forall_mem_cons, List.not_mem_nil, false_implies,
      implies_true, List.Pairwise.nil, and_true]
    refine ⟨⟨?_, ?_, ?_⟩, ⟨?_, ?_⟩, ?_⟩
    · exact apart_below h h hfile hentry (fun _ => fileName_ne_archive h hzip) cache
    · exact apart_below h h' hfile hfile' hplain cache
    · exact apart_below h h' hfile hentry' (fun _ => fileName_ne_archive h hzip') cache
    · exact apart_below h h' hentry hfile' (fun _ => (fileName_ne_archive h' hzip).symm) cache
    · exact apart_below h h' hentry hentry' harchives cache
    · exact apart_below h' h' hfile' hentry' (fun _ => fileName_ne_archive h' hzip') cache

/-- The tiles north-east of the origin and south-west of it. -/
theorem tiles_apart_origin : ∃ tile tile' archive archive',
    srtm1.tileName 0 0 = .ok tile ∧ srtm1.tileName (-1) (-1) = .ok tile' ∧
    (srtm1.localCopy ⟨.relative, []⟩ tile).archive = .ok archive ∧
    (srtm1.localCopy ⟨.relative, []⟩ tile').archive = .ok archive' ∧
    [(srtm1.localCopy ⟨.relative, []⟩ tile).plain, archive,
      (srtm1.localCopy ⟨.relative, []⟩ tile').plain, archive'].Pairwise Path.Apart := by
  have hmem : srtm1 ∈ all := by simp [all]
  have hindex : srtm1.index 0 0 = .ok (0, 0) := toOption_eq_some.mp (by decide +kernel)
  have hindex' : srtm1.index (-1) (-1) = .ok (-1, -1) :=
    toOption_eq_some.mp (by decide +kernel)
  obtain ⟨tile, tile', archive, archive', htile, htile', harchive, harchive', hcases, -⟩ :=
    tiles_apart ⟨.relative, []⟩ hmem hmem hindex hindex'
  refine ⟨tile, tile', archive, archive', htile, htile', harchive, harchive', ?_⟩
  exact hcases.resolve_left fun hsame => absurd hsame.2.1 (by decide)

end Source

end TerrainTiles
