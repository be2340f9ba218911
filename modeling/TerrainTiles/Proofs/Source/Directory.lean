import TerrainTiles.Proofs.Files.Content
import TerrainTiles.Source.Grid

/-!
# The directory of a source

Tile names are letters, digits and a few marks (`all_fileName`), so every archive of
a source stands right in the source's directory below the cache (`parent_archive`),
and the directories of two sources differ (`directory_injective`).
-/

namespace TerrainTiles

namespace Text

theorem splitAt_of_not_mem {mark : Char} {cs : List Char} (h : mark ∉ cs) :
    splitAt mark cs = [cs] := by
  induction cs with
  | nil => rfl
  | cons c rest ih =>
    have hc : c ≠ mark := fun heq => h (heq ▸ List.mem_cons_self)
    have hrest : mark ∉ rest := fun hm => h (List.mem_cons_of_mem c hm)
    rw [splitAt, if_neg hc, ih hrest]

end Text

namespace Path

variable {path : Path} {name : String}

theorem parse_of_not_mem (h : '/' ∉ name.toList) (hne : name ≠ "") (hdot : name ≠ ".") :
    parse name = ⟨.relative, [name]⟩ := by
  have hsplit : splitAnchor name.toList = (.relative, name.toList) := by
    unfold splitAnchor
    split
    · next hc => rw [hc] at h; simp at h
    · next hc => rw [hc] at h; simp at h
    · next hc => rw [hc] at h; simp at h
    · rfl
  have hnil : name.toList ≠ [] := by simpa using hne
  have hdot : name.toList ≠ ['.'] := by
    intro hd
    exact hdot (String.toList_injective hd)
  simp [parse, hsplit, namesOf, Text.splitAt_of_not_mem h, hnil, hdot]

theorem div_of_not_mem (h : '/' ∉ name.toList) (hne : name ≠ "") (hdot : name ≠ ".") :
    path / name = { path with names := path.names ++ [name] } := by
  change path.join (parse name) = _
  rw [parse_of_not_mem h hne hdot]
  rfl

end Path

def isNameChar (c : Char) : Bool := c.isAlphanum || "_-.".toList.contains c

theorem all_padded (width n : Nat) : (padded width n).all isNameChar := by
  have hdigit : ∀ c ∈ Nat.toDigits 10 n, isNameChar c := by
    intro c hc
    have hd := Nat.isDigit_of_mem_toDigits (by decide) (by decide) hc
    simp [isNameChar, Char.isAlphanum, hd]
  have hzero : isNameChar '0' := by decide
  simpa [padded, zeros, hzero] using hdigit

theorem all_paddedInt (width : Nat) (n : Int) : (paddedInt width n).toList.all isNameChar := by
  have hminus : isNameChar '-' := by decide
  unfold paddedInt
  rw [String.toList_ofList]
  split <;> simp only [List.all_cons, hminus, all_padded, Bool.and_self]

namespace Source

variable {source other : Source} {cache path : Path} {index : TileIndex}

theorem all_stem (naming : Naming) (index : TileIndex) :
    (stem naming index).toList.all isNameChar := by
  cases naming with
  | columnRow =>
    have hfront : "srtm_".toList.all isNameChar ∧ "_".toList.all isNameChar := by decide
    simp only [stem, String.toList_append, List.all_append, hfront, all_paddedInt, Bool.and_self]
  | corner =>
    have hside : ∀ p : Prop, ∀ [Decidable p], (if p then "N" else "S").toList.all isNameChar ∧
        (if p then "E" else "W").toList.all isNameChar := by
      intro p _
      split <;> decide
    simp only [stem, cornerName, String.toList_append, List.all_append, hside, all_paddedInt,
      Bool.and_self]

theorem extension_of_mem (h : source ∈ all) :
    source.extension.toList.all isNameChar ∧ source.extension.toList.length = 4 := by
  revert source
  decide

theorem all_fileName (h : source ∈ all) (index : TileIndex) :
    (source.fileName index).toList.all isNameChar := by
  simp only [fileName, String.toList_append, List.all_append, all_stem, (extension_of_mem h).1,
    Bool.and_self]

theorem length_fileName (h : source ∈ all) (index : TileIndex) :
    4 ≤ (source.fileName index).toList.length := by
  simp [fileName, (extension_of_mem h).2]

theorem not_mem_fileName (h : source ∈ all) (index : TileIndex) {c : Char}
    (hc : isNameChar c = false) : c ∉ (source.fileName index).toList := by
  intro hmem
  rw [List.all_eq_true.mp (all_fileName h index) c hmem] at hc
  cases hc

theorem div_fileName (h : source ∈ all) (index : TileIndex) (path : Path) :
    path / source.fileName index =
      { path with names := path.names ++ [source.fileName index] } := by
  have hlength := length_fileName h index
  apply Path.div_of_not_mem (not_mem_fileName h index (by decide))
  · intro hempty
    simp [hempty] at hlength
  · intro hdot
    simp [hdot] at hlength

theorem parent_plain (h : source ∈ all) :
    (source.localCopy cache (source.fileName index)).plain.parent = cache / source.id := by
  unfold localCopy
  rw [div_fileName h]
  simp [Path.parent]

theorem parent_archive (h : source ∈ all)
    (ha : (source.localCopy cache (source.fileName index)).archive = .ok path) :
    path.parent = cache / source.id := by
  unfold LocalCopy.archive at ha
  cases hname : Text.fillTemplate [("stem",
      (source.localCopy cache (source.fileName index)).plain.stem)]
      (source.localCopy cache (source.fileName index)).template with
  | error e => simp [hname, bind, Except.bind] at ha
  | ok name =>
    simp only [hname, mapError_ok, bind, Except.bind] at ha
    cases hwith : (source.localCopy cache (source.fileName index)).plain.withName name with
    | error e => simp [hwith] at ha
    | ok archive =>
      rw [hwith, mapError_ok, Except.ok.injEq] at ha
      rw [← ha, Path.parent_withName hwith, parent_plain h]

theorem div_id (h : source ∈ all) (path : Path) :
    path / source.id = { path with names := path.names ++ [source.id] } := by
  have hid : '/' ∉ source.id.toList ∧ source.id ≠ "" ∧ source.id ≠ "." := by
    revert source
    decide
  exact Path.div_of_not_mem hid.1 hid.2.1 hid.2.2

theorem directory_injective (h : source ∈ all) (h' : other ∈ all)
    (heq : cache / source.id = cache / other.id) : source.id = other.id := by
  rw [div_id h, div_id h'] at heq
  simpa using heq

end Source

end TerrainTiles
