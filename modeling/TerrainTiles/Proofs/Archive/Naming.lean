import TerrainTiles.Archive.Entry
import TerrainTiles.LocalCopy
import TerrainTiles.Proofs.Files.Creation
import Mathlib.Data.List.Basic

/-!
# The names of archives

Text without braces at the end of a template stands at the end of what it is
filled to (`suffix_fillTemplate`): reading is outside of every field there, or the
template is never finished. So a template that ends like an archive names
archives, and one that holds a tile's content under a single one of its names
reads as that content (`readTile_of_carries`). Only a name that is nothing but the
ending has no suffix, and what it names is not taken for an archive.
-/

namespace TerrainTiles

namespace Text

def Plain (cs : List Char) : Prop := '{' ∉ cs ∧ '}' ∉ cs

variable {values : List (String × String)} {template cs out : List Char}

theorem plain_cons {c : Char} : Plain (c :: cs) ↔ c ≠ '{' ∧ c ≠ '}' ∧ Plain cs := by
  simp only [Plain, List.mem_cons, not_or, ne_comm]
  tauto

-- ---------------------------------------------------------------------------
-- Reading the end of a template
-- ---------------------------------------------------------------------------

theorem step_text {c : Char} (hopen : c ≠ '{') (hclose : c ≠ '}') :
    TemplateState.step .text c = .ok (some (.char c), .text) := by
  rw [TemplateState.step]
  · exact hopen
  · exact hclose

theorem nameStep_of_ne {bracketed : Bool} {read : List Char} {c : Char} (hopen : c ≠ '{')
    (hclose : c ≠ '}') :
    ∃ next, next ≠ .text ∧ TemplateState.nameStep bracketed read c = .ok (none, next) := by
  fun_cases TemplateState.nameStep bracketed read c <;> simp_all

theorem step_of_ne_text {state : TemplateState} {c : Char} (hs : state ≠ .text) (hopen : c ≠ '{')
    (hclose : c ≠ '}') :
    (∃ e, state.step c = .error e) ∨ ∃ next, next ≠ .text ∧ state.step c = .ok (none, next) := by
  fun_cases TemplateState.step state c with
  | case5 => exact .inr (nameStep_of_ne hopen hclose)
  | case8 => exact .inr (nameStep_of_ne hopen hclose)
  | _ => simp_all

theorem error_of_ne_text {state : TemplateState} (hs : state ≠ .text) (h : Plain cs) :
    ∃ e, .error e ∈ pieces state cs := by
  induction cs generalizing state with
  | nil => cases state <;> simp_all [pieces, TemplateState.unfinished]
  | cons c rest ih =>
    obtain ⟨hopen, hclose, hrest⟩ := plain_cons.mp h
    rcases step_of_ne_text hs hopen hclose with ⟨e, he⟩ | ⟨next, hnext, he⟩
    · exact ⟨e, by simp [pieces, he]⟩
    · simpa [pieces, he] using ih hnext hrest

theorem pieces_text (h : Plain cs) : pieces .text cs = cs.map fun c => .ok (.char c) := by
  induction cs with
  | nil => rfl
  | cons c rest ih =>
    obtain ⟨hopen, hclose, hrest⟩ := plain_cons.mp h
    simp [pieces, step_text hopen hclose, ih hrest]

theorem pieces_append (h : Plain cs) (state : TemplateState) (before : List Char) :
    (∃ e, .error e ∈ pieces state (before ++ cs)) ∨
      ∃ parts, pieces state (before ++ cs) = parts ++ cs.map fun c => .ok (.char c) := by
  induction before generalizing state with
  | nil =>
    by_cases hs : state = .text
    · exact .inr ⟨[], by rw [hs, List.nil_append, pieces_text h]; rfl⟩
    · exact .inl (error_of_ne_text hs h)
  | cons c rest ih =>
    rw [List.cons_append, pieces]
    rcases state.step c with e | ⟨_ | piece, next⟩
    · exact .inl ⟨e, by simp⟩
    · exact ih next
    · rcases ih next with ⟨e, he⟩ | ⟨parts, hparts⟩
      · exact .inl ⟨e, List.mem_cons_of_mem _ he⟩
      · exact .inr ⟨.ok piece :: parts, by simp [hparts]⟩

-- ---------------------------------------------------------------------------
-- Filling
-- ---------------------------------------------------------------------------

theorem mapM_ok_of_mem {α β ε : Type} {f : α → Except ε β} {l : List α} {out : List β}
    (h : l.mapM f = .ok out) {a : α} (ha : a ∈ l) : ∃ b, f a = .ok b := by
  induction l generalizing out with
  | nil => cases ha
  | cons first rest ih =>
    rw [List.mapM_cons] at h
    cases hf : f first with
    | error e => simp [hf, bind, Except.bind] at h
    | ok b =>
      cases hr : rest.mapM f with
      | error e => simp [hf, hr, bind, Except.bind] at h
      | ok bs =>
        rcases List.mem_cons.mp ha with rfl | hmem
        · exact ⟨b, hf⟩
        · exact ih hr hmem

theorem mapM_of_ok {α β ε : Type} {f : α → Except ε β} {g : α → β} (h : ∀ a, f a = .ok (g a))
    (l : List α) : l.mapM f = .ok (l.map g) := by
  rw [show f = fun a => pure (g a) from funext h]
  exact List.mapM_pure

/-- Whatever fields are filled with, characters stand for themselves. -/
theorem suffix_filled {fill : Except TemplateError Piece → Except TemplateError (List Char)}
    (hchar : ∀ c, fill (.ok (.char c)) = .ok [c]) (herror : ∀ e, fill (.error e) = .error e)
    (h : Plain cs) {before : List Char} {parts : List (List Char)}
    (hfill : (pieces .text (before ++ cs)).mapM fill = .ok parts) : cs <:+ parts.flatten := by
  rcases pieces_append h .text before with ⟨e, he⟩ | ⟨front, hfront⟩
  · obtain ⟨out, hout⟩ := mapM_ok_of_mem hfill he
    rw [herror] at hout
    cases hout
  · rw [hfront, List.mapM_append, List.mapM_map, mapM_of_ok (f := fill ∘ _) hchar] at hfill
    simp only [bind, Except.bind] at hfill
    split at hfill
    · cases hfill
    · next first _ =>
      obtain rfl : first ++ cs.map (fun c => [c]) = parts := Except.ok.inj hfill
      exact ⟨first.flatten, by rw [List.flatten_append, ← List.flatMap_def, List.flatMap_singleton']⟩

/-- What stands at the end of a template, outside of its fields, stands at the end of
what it is filled to. -/
theorem suffix_fillFields {depth : Nat} (h : Plain cs) (hs : cs <:+ template)
    (hfill : fillFields values depth template = .ok out) : cs <:+ out := by
  obtain ⟨before, rfl⟩ := hs
  cases depth with
  | zero => cases hfill
  | succ depth =>
    simp only [fillFields, bind, Except.bind] at hfill
    split at hfill
    · cases hfill
    · next parts hparts =>
      obtain rfl : parts.flatten = out := Except.ok.inj hfill
      exact suffix_filled (fun _ => rfl) (fun _ => rfl) h hparts

theorem suffix_fillTemplate {template text : String} (h : Plain cs) (hs : cs <:+ template.toList)
    (hfill : fillTemplate values template = .ok text) : cs <:+ text.toList := by
  unfold fillTemplate at hfill
  cases hfields : fillFields values 2 template.toList with
  | error e => simp [hfields, Except.map] at hfill
  | ok out =>
    obtain rfl : String.ofList out = text := by simpa [hfields, Except.map] using hfill
    simpa using suffix_fillFields h hs hfields

theorem splitLast?_of_not_mem {mark : Char} (h : mark ∉ cs) : splitLast? mark cs = none := by
  cases hs : splitLast? mark cs with
  | none => rfl
  | some cut => exact absurd (by simp [(splitLast?_eq_some hs).1]) h

theorem splitLast?_append {mark : Char} {after : List Char} (h : mark ∉ after)
    (before : List Char) : splitLast? mark (before ++ mark :: after) = some (before, after) := by
  induction before with
  | nil => simp [splitLast?, splitLast?_of_not_mem h]
  | cons c rest ih => simp [splitLast?, ih]

end Text

-- ---------------------------------------------------------------------------
-- Names that end like an archive's
-- ---------------------------------------------------------------------------

namespace Archive

variable {path : Path} {data content : Bytes} {tile : String} {files : FileSystem}
  {unpacker : Unpacker}

theorem hasArchiveSuffix_of_name (h : ".zip".toList <:+ path.name.toList)
    (hne : path.name ≠ ".zip") : hasArchiveSuffix path := by
  obtain ⟨before, hbefore⟩ := h
  have hcut : Text.splitLast? '.' path.name.toList = some (before, "zip".toList) := by
    rw [← hbefore]
    exact Text.splitLast?_append (by decide) before
  have hb : before ≠ [] := by
    rintro rfl
    exact hne (String.toList_inj.mp hbefore.symm)
  have hsuffix : path.suffix = ".zip" := by
    simp [Path.suffix, Path.splitSuffix, hcut, hb]
  unfold hasArchiveSuffix
  rw [hsuffix]
  decide

/-- A template that ends like an archive names archives, unless it names the mere ending. -/
theorem hasArchiveSuffix_archive {copy : LocalCopy} (h : ".zip".toList <:+ copy.template.toList)
    (ha : copy.archive = .ok path) (hne : path.name ≠ ".zip") : hasArchiveSuffix path := by
  unfold LocalCopy.archive at ha
  cases hfill : Text.fillTemplate [("stem", copy.plain.stem)] copy.template with
  | error e => simp [hfill, bind, Except.bind] at ha
  | ok name =>
    simp only [hfill, mapError_ok, bind, Except.bind] at ha
    cases hname : copy.plain.withName name with
    | error e => simp [hname] at ha
    | ok found =>
      obtain rfl : found = path := by simpa [hname] using ha
      refine hasArchiveSuffix_of_name ?_ hne
      rw [Path.name_withName hname]
      exact Text.suffix_fillTemplate ⟨by decide, by decide⟩ h hfill

-- ---------------------------------------------------------------------------
-- The tile in an archive
-- ---------------------------------------------------------------------------

/-- The archive holds the tile's content under one of the names a tile may have in an
archive at the path, and has no entry of another one of them. -/
def Holds (archive : Archive) (path : Path) (tile : String) (content : Bytes) : Prop :=
  ∃ name ∈ candidates path tile, (archive.read name).toOption = some content ∧
    ∀ other ∈ candidates path tile, other ∈ archive.names → other = name

def Carries (unpacker : Unpacker) (data : Bytes) (path : Path) (tile : String) (content : Bytes) :
    Prop :=
  ∃ archive ∈ (ofBytes data unpacker).toOption, archive.Holds path tile content

instance (archive : Archive) (path : Path) (tile : String) (content : Bytes) :
    Decidable (archive.Holds path tile content) :=
  inferInstanceAs (Decidable (∃ name ∈ candidates path tile, _))

instance (unpacker : Unpacker) (data : Bytes) (path : Path) (tile : String) (content : Bytes) :
    Decidable (Carries unpacker data path tile content) :=
  inferInstanceAs (Decidable (∃ archive ∈ (ofBytes data unpacker).toOption, _))

theorem mem_names_of_read {archive : Archive} {name : String}
    (h : archive.read name = .ok content) : name ∈ archive.names := by
  unfold read at h
  split at h
  · next entry hfind => exact (find?_isSome archive name).mp (by simp [hfind])
  · cases h

theorem resolve_of_unique {archive : Archive} {name : String} (hc : name ∈ candidates path tile)
    (hn : name ∈ archive.names)
    (hu : ∀ other ∈ candidates path tile, other ∈ archive.names → other = name) :
    archive.resolve path tile = .ok name := by
  cases hr : archive.resolve path tile with
  | error fault => exact absurd hn (((resolve_eq_error_iff _ _ _ _).mp hr).2 name hc)
  | ok found =>
    obtain ⟨hcandidate, hname⟩ := resolve_eq_ok hr
    rw [hu found hcandidate hname]

def contentIn (unpacker : Unpacker) (data : Bytes) (path : Path) (tile : String) :
    Except Fault Bytes := do
  let archive ← ofBytes data unpacker
  let name ← archive.resolve path tile
  archive.read name

theorem readTile_eq_contentIn (hsuffix : hasArchiveSuffix path)
    (hfile : files.content? path = some data) :
    readTile files path tile unpacker = contentIn unpacker data path tile := by
  simp [readTile, contentIn, hsuffix, FileSystem.read_of_content? hfile, bind, Except.bind]

theorem contentIn_of_carries (h : Carries unpacker data path tile content) :
    contentIn unpacker data path tile = .ok content := by
  obtain ⟨archive, hbytes, name, hcandidate, hread, hunique⟩ := h
  have hbytes := toOption_eq_some.mp hbytes
  have hread := toOption_eq_some.mp hread
  have hresolve := resolve_of_unique hcandidate (mem_names_of_read hread) hunique
  simp [contentIn, hbytes, hresolve, hread, bind, Except.bind]

theorem readTile_of_carries (hsuffix : hasArchiveSuffix path)
    (hfile : files.content? path = some data) (h : Carries unpacker data path tile content) :
    readTile files path tile unpacker = .ok content := by
  rw [readTile_eq_contentIn hsuffix hfile, contentIn_of_carries h]

end Archive

end TerrainTiles
