import TerrainTiles.Proofs.Files.Tree
import TerrainTiles.Proofs.Source.Directory

/-!
# Going down

Names that are neither empty nor dots and have no slash lead down level by level
(`IsEntry`). Where they lead (`descend`) is decided by two things: whether a
directory is at the end, and whether a file stands on the way (`descend_congr`).
The directories on the way can be made exactly if no file is there, and nothing
else changes then (`makeDirectories_below`).
-/

namespace TerrainTiles

namespace Path

structure IsEntry (name : String) : Prop where
  nonempty : name ≠ ""
  ne_dot : name ≠ "."
  ne_up : name ≠ ".."
  no_slash : '/' ∉ name.toList
  no_null : '\x00' ∉ name.toList

def below (path : Path) (names : List String) : Path := { path with names := path.names ++ names }

@[simp] theorem below_nil (path : Path) : path.below [] = path := by simp [below]

theorem below_below (path : Path) (names more : List String) :
    (path.below names).below more = path.below (names ++ more) := by
  simp [below]

theorem parent_below_concat (path : Path) (names : List String) (name : String) :
    (path.below (names ++ [name])).parent = path.below names := by
  simp [below, parent, ← List.append_assoc]

end Path

namespace FileSystem

open TerrainTiles.Path (IsEntry)

variable {fs fs' : FileSystem} {root : Path} {loc base directory : Location} {name last : String}
  {names more : List String}

-- ---------------------------------------------------------------------------
-- Walks in two parts
-- ---------------------------------------------------------------------------

/-- Where the first part ends, in an error or at a directory, the second one goes on. -/
theorem walk_append_cases (fs : FileSystem) (directory : Location) (names more : List String) :
    (∃ code, fs.walk directory names = .error code ∧
        fs.walk directory (names ++ more) = .error code) ∨
      ∃ base, fs.walk directory names = .ok base ∧ (fs.node? base = some .directory →
        fs.walk directory (names ++ more) = fs.walk base more) := by
  induction names generalizing directory with
  | nil => exact .inr ⟨directory, rfl, fun _ => rfl⟩
  | cons name rest ih =>
    simp only [walk, List.cons_append]
    split
    · exact ih directory
    · split
      · exact ih directory.dropLast
      · cases rest with
        | nil =>
          refine .inr ⟨directory ++ [name], rfl, fun hd => ?_⟩
          cases more <;> simp [hd, walk]
        | cons next rest =>
          rcases hn : fs.node? (directory ++ [name]) with _ | _ | content
          · exact .inl ⟨.notFound, rfl, rfl⟩
          · exact ih (directory ++ [name])
          · exact .inl ⟨.notDirectory, rfl, rfl⟩

theorem walk_append (hw : fs.walk directory names = .ok base)
    (hd : fs.node? base = some .directory) :
    fs.walk directory (names ++ more) = fs.walk base more := by
  rcases walk_append_cases fs directory names more with ⟨code, hfails, -⟩ | ⟨found, hfound, hmore⟩
  · rw [hfails] at hw
    cases hw
  · obtain rfl : found = base := Except.ok.inj (hfound.symm.trans hw)
    exact hmore hd

theorem walk_append_error {code : FileError.Code} (hw : fs.walk directory names = .error code) :
    fs.walk directory (names ++ more) = .error code := by
  rcases walk_append_cases fs directory names more with ⟨_, hfails, hmore⟩ | ⟨found, hfound, -⟩
  · rwa [hfails.symm.trans hw] at hmore
  · rw [hfound] at hw
    cases hw

theorem stepsOf_of_plain {path : Path} (h : ∀ name ∈ path.names, name ≠ "" ∧ '/' ∉ name.toList) :
    stepsOf path = path.names := by
  have hsteps : ∀ name ∈ path.names,
      ((Text.splitAt '/' name.toList).filter (· ≠ [])).map String.ofList = [name] := by
    intro name hname
    have hne : name.toList ≠ [] := by simpa using (h name hname).1
    simp [Text.splitAt_of_not_mem (h name hname).2, hne]
  rw [stepsOf, List.flatMap_congr hsteps]
  simp

theorem stepsOf_below (h : ∀ name ∈ names, IsEntry name) :
    stepsOf (root.below names) = stepsOf root ++ names := by
  have hnames : stepsOf ⟨root.anchor, names⟩ = names :=
    stepsOf_of_plain fun name hname => ⟨(h name hname).nonempty, (h name hname).no_slash⟩
  simpa [stepsOf, Path.below] using hnames

-- ---------------------------------------------------------------------------
-- Directories on the way
-- ---------------------------------------------------------------------------

/-- Where names lead that have to be directories. -/
def descend (fs : FileSystem) (directory : Location) : List String → Except FileError.Code Location
  | [] => .ok directory
  | name :: rest =>
    match fs.node? (directory ++ [name]) with
    | some .directory => fs.descend (directory ++ [name]) rest
    | some (.file _) => .error .notDirectory
    | none => .error .notFound

/-- A file stands on the way or at its end. -/
def Blocked (fs : FileSystem) (directory : Location) (names : List String) : Prop :=
  ∃ front content, front <+: names ∧ fs.node? (directory ++ front) = some (.file content)

theorem walk_concat (h : ∀ name ∈ names, IsEntry name) (hlast : IsEntry last) :
    fs.walk directory (names ++ [last]) = (fs.descend directory names).map (· ++ [last]) := by
  induction names generalizing directory with
  | nil => simp [walk, descend, hlast.ne_dot, hlast.ne_up, Except.map]
  | cons name rest ih =>
    obtain ⟨hname, hrest⟩ := List.forall_mem_cons.mp h
    simp only [List.cons_append, walk, hname.ne_dot, hname.ne_up, if_false, descend]
    rcases hn : fs.node? (directory ++ [name]) with _ | _ | _
    · cases rest <;> rfl
    · rw [← ih hrest]
      cases rest <;> rfl
    · cases rest <;> rfl

theorem walk_entry (hlast : IsEntry last) (hw : fs.walk directory (names ++ [last]) = .ok loc) :
    ∃ parent, fs.walk directory names = .ok parent ∧ loc = parent ++ [last] := by
  induction names generalizing directory with
  | nil =>
    simp only [List.nil_append, walk, hlast.ne_dot, hlast.ne_up, if_false] at hw
    cases hw
    exact ⟨directory, rfl, rfl⟩
  | cons name rest ih =>
    simp only [List.cons_append, walk] at hw ⊢
    split at hw
    · next hdot => simpa [hdot] using ih hw
    · next hdot =>
      split at hw
      · next hup => simpa [hup] using ih hw
      · next hup =>
        simp only [hdot, hup, if_false]
        split at hw
        · next hnil => simp at hnil
        · next hd _ =>
          obtain ⟨parent, hparent, hloc⟩ := ih hw
          refine ⟨parent, ?_, hloc⟩
          cases rest with
          | nil => exact hparent
          | cons step rest => simpa only [hd] using hparent
        · cases hw
        · cases hw

theorem locate_below_entry {path : Path} (hname : IsEntry name)
    (hl : fs.locate (path.below [name]) = .ok loc) :
    ∃ parent, fs.locate path = .ok parent ∧ loc = parent ++ [name] := by
  have hsteps : stepsOf (path.below [name]) = stepsOf path ++ [name] :=
    stepsOf_below (by simpa using hname)
  obtain ⟨hnull, hw⟩ := locate_ok hl
  rw [hsteps] at hw
  obtain ⟨parent, hparent, hloc⟩ := walk_entry hname hw
  have hclean : path.names.any (·.toList.contains '\x00') = false := by
    rw [Path.below, List.any_append, Bool.or_eq_false_iff] at hnull
    exact hnull.1
  refine ⟨parent, ?_, hloc⟩
  rw [locate, hclean, hparent]
  rfl

theorem blocked_cons (hd : fs.node? directory = some .directory) :
    fs.Blocked directory (name :: names) ↔
      (∃ content, fs.node? (directory ++ [name]) = some (.file content)) ∨
        fs.Blocked (directory ++ [name]) names := by
  constructor
  · rintro ⟨_ | ⟨first, front⟩, content, hfront, hn⟩
    · simp [hd] at hn
    · obtain ⟨rfl, hrest⟩ := List.cons_prefix_cons.mp hfront
      refine .inr ⟨front, content, hrest, ?_⟩
      rwa [List.append_assoc, List.singleton_append]
  · rintro (⟨content, hn⟩ | ⟨front, content, hfront, hn⟩)
    · exact ⟨[name], content, by simp, hn⟩
    · refine ⟨name :: front, content, List.cons_prefix_cons.mpr ⟨rfl, hfront⟩, ?_⟩
      rwa [List.append_assoc, List.singleton_append] at hn

theorem blocked_concat : fs.Blocked directory (names ++ [last]) ↔
    fs.Blocked directory names ∨
      ∃ content, fs.node? (directory ++ names ++ [last]) = some (.file content) := by
  simp only [Blocked, List.prefix_concat_iff, List.append_assoc]
  constructor
  · rintro ⟨front, content, rfl | hfront, hn⟩
    · exact .inr ⟨content, hn⟩
    · exact .inl ⟨front, content, hfront, hn⟩
  · rintro (⟨front, content, hfront, hn⟩ | ⟨content, hn⟩)
    · exact ⟨front, content, .inr hfront, hn⟩
    · exact ⟨_, content, .inl rfl, hn⟩

theorem not_blocked_of_directory (h : fs.IsTree)
    (hd : fs.node? (directory ++ names) = some .directory) : ¬ fs.Blocked directory names := by
  rintro ⟨front, content, ⟨_ | ⟨next, rest⟩, rfl⟩, hn⟩
  · rw [List.append_nil, hn] at hd
    cases hd
  · rw [← List.append_assoc] at hd
    rw [h.above (hd ▸ Option.some_ne_none _)] at hn
    cases hn

theorem descend_of_directory (h : fs.IsTree)
    (hd : fs.node? (directory ++ names) = some .directory) :
    fs.descend directory names = .ok (directory ++ names) := by
  induction names generalizing directory with
  | nil => simp [descend]
  | cons name rest ih =>
    rw [← List.singleton_append, ← List.append_assoc] at hd ⊢
    have hnext : fs.node? (directory ++ [name]) = some .directory := by
      cases rest with
      | nil => simpa using hd
      | cons => exact h.above (hd ▸ Option.some_ne_none _)
    simp only [List.singleton_append, descend, hnext]
    exact ih hd

open Classical in
theorem descend_of_ne_directory (h : fs.IsTree) (hd : fs.node? directory = some .directory)
    (hne : fs.node? (directory ++ names) ≠ some .directory) :
    fs.descend directory names =
      .error (if fs.Blocked directory names then .notDirectory else .notFound) := by
  induction names generalizing directory with
  | nil => exact absurd (by simpa using hd) hne
  | cons name rest ih =>
    rw [← List.singleton_append, ← List.append_assoc] at hne
    simp only [descend, blocked_cons hd]
    rcases hn : fs.node? (directory ++ [name]) with _ | _ | content
    · -- Nothing stands below what is missing.
      have hfree : ¬ fs.Blocked (directory ++ [name]) rest := by
        rintro ⟨front, content, -, hfile⟩
        cases front with
        | nil => simp [hn] at hfile
        | cons =>
          have hnext := h.above (hfile ▸ Option.some_ne_none _)
          simp [hn] at hnext
      simp [hfree]
    · simpa using ih hn hne
    · simp

/-- Going down ends alike in two trees that have the same at the end and both or
neither a file on the way. -/
theorem descend_congr (h : fs.IsTree) (h' : fs'.IsTree)
    (hd : fs.node? directory = some .directory) (hd' : fs'.node? directory = some .directory)
    (hend : fs'.node? (directory ++ names) = fs.node? (directory ++ names))
    (hblocked : fs'.Blocked directory names ↔ fs.Blocked directory names) :
    fs'.descend directory names = fs.descend directory names := by
  by_cases hn : fs.node? (directory ++ names) = some .directory
  · rw [descend_of_directory h hn, descend_of_directory h' (hend.trans hn)]
  · classical
    rw [descend_of_ne_directory h hd hn, descend_of_ne_directory h' hd' (by rwa [hend])]
    simp only [hblocked]

-- ---------------------------------------------------------------------------
-- Below a path that leads to a directory
-- ---------------------------------------------------------------------------

structure Leads (fs : FileSystem) (root : Path) (base : Location) : Prop where
  tree : fs.IsTree
  locates : fs.locate root = .ok base
  directory : fs.node? base = some .directory

theorem Leads.mono (h : fs.Leads root base) (hkeeps : fs.KeepsDirectories fs')
    (htree : fs'.IsTree) : fs'.Leads root base :=
  ⟨htree, locate_of_keepsDirectories hkeeps h.locates, hkeeps _ h.directory⟩

/-- A root still leads to its directory if something but a directory is changed where a path
leads. -/
theorem Leads.change {path : Path} (h : fs.Leads root base) (hl : fs.locate path = .ok loc)
    (elsewhere : ∀ other, other ≠ loc → fs'.node? other = fs.node? other)
    (here : fs.node? loc = some .directory → fs'.node? loc = some .directory) :
    fs'.Leads root base := by
  have hkeeps : fs.KeepsDirectories fs' := by
    intro other hd
    by_cases heq : other = loc
    · exact heq ▸ here (heq ▸ hd)
    · rwa [elsewhere other heq]
  refine h.mono hkeeps fun above last hn => hkeeps above ?_
  by_cases heq : above ++ [last] = loc
  · rcases locate_cases h.tree hl with hd | ⟨parent, name, rfl, hd⟩
    · exact h.tree above last (by simp [heq, hd])
    · exact (List.append_inj' heq rfl).1 ▸ hd
  · exact h.tree above last (by rwa [elsewhere _ heq] at hn)

theorem locate_below (fs : FileSystem) (root : Path) (h : ∀ name ∈ names, IsEntry name) :
    fs.locate (root.below names) =
      if root.names.any (·.toList.contains '\x00') then
        .error ⟨.nullCharacter, (root.below names).text⟩
      else (fs.walk [] (stepsOf root ++ names)).mapError (⟨·, (root.below names).text⟩) := by
  have hnull : (root.below names).names.any (·.toList.contains '\x00') =
      root.names.any (·.toList.contains '\x00') := by
    have hnames : names.any (·.toList.contains '\x00') = false := by
      simpa using fun name hn => (h name hn).no_null
    rw [Path.below, List.any_append, hnames, Bool.or_false]
  rw [locate, hnull, stepsOf_below h]

theorem locate_below_of_error {e : FileError} (hl : fs.locate root = .error e)
    (h : ∀ name ∈ names, IsEntry name) :
    fs.locate (root.below names) = .error ⟨e.code, (root.below names).text⟩ := by
  unfold locate at hl
  rw [locate_below fs root h]
  split at hl
  · next hnull =>
    cases hl
    rw [if_pos hnull]
  · next hnull =>
    rw [if_neg hnull]
    cases hw : fs.walk [] (stepsOf root) with
    | ok => simp [hw] at hl
    | error code =>
      obtain rfl : ⟨code, root.text⟩ = e := by simpa [hw] using hl
      rw [walk_append_error hw, mapError_error]

theorem Leads.locate_concat (h : fs.Leads root base) (hnames : ∀ name ∈ names, IsEntry name)
    (hlast : IsEntry last) :
    fs.locate (root.below (names ++ [last])) =
      ((fs.descend base names).map (· ++ [last])).mapError
        (⟨·, (root.below (names ++ [last])).text⟩) := by
  obtain ⟨hnull, hroot⟩ := locate_ok h.locates
  have hentries : ∀ name ∈ names ++ [last], IsEntry name := by
    simpa [or_imp, forall_and] using ⟨hnames, hlast⟩
  rw [locate_below fs root hentries, if_neg (Bool.eq_false_iff.mp hnull),
    walk_append hroot h.directory, walk_concat hnames hlast]

theorem Leads.at?_below (h : fs.Leads root base) (hnames : ∀ name ∈ names, IsEntry name) :
    fs.at? (root.below names) = fs.node? (base ++ names) := by
  rcases List.eq_nil_or_concat' names with rfl | ⟨front, last, rfl⟩
  · simp [at?, h.locates]
  · have hlocate := h.locate_concat (fun name hn => hnames name (List.mem_append_left _ hn))
      (hnames last (by simp))
    unfold at?
    by_cases hd : fs.node? (base ++ front) = some .directory
    · rw [hlocate, descend_of_directory h.tree hd, ← List.append_assoc]
      rfl
    · classical
      rw [hlocate, descend_of_ne_directory h.tree h.directory hd, ← List.append_assoc]
      by_contra hne
      exact hd (h.tree _ last (Ne.symm hne))

theorem ensureDirectory_of_error {path : Path} {e : FileError} (h : fs.locate path = .error e) :
    fs.ensureDirectory path = .error e := by
  simp [ensureDirectory, makeDirectory, isDirectory, at?, h, bind, Except.bind]

theorem ensureDirectory_of_file {path : Path} {content : Bytes} (h : fs.locate path = .ok loc)
    (hn : fs.node? loc = some (.file content)) :
    fs.ensureDirectory path = .error ⟨.occupied, path.text⟩ := by
  simp [ensureDirectory, makeDirectory, isDirectory, at?, h, hn, bind, Except.bind, throw,
    throwThe, MonadExceptOf.throw]

theorem ensureDirectory_of_none {path : Path} (h : fs.locate path = .ok loc)
    (hn : fs.node? loc = none) : fs.ensureDirectory path = .ok (fs.set loc .directory) := by
  simp [ensureDirectory, makeDirectory, h, hn, bind, Except.bind, pure, Except.pure]

/-- The directories on the way to a location are there, and nothing else is changed. -/
structure Opened (fs : FileSystem) (loc : Location) (made : FileSystem) : Prop where
  tree : made.IsTree
  directory : made.node? loc = some .directory
  others : ∀ other, made.node? other = fs.node? other ∨
    fs.node? other = none ∧ made.node? other = some .directory ∧ other <+: loc

def obstacle (fs : FileSystem) (loc : Location) : FileError.Code :=
  match fs.node? loc with
  | some (.file _) => .occupied
  | _ => .notDirectory

theorem Opened.refl (h : fs.IsTree) (hd : fs.node? loc = some .directory) : fs.Opened loc fs :=
  ⟨h, hd, fun _ => .inl rfl⟩

theorem Opened.node?_below (h : fs.Opened loc fs') :
    fs'.node? (loc ++ name :: names) = fs.node? (loc ++ name :: names) := by
  rcases h.others (loc ++ name :: names) with heq | ⟨-, -, hprefix⟩
  · exact heq
  · have hlength := hprefix.length_le
    simp only [List.length_append, List.length_cons] at hlength
    omega

theorem Opened.concat (h : fs.Opened loc fs') (hn : fs.node? (loc ++ [last]) = none) :
    fs.Opened (loc ++ [last]) (fs'.set (loc ++ [last]) .directory) := by
  have hne : fs'.node? (loc ++ [last]) ≠ some .directory := by simp [h.node?_below, hn]
  refine ⟨isTree_set h.tree h.directory hne, node?_set fs' _ (by simp), fun other => ?_⟩
  by_cases heq : other = loc ++ [last]
  · subst heq
    exact .inr ⟨hn, node?_set fs' _ (by simp), List.prefix_rfl⟩
  · rw [node?_set_ne fs' _ heq]
    exact (h.others other).imp_right fun ⟨hnone, hd, hprefix⟩ =>
      ⟨hnone, hd, hprefix.trans (List.prefix_append loc [last])⟩

theorem makeDirectories_concat (fs : FileSystem) (path : Path) (last : String) :
    fs.makeDirectories (path.below [last]) = match fs.ensureDirectory (path.below [last]) with
      | .ok made => (.ok (), made)
      | .error e =>
        if e.code = .notFound then
          match fs.makeDirectories path with
          | (.error e, left) => (.error e, left)
          | (.ok (), left) => match left.ensureDirectory (path.below [last]) with
            | .ok made => (.ok (), made)
            | .error e => (.error e, left)
        else (.error e, fs) := by
  have hreverse : (path.below [last]).names.reverse = last :: path.names.reverse := by
    simp [Path.below]
  unfold makeDirectories
  rw [hreverse, makeUpwards, ← hreverse, List.reverse_reverse]
  rfl

/-- What cannot be walked for another reason than a missing directory is not made. -/
theorem makeDirectories_of_error {path : Path} {e : FileError}
    (h : fs.locate (path.below [last]) = .error e) (he : e.code ≠ .notFound) :
    fs.makeDirectories (path.below [last]) = (.error e, fs) := by
  rw [makeDirectories_concat, ensureDirectory_of_error h]
  exact if_neg he

/-- Making directories stops at a file on the way, or makes what is missing. -/
theorem Leads.makeDirectories_below (h : fs.Leads root base)
    (hnames : ∀ name ∈ names, IsEntry name) :
    fs.Blocked base names ∧ fs.makeDirectories (root.below names) =
        (.error ⟨fs.obstacle (base ++ names), (root.below names).text⟩, fs) ∨
      ¬ fs.Blocked base names ∧ ∃ made, fs.makeDirectories (root.below names) = (.ok (), made) ∧
        fs.Opened (base ++ names) made := by
  induction names using List.reverseRecOn with
  | nil =>
    have hd : fs.isDirectory (root.below []) :=
      isDirectory_iff.mpr ⟨base, by simpa using h.locates, h.directory⟩
    have hbase : fs.node? (base ++ []) = some .directory := by simpa using h.directory
    exact .inr ⟨not_blocked_of_directory h.tree hbase, fs, makeDirectories_of_isDirectory hd,
      .refl h.tree hbase⟩
  | append_singleton names last ih =>
    have hnames' : ∀ name ∈ names, IsEntry name := fun name hn =>
      hnames name (List.mem_append_left _ hn)
    have hlast : IsEntry last := hnames last (by simp)
    have hlocate := h.locate_concat hnames' hlast
    rw [← Path.below_below] at hlocate ⊢
    rw [makeDirectories_concat, blocked_concat, ← List.append_assoc]
    by_cases hd : fs.node? (base ++ names) = some .directory
    · -- What is to hold it is there, so only the last name counts.
      rw [descend_of_directory h.tree hd] at hlocate
      have hfree := not_blocked_of_directory h.tree hd
      rcases hn : fs.node? (base ++ names ++ [last]) with _ | _ | content
      · rw [ensureDirectory_of_none hlocate hn]
        exact .inr ⟨by simp [hfree], _, rfl, (Opened.refl h.tree hd).concat hn⟩
      · rw [ensureDirectory_of_isDirectory (isDirectory_iff.mpr ⟨_, hlocate, hn⟩)]
        exact .inr ⟨by simp [hfree], _, rfl, .refl h.tree hn⟩
      · rw [ensureDirectory_of_file hlocate hn]
        exact .inl ⟨.inr ⟨content, rfl⟩, by simp only [obstacle, hn, reduceCtorEq, if_false]⟩
    · have hn : fs.node? (base ++ names ++ [last]) = none := by
        by_contra hne
        exact hd (h.tree _ last hne)
      classical
      rw [descend_of_ne_directory h.tree h.directory hd] at hlocate
      rw [ensureDirectory_of_error hlocate]
      rcases ih hnames' with ⟨hblocked, -⟩ | ⟨hfree, made, hmake, hopened⟩
      · refine .inl ⟨.inl hblocked, ?_⟩
        simp only [hblocked, if_true, obstacle, hn, reduceCtorEq, if_false]
      · have hlater : made.Leads root base :=
          h.mono (by simpa [hmake] using keepsDirectories_makeDirectories fs (root.below names))
            hopened.tree
        have hlocate := hlater.locate_concat hnames' hlast
        rw [descend_of_directory hlater.tree hopened.directory, ← Path.below_below] at hlocate
        have hensure := ensureDirectory_of_none hlocate (hopened.node?_below.trans hn)
        refine .inr ⟨?_, _, by simp only [hfree, if_false, if_true, hmake, hensure],
          hopened.concat hn⟩
        simp only [hfree, hn, reduceCtorEq, exists_false, or_self, not_false_eq_true]

end FileSystem

end TerrainTiles
