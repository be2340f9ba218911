import TerrainTiles.Proofs.Files.Descent

/-!
# Directories beside each other

A site is a directory whose subdirectories have owners. `Agrees` says that two
file systems look alike from one of the subdirectories: whatever is asked or done
at a file right in it ends alike in both, and leaves them looking alike. `Beside`
says what such an operation changes: the subdirectory, and the directories on the
way to it, which may be made. So an owner does not notice what the others do
(`Agrees.of_beside`).

Only where a path goes up again can a directory that is made on the way change
what is found below. That is why a site's path has to lead somewhere as far as
its last `..`, or nowhere for another reason than a missing directory.
-/

namespace TerrainTiles

/-- The path of a directory: `root` goes as far as its last `..` and leads to
`base?`, or nowhere, and the `trail` goes down from there. -/
structure Site where
  root : Path
  base? : Option Location
  trail : List String
  entries : ∀ name ∈ trail, Path.IsEntry name

namespace Site

open FileSystem
open TerrainTiles.Path (IsEntry)

variable {site : Site} {id other name : String} {names : List String} {base loc : Location}
  {fs fs' left left' : FileSystem} {node : Node}

/-- The path of something below the site. -/
def path (site : Site) (names : List String) : Path := site.root.below (site.trail ++ names)

def place (site : Site) (base : Location) (names : List String) : Location :=
  base ++ (site.trail ++ names)

/-- Two file systems look alike from a subdirectory: what is below it is the same,
and a file is in the way to it in both or in neither; or the site cannot be
reached in either. -/
inductive Agrees (site : Site) (id : String) (fs fs' : FileSystem) : Prop
  | found {base : Location} (hbase : site.base? = some base) (leads : fs.Leads site.root base)
      (leads' : fs'.Leads site.root base)
      (nodes : ∀ names, fs'.node? (site.place base (id :: names)) =
        fs.node? (site.place base (id :: names)))
      (blocked : fs'.Blocked base (site.trail ++ [id]) ↔ fs.Blocked base (site.trail ++ [id]))
  | barred {e : FileError} (hbase : site.base? = none) (fails : fs.locate site.root = .error e)
      (fails' : fs'.locate site.root = .error e) (present : e.code ≠ .notFound)

inductive Beside (site : Site) (id : String) (fs : FileSystem) : FileSystem → Prop
  | same : Beside site id fs fs
  | found {base : Location} {fs' : FileSystem} (hbase : site.base? = some base)
      (leads : fs'.Leads site.root base)
      (nodes : ∀ loc, fs'.node? loc = fs.node? loc ∨ site.place base [id] <+: loc ∨
        fs.node? loc = none ∧ fs'.node? loc = some .directory ∧ loc <+: site.place base [id]) :
      Beside site id fs fs'

theorem path_concat (site : Site) (names : List String) (name : String) :
    site.path (names ++ [name]) = site.root.below (site.trail ++ names ++ [name]) := by
  rw [path, List.append_assoc]

theorem parent_path (site : Site) (id name : String) :
    (site.path [id, name]).parent = site.path [id] := by
  have hpath := path_concat site [id] name
  rw [List.singleton_append] at hpath
  rw [hpath, Path.parent_below_concat, path]

theorem entries_append (site : Site) (h : ∀ name ∈ names, IsEntry name) :
    ∀ name ∈ site.trail ++ names, IsEntry name := by
  intro name hname
  exact (List.mem_append.mp hname).elim (site.entries name) (h name)

-- ---------------------------------------------------------------------------
-- Looking
-- ---------------------------------------------------------------------------

theorem Agrees.refl_of_leads (hbase : site.base? = some base) (h : fs.Leads site.root base)
    (id : String) : site.Agrees id fs fs :=
  .found hbase h h (fun _ => rfl) Iff.rfl

theorem Agrees.refl (h : site.Agrees id fs fs') (other : String) : site.Agrees other fs fs := by
  cases h with
  | found hbase leads => exact .refl_of_leads hbase leads other
  | barred hbase fails _ present => exact .barred hbase fails fails present

theorem Agrees.symm (h : site.Agrees id fs fs') : site.Agrees id fs' fs := by
  cases h with
  | found hbase leads leads' nodes blocked =>
    exact .found hbase leads' leads (fun names => (nodes names).symm) blocked.symm
  | barred hbase fails fails' present => exact .barred hbase fails' fails present

theorem Agrees.locate (h : site.Agrees id fs fs') (hid : IsEntry id) (hname : IsEntry name) :
    fs'.locate (site.path [id, name]) = fs.locate (site.path [id, name]) ∧
      ∀ loc, fs.locate (site.path [id, name]) = .ok loc →
        ∃ base, site.base? = some base ∧ loc = site.place base [id, name] := by
  have hentries : ∀ n ∈ [id, name], IsEntry n := by simp [hid, hname]
  cases h with
  | @found base hbase leads leads' nodes blocked =>
    have hpath := path_concat site [id] name
    have hdown : ∀ name ∈ site.trail ++ [id], IsEntry name :=
      site.entries_append (by simpa using hid)
    have hend := nodes []
    rw [List.singleton_append] at hpath
    rw [hpath, leads.locate_concat hdown hname, leads'.locate_concat hdown hname,
      descend_congr leads.tree leads'.tree leads.directory leads'.directory hend blocked]
    refine ⟨rfl, fun loc hloc => ⟨base, hbase, ?_⟩⟩
    by_cases hd : fs.node? (base ++ (site.trail ++ [id])) = some .directory
    · rw [descend_of_directory leads.tree hd] at hloc
      cases hloc
      simp [place]
    · classical
      rw [descend_of_ne_directory leads.tree leads.directory hd] at hloc
      cases hloc
  | barred hbase fails fails' present =>
    have hdown := site.entries_append hentries
    rw [path, locate_below_of_error fails hdown, locate_below_of_error fails' hdown]
    exact ⟨rfl, fun loc hloc => by cases hloc⟩

theorem Agrees.node?_eq (h : site.Agrees id fs fs') (hbase : site.base? = some base)
    (names : List String) :
    fs'.node? (site.place base (id :: names)) = fs.node? (site.place base (id :: names)) := by
  cases h with
  | found hbase' _ _ nodes =>
    obtain rfl : base = _ := Option.some.inj (hbase.symm.trans hbase')
    exact nodes names
  | barred hbase' => simp [hbase] at hbase'

theorem Agrees.at?_eq (h : site.Agrees id fs fs') (hid : IsEntry id)
    (hnames : ∀ name ∈ names, IsEntry name) :
    fs'.at? (site.path (id :: names)) = fs.at? (site.path (id :: names)) := by
  have hdown : ∀ name ∈ site.trail ++ id :: names, IsEntry name :=
    site.entries_append (by simpa [hid] using hnames)
  cases h with
  | found hbase leads leads' nodes blocked =>
    rw [path, leads.at?_below hdown, leads'.at?_below hdown]
    exact nodes names
  | barred hbase fails fails' present =>
    simp only [path, at?, locate_below_of_error fails hdown, locate_below_of_error fails' hdown]

theorem Agrees.isFile_eq (h : site.Agrees id fs fs') (hid : IsEntry id) (hname : IsEntry name) :
    fs'.isFile (site.path [id, name]) = fs.isFile (site.path [id, name]) := by
  rw [isFile, isFile, h.at?_eq hid (by simpa using hname)]

theorem Agrees.read_eq (h : site.Agrees id fs fs') (hid : IsEntry id) (hname : IsEntry name) :
    fs'.read (site.path [id, name]) = fs.read (site.path [id, name]) := by
  obtain ⟨hlocate, hplace⟩ := h.locate hid hname
  unfold FileSystem.read
  rw [hlocate]
  cases hl : fs.locate (site.path [id, name]) with
  | error => rfl
  | ok loc =>
    obtain ⟨base, hbase, rfl⟩ := hplace loc hl
    simp only [bind, Except.bind, h.node?_eq hbase [name]]

-- ---------------------------------------------------------------------------
-- Changing
-- ---------------------------------------------------------------------------

theorem Agrees.makeDirectories (h : site.Agrees id fs fs') (hid : IsEntry id) :
    (fs'.makeDirectories (site.path [id])).1 = (fs.makeDirectories (site.path [id])).1 ∧
      site.Agrees id (fs.makeDirectories (site.path [id])).2
        (fs'.makeDirectories (site.path [id])).2 ∧
      site.Beside id fs (fs.makeDirectories (site.path [id])).2 := by
  have hdown : ∀ name ∈ site.trail ++ [id], IsEntry name :=
    site.entries_append (by simpa using hid)
  have hagrees := h
  cases h with
  | @found base hbase leads leads' nodes blocked =>
    rcases leads.makeDirectories_below hdown with
      ⟨hblocked, hmake⟩ | ⟨hfree, made, hmake, hopened⟩ <;>
      rcases leads'.makeDirectories_below hdown with
        ⟨hblocked', hmake'⟩ | ⟨hfree', made', hmake', hopened'⟩
    · have hend : fs'.node? (base ++ (site.trail ++ [id])) =
          fs.node? (base ++ (site.trail ++ [id])) := nodes []
      rw [path, hmake, hmake', obstacle, obstacle, hend]
      exact ⟨rfl, hagrees, .same⟩
    · exact absurd (blocked.mpr hblocked) hfree'
    · exact absurd (blocked.mp hblocked') hfree
    · have hkeeps := keepsDirectories_makeDirectories fs (site.path [id])
      have hkeeps' := keepsDirectories_makeDirectories fs' (site.path [id])
      rw [path, hmake] at hkeeps
      rw [path, hmake'] at hkeeps'
      have hmade := leads.mono hkeeps hopened.tree
      rw [path, hmake, hmake']
      refine ⟨rfl, .found hbase hmade (leads'.mono hkeeps' hopened'.tree) ?_ ?_,
        .found hbase hmade fun loc => ?_⟩
      · intro names
        cases names with
        | nil => exact hopened'.directory.trans hopened.directory.symm
        | cons next rest =>
          have hsplit : site.place base (id :: next :: rest) =
              base ++ (site.trail ++ [id]) ++ next :: rest := by simp [place]
          have hnodes := nodes (next :: rest)
          rw [hsplit] at hnodes ⊢
          rw [hopened.node?_below, hopened'.node?_below, hnodes]
      · exact iff_of_false (not_blocked_of_directory hopened'.tree hopened'.directory)
          (not_blocked_of_directory hopened.tree hopened.directory)
      · exact (hopened.others loc).imp_right .inr
  | @barred e hbase fails fails' present =>
    have hpath : (site.root.below site.trail).below [id] = site.path [id] := Path.below_below ..
    have hrefused : ∀ {files : FileSystem}, files.locate site.root = .error e →
        files.makeDirectories (site.path [id]) = (.error ⟨e.code, (site.path [id]).text⟩, files) :=
      fun hfails => hpath ▸ makeDirectories_of_error (hpath ▸ locate_below_of_error hfails hdown)
        present
    rw [hrefused fails, hrefused fails']
    exact ⟨rfl, hagrees, .same⟩

/-- A change of what stands at one place in the subdirectory, the same in both. -/
theorem Agrees.change (h : site.Agrees id fs fs') (hbase : site.base? = some base)
    (leads : left.Leads site.root base) (leads' : left'.Leads site.root base)
    (here : left'.node? (site.place base [id, name]) = left.node? (site.place base [id, name]))
    (elsewhere : ∀ loc, loc ≠ site.place base [id, name] → left.node? loc = fs.node? loc)
    (elsewhere' : ∀ loc, loc ≠ site.place base [id, name] → left'.node? loc = fs'.node? loc) :
    site.Agrees id left left' ∧ site.Beside id fs left := by
  have hfront : ∀ front, front <+: site.trail ++ [id] →
      base ++ front ≠ site.place base [id, name] := by
    intro front hfront heq
    have hlength := hfront.length_le
    have := congrArg List.length heq
    simp only [place, List.length_append, List.length_cons, List.length_nil] at this hlength
    omega
  cases h with
  | barred hbase' => simp [hbase] at hbase'
  | found hbase' _ _ nodes blocked =>
    obtain rfl : base = _ := Option.some.inj (hbase.symm.trans hbase')
    refine ⟨.found hbase leads leads' (fun names => ?_) ?_, .found hbase leads fun loc => ?_⟩
    · by_cases heq : site.place base (id :: names) = site.place base [id, name]
      · rw [heq, here]
      · rw [elsewhere _ heq, elsewhere' _ heq, nodes]
    · unfold Blocked
      refine Iff.trans ?_ (blocked.trans ?_)
      · exact exists_congr fun front => exists_congr fun content =>
          and_congr_right fun hprefix => by rw [elsewhere' _ (hfront front hprefix)]
      · exact exists_congr fun front => exists_congr fun content =>
          and_congr_right fun hprefix => by rw [elsewhere _ (hfront front hprefix)]
    · by_cases heq : loc = site.place base [id, name]
      · refine .inr (.inl ⟨[name], ?_⟩)
        simp [heq, place]
      · exact .inl (elsewhere loc heq)

theorem Agrees.leads (h : site.Agrees id fs fs') (hbase : site.base? = some base) :
    fs.Leads site.root base ∧ fs'.Leads site.root base := by
  cases h with
  | barred hbase' => simp [hbase] at hbase'
  | found hbase' leads leads' =>
    obtain rfl : base = _ := Option.some.inj (hbase.symm.trans hbase')
    exact ⟨leads, leads'⟩

theorem Agrees.set (h : site.Agrees id fs fs') (node : Node) (hbase : site.base? = some base)
    (htree : (fs.set (site.place base [id, name]) node).IsTree)
    (htree' : (fs'.set (site.place base [id, name]) node).IsTree)
    (hn : fs.node? (site.place base [id, name]) ≠ some .directory) :
    site.Agrees id (fs.set (site.place base [id, name]) node)
        (fs'.set (site.place base [id, name]) node) ∧
      site.Beside id fs (fs.set (site.place base [id, name]) node) := by
  obtain ⟨leads, leads'⟩ := h.leads hbase
  have hn' : fs'.node? (site.place base [id, name]) ≠ some .directory := by
    rwa [h.node?_eq hbase]
  refine h.change hbase (leads.mono (keepsDirectories_set hn) htree)
    (leads'.mono (keepsDirectories_set hn') htree') ?_ (fun loc hne => node?_set_ne fs node hne)
    (fun loc hne => node?_set_ne fs' node hne)
  rw [node?_set fs node (ne_nil_of_node? hn), node?_set fs' node (ne_nil_of_node? hn)]

/-- A file in the subdirectory is opened for writing in both or in neither. -/
theorem Agrees.create (h : site.Agrees id fs fs') (hid : IsEntry id) (hname : IsEntry name) :
    (∃ e, fs.create (site.path [id, name]) = .error e ∧
        fs'.create (site.path [id, name]) = .error e) ∨
      ∃ base left left', site.base? = some base ∧
        fs.create (site.path [id, name]) = .ok (site.place base [id, name], left) ∧
        fs'.create (site.path [id, name]) = .ok (site.place base [id, name], left') ∧
        site.Agrees id left left' ∧ site.Beside id fs left := by
  obtain ⟨hlocate, hplace⟩ := h.locate hid hname
  cases hl : fs.locate (site.path [id, name]) with
  | error e =>
    exact .inl ⟨e, by simp [FileSystem.create, hl, bind, Except.bind],
      by simp [FileSystem.create, hlocate, hl, bind, Except.bind]⟩
  | ok loc =>
    obtain ⟨base, hbase, rfl⟩ := hplace loc hl
    have hl' := hlocate.trans hl
    have hnode := h.node?_eq hbase [name]
    by_cases hn : fs.node? (site.place base [id, name]) = some .directory
    · refine .inl ⟨⟨.isDirectory, (site.path [id, name]).text⟩, ?_, ?_⟩
      · simp only [FileSystem.create, hl, hn, bind, Except.bind]
        rfl
      · simp only [FileSystem.create, hl', hnode, hn, bind, Except.bind]
        rfl
    · obtain ⟨leads, leads'⟩ := h.leads hbase
      have hn' : fs'.node? (site.place base [id, name]) ≠ some .directory := by rwa [hnode]
      have hafter := h.set (.file []) hbase (isTree_set_of_locate leads.tree hl hn)
        (isTree_set_of_locate leads'.tree hl' hn') hn
      exact .inr ⟨base, _, _, hbase, create_of_ne_directory hl hn,
        create_of_ne_directory hl' hn', hafter⟩

theorem Agrees.append (h : site.Agrees id fs fs') (hbase : site.base? = some base)
    (name : String) (chunk : Bytes) :
    site.Agrees id (fs.append (site.place base [id, name]) chunk)
        (fs'.append (site.place base [id, name]) chunk) ∧
      site.Beside id fs (fs.append (site.place base [id, name]) chunk) := by
  obtain ⟨leads, leads'⟩ := h.leads hbase
  have hnode := h.node?_eq hbase [name]
  have htree := isTree_append leads.tree (site.place base [id, name]) chunk
  have htree' := isTree_append leads'.tree (site.place base [id, name]) chunk
  unfold FileSystem.append at htree htree' ⊢
  rw [hnode] at htree' ⊢
  rcases hn : fs.node? (site.place base [id, name]) with _ | _ | content
  · exact ⟨h, .same⟩
  · exact ⟨h, .same⟩
  · rw [hn] at htree htree'
    exact h.set _ hbase htree htree' (by simp [hn])

theorem Agrees.unlink (h : site.Agrees id fs fs') (hid : IsEntry id) (hname : IsEntry name) :
    (∃ e, fs.unlink (site.path [id, name]) = .error e ∧
        fs'.unlink (site.path [id, name]) = .error e) ∨
      ∃ left left', fs.unlink (site.path [id, name]) = .ok left ∧
        fs'.unlink (site.path [id, name]) = .ok left' ∧
        site.Agrees id left left' ∧ site.Beside id fs left := by
  obtain ⟨hlocate, hplace⟩ := h.locate hid hname
  unfold FileSystem.unlink
  rw [hlocate]
  cases hl : fs.locate (site.path [id, name]) with
  | error e =>
    dsimp only
    split
    · exact .inr ⟨fs, fs', rfl, rfl, h, .same⟩
    · exact .inl ⟨e, rfl, rfl⟩
  | ok loc =>
    obtain ⟨base, hbase, rfl⟩ := hplace loc hl
    have hnode := h.node?_eq hbase [name]
    dsimp only
    rw [hnode]
    rcases hn : fs.node? (site.place base [id, name]) with _ | _ | content
    · exact .inr ⟨fs, fs', rfl, rfl, h, .same⟩
    · exact .inl ⟨_, rfl, rfl⟩
    · obtain ⟨leads, leads'⟩ := h.leads hbase
      have hne : fs.node? (site.place base [id, name]) ≠ some .directory := by simp [hn]
      have hne' : fs'.node? (site.place base [id, name]) ≠ some .directory := by rwa [hnode]
      refine .inr ⟨_, _, rfl, rfl, h.change hbase
        (leads.mono (keepsDirectories_erase hne) (isTree_erase leads.tree hne))
        (leads'.mono (keepsDirectories_erase hne') (isTree_erase leads'.tree hne')) ?_
        (fun loc hloc => node?_erase_ne fs hloc) (fun loc hloc => node?_erase_ne fs' hloc)⟩
      rw [node?_erase fs (ne_nil_of_node? hne), node?_erase fs' (ne_nil_of_node? hne)]

-- ---------------------------------------------------------------------------
-- What others do
-- ---------------------------------------------------------------------------

theorem Beside.trans {fs'' : FileSystem} (h : site.Beside id fs fs')
    (h' : site.Beside id fs' fs'') : site.Beside id fs fs'' := by
  cases h' with
  | same => exact h
  | found hbase leads nodes =>
    cases h with
    | same => exact .found hbase leads nodes
    | found hbase' _ nodes' =>
      obtain rfl := Option.some.inj (hbase.symm.trans hbase')
      refine .found hbase leads fun loc => ?_
      rcases nodes loc with heq | hbelow | ⟨hnone, hd, hprefix⟩
      · rw [heq]
        exact nodes' loc
      · exact .inr (.inl hbelow)
      · rcases nodes' loc with heq | hbelow | ⟨-, hd', -⟩
        · exact .inr (.inr ⟨heq ▸ hnone, hd, hprefix⟩)
        · exact .inr (.inl hbelow)
        · simp [hnone] at hd'

theorem Agrees.of_beside (h : site.Agrees id fs fs') (hbeside : site.Beside other fs left)
    (hne : other ≠ id) : site.Agrees id left fs' := by
  cases hbeside with
  | same => exact h
  | @found base _ hbase leads nodes =>
    cases h with
    | barred hbase' => simp [hbase] at hbase'
    | found hbase' _ leads' nodes' blocked =>
      obtain rfl := Option.some.inj (hbase.symm.trans hbase')
      refine .found hbase leads leads' (fun names => ?_) (blocked.trans ?_)
      · rw [nodes' names]
        rcases nodes (site.place base (id :: names)) with heq | hbelow | ⟨-, -, habove⟩
        · exact heq.symm
        · simp [place, List.prefix_append_right_inj, hne] at hbelow
        · simp [place, List.prefix_append_right_inj, Ne.symm hne] at habove
      · unfold Blocked
        refine exists_congr fun front => exists_congr fun content => ?_
        refine and_congr_right fun hfront => ?_
        rcases nodes (base ++ front) with heq | hbelow | ⟨hnone, hd, -⟩
        · rw [heq]
        · have hprefix : site.trail ++ [other] <+: front := by
            simpa [place, List.prefix_append_right_inj] using hbelow
          simpa [List.prefix_append_right_inj, hne] using hprefix.trans hfront
        · simp [hnone, hd]

end Site

end TerrainTiles
