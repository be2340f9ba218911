import TerrainTiles.Files.Bytes
import TerrainTiles.Files.Path

/-!
# The file system

A file system is a finite map from locations, the names on the way from the
root, to files and directories. A path is walked name by name: every name but
the last has to be a directory, and `..` goes up. Relative paths start at the
root. A path with a null character leads nowhere.

Each operation returns the file system it leaves or the error with the path it
was asked for. Only `makeDirectories` can fail half way; it returns what it has
made so far beside its result.
-/

namespace TerrainTiles

abbrev Location := List String

inductive Node where
  | directory
  | file (content : Bytes)
  deriving DecidableEq, Repr

/-- Why an operation fails. The system is not asked about null characters. -/
inductive FileError.Code where
  | notFound
  | occupied
  | notDirectory
  | isDirectory
  | nullCharacter
  deriving DecidableEq, Repr

namespace FileError.Code

def number? : FileError.Code → Option Nat
  | notFound => some 2
  | occupied => some 17
  | notDirectory => some 20
  | isDirectory => some 21
  | nullCharacter => none

def text : FileError.Code → String
  | notFound => "No such file or directory"
  | occupied => "File exists"
  | notDirectory => "Not a directory"
  | isDirectory => "Is a directory"
  | nullCharacter => "embedded null byte"

end FileError.Code

structure FileError where
  code : FileError.Code
  path : String
  deriving DecidableEq, Repr

namespace FileError

def message (e : FileError) : String :=
  match e.code.number? with
  | some number => s!"[Errno {number}] {e.code.text}: {Text.quoted e.path}"
  | none => e.code.text

end FileError

/-- Nodes other than the root, each location at most once. -/
structure FileSystem where
  entries : List (Location × Node)
  deriving Repr

namespace FileSystem

def empty : FileSystem := ⟨[]⟩

instance : Inhabited FileSystem := ⟨empty⟩

-- ---------------------------------------------------------------------------
-- Nodes by location
-- ---------------------------------------------------------------------------

/-- The root always exists. -/
def node? (fs : FileSystem) (loc : Location) : Option Node :=
  if loc = [] then some .directory else fs.entries.lookup loc

def erase (fs : FileSystem) (loc : Location) : FileSystem :=
  ⟨fs.entries.filter (·.1 ≠ loc)⟩

def set (fs : FileSystem) (loc : Location) (node : Node) : FileSystem :=
  ⟨(loc, node) :: (fs.erase loc).entries⟩

/-- No node stands below the location. -/
def isLeaf (fs : FileSystem) (loc : Location) : Bool :=
  fs.entries.all fun (other, _) => other.dropLast ≠ loc

-- ---------------------------------------------------------------------------
-- Walking
-- ---------------------------------------------------------------------------

def walk (fs : FileSystem) (directory : Location) : List String → Except FileError.Code Location
  | [] => .ok directory
  | name :: rest =>
    if name = "." then fs.walk directory rest
    else if name = ".." then fs.walk directory.dropLast rest
    else
      let next := directory ++ [name]
      match rest, fs.node? next with
      | [], _ => .ok next
      | _, some .directory => fs.walk next rest
      | _, some (.file _) => .error .notDirectory
      | _, none => .error .notFound

/-- A name can itself hold slashes after `Path.withName`. -/
def stepsOf (path : Path) : List String :=
  path.names.flatMap fun name =>
    ((Text.splitAt '/' name.toList).filter (· ≠ [])).map String.ofList

def locate (fs : FileSystem) (path : Path) : Except FileError Location :=
  if path.names.any (·.toList.contains '\x00') then .error ⟨.nullCharacter, path.text⟩
  else (fs.walk [] (stepsOf path)).mapError (⟨·, path.text⟩)

/-- The node at a path; a path that cannot be walked has none. -/
def at? (fs : FileSystem) (path : Path) : Option Node :=
  match fs.locate path with
  | .ok loc => fs.node? loc
  | .error _ => none

def isFile (fs : FileSystem) (path : Path) : Bool :=
  match fs.at? path with
  | some (.file _) => true
  | _ => false

def isDirectory (fs : FileSystem) (path : Path) : Bool := fs.at? path = some .directory

-- ---------------------------------------------------------------------------
-- Reading and writing files
-- ---------------------------------------------------------------------------

def read (fs : FileSystem) (path : Path) : Except FileError Bytes := do
  match fs.node? (← fs.locate path) with
  | some (.file content) => return content
  | some .directory => throw ⟨.isDirectory, path.text⟩
  | none => throw ⟨.notFound, path.text⟩

/-- Opens a file for writing: it is empty from now on. -/
def create (fs : FileSystem) (path : Path) : Except FileError (Location × FileSystem) := do
  let loc ← fs.locate path
  match fs.node? loc with
  | some .directory => throw ⟨.isDirectory, path.text⟩
  | _ => return (loc, fs.set loc (.file []))

def append (fs : FileSystem) (loc : Location) (chunk : Bytes) : FileSystem :=
  match fs.node? loc with
  | some (.file content) => fs.set loc (.file (content ++ chunk))
  | _ => fs

def unlink (fs : FileSystem) (path : Path) : Except FileError FileSystem :=
  match fs.locate path with
  | .error e => if e.code = .notFound then .ok fs else .error e
  | .ok loc => match fs.node? loc with
    | some (.file _) => .ok (fs.erase loc)
    | some .directory => .error ⟨.isDirectory, path.text⟩
    | none => .ok fs

-- ---------------------------------------------------------------------------
-- Directories
-- ---------------------------------------------------------------------------

def makeDirectory (fs : FileSystem) (path : Path) : Except FileError FileSystem := do
  let loc ← fs.locate path
  match fs.node? loc with
  | some _ => throw ⟨.occupied, path.text⟩
  | none => return fs.set loc .directory

def ensureDirectory (fs : FileSystem) (path : Path) : Except FileError FileSystem :=
  match fs.makeDirectory path with
  | .ok made => .ok made
  | .error e => if e.code ≠ .notFound ∧ fs.isDirectory path then .ok fs else .error e

/-- `makeDirectories` for the path with these names, last name first. -/
def makeUpwards (anchor : Anchor) : List String → FileSystem → Except FileError Unit × FileSystem
  | [], fs =>
    match fs.ensureDirectory ⟨anchor, []⟩ with
    | .ok made => (.ok (), made)
    | .error e => (.error e, fs)
  | name :: above, fs =>
    let path : Path := ⟨anchor, (name :: above).reverse⟩
    match fs.ensureDirectory path with
    | .ok made => (.ok (), made)
    | .error e =>
      if e.code = .notFound then
        match makeUpwards anchor above fs with
        | (.error e, left) => (.error e, left)
        | (.ok (), left) =>
          match left.ensureDirectory path with
          | .ok made => (.ok (), made)
          | .error e => (.error e, left)
      else (.error e, fs)

def makeDirectories (fs : FileSystem) (path : Path) : Except FileError Unit × FileSystem :=
  makeUpwards path.anchor path.names.reverse fs

-- ---------------------------------------------------------------------------
-- Changes from outside
-- ---------------------------------------------------------------------------

def place (fs : FileSystem) (path : Path) (node : Node) : FileSystem :=
  let fs := (fs.makeDirectories path.parent).2
  match fs.locate path with
  | .ok loc => fs.set loc node
  | .error _ => fs

/-- Removes a file or an empty directory, if there is one. -/
def remove (fs : FileSystem) (path : Path) : FileSystem :=
  match fs.locate path with
  | .ok loc => if fs.isLeaf loc then fs.erase loc else fs
  | .error _ => fs

-- ---------------------------------------------------------------------------
-- Small laws
-- ---------------------------------------------------------------------------

@[simp] theorem node?_nil (fs : FileSystem) : fs.node? [] = some .directory := rfl

theorem lookup_filter_ne (entries : List (Location × Node)) {loc other : Location}
    (h : other ≠ loc) : (entries.filter (·.1 ≠ loc)).lookup other = entries.lookup other := by
  induction entries with
  | nil => rfl
  | cons entry rest ih =>
    obtain ⟨key, node⟩ := entry
    by_cases hk : key = loc
    · subst hk
      have : (other == key) = false := by simpa using h
      simpa [List.lookup_cons, this] using ih
    · simp only [List.filter_cons, hk, ne_eq, not_false_eq_true, decide_true, if_true,
        List.lookup_cons]
      split
      · rfl
      · exact ih

theorem node?_set (fs : FileSystem) {loc : Location} (node : Node) (h : loc ≠ []) :
    (fs.set loc node).node? loc = some node := by
  simp [node?, set, h]

theorem node?_set_ne (fs : FileSystem) {loc other : Location} (node : Node) (h : other ≠ loc) :
    (fs.set loc node).node? other = fs.node? other := by
  have hb : (other == loc) = false := by simpa using h
  simp only [node?, set, erase, List.lookup_cons, hb, lookup_filter_ne _ h]

theorem node?_erase_ne (fs : FileSystem) {loc other : Location} (h : other ≠ loc) :
    (fs.erase loc).node? other = fs.node? other := by
  simp only [node?, erase, lookup_filter_ne _ h]

theorem node?_erase (fs : FileSystem) {loc : Location} (h : loc ≠ []) :
    (fs.erase loc).node? loc = none := by
  simp only [node?, h, if_false, erase]
  induction fs.entries with
  | nil => rfl
  | cons entry rest ih =>
    obtain ⟨key, node⟩ := entry
    by_cases hk : key = loc
    · simpa [hk] using ih
    · have : (loc == key) = false := by simpa using Ne.symm hk
      simpa [List.filter_cons, hk, List.lookup_cons, this] using ih

end FileSystem

end TerrainTiles
