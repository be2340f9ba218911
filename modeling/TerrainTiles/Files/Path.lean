import TerrainTiles.Text.Quoted
import TerrainTiles.Text.Split

/-!
# Paths

A path is an anchor and a list of names. Reading a path drops empty and `.`
names and keeps `..`; exactly two leading slashes are an anchor of their own.
The suffix of a name starts at its last dot, unless that dot is the first or the
last character.
-/

namespace TerrainTiles

inductive Anchor where
  | relative
  | root
  | doubleRoot
  deriving DecidableEq, Repr

def Anchor.text : Anchor → String
  | relative => ""
  | root => "/"
  | doubleRoot => "//"

structure Path where
  anchor : Anchor
  names : List String
  deriving DecidableEq, Repr

inductive NamingError where
  | nameless (path : String)
  | badName (name : String)
  deriving DecidableEq, Repr

def NamingError.message : NamingError → String
  | nameless path => s!"PosixPath({Text.quoted path}) has an empty name"
  | badName name => "Invalid name " ++ Text.quoted name

namespace Path

-- ---------------------------------------------------------------------------
-- Reading and writing
-- ---------------------------------------------------------------------------

def splitAnchor : List Char → Anchor × List Char
  | '/' :: '/' :: '/' :: rest => (.root, rest)
  | '/' :: '/' :: rest => (.doubleRoot, rest)
  | '/' :: rest => (.root, rest)
  | cs => (.relative, cs)

def namesOf (cs : List Char) : List String :=
  ((Text.splitAt '/' cs).filter fun name => name ≠ [] ∧ name ≠ ['.']).map String.ofList

def parse (text : String) : Path :=
  let (anchor, rest) := splitAnchor text.toList
  ⟨anchor, namesOf rest⟩

/-- Names joined by slashes; the empty relative path is a dot. -/
def text (path : Path) : String :=
  match path.anchor, path.names with
  | .relative, [] => "."
  | anchor, names => anchor.text ++ "/".intercalate names

instance : ToString Path := ⟨text⟩

-- ---------------------------------------------------------------------------
-- Parts of a path
-- ---------------------------------------------------------------------------

/-- The last name; empty for an anchor alone. -/
def name (path : Path) : String := path.names.getLast?.getD ""

def parent (path : Path) : Path := { path with names := path.names.dropLast }

/-- The stem and the suffix, which has its dot. -/
def splitSuffix (name : List Char) : List Char × List Char :=
  match Text.splitLast? '.' name with
  | some (before, after) =>
    if before = [] ∨ after = [] then (name, []) else (before, '.' :: after)
  | none => (name, [])

def stem (path : Path) : String := String.ofList (splitSuffix path.name.toList).1

def suffix (path : Path) : String := String.ofList (splitSuffix path.name.toList).2

-- ---------------------------------------------------------------------------
-- Building paths
-- ---------------------------------------------------------------------------

/-- `child` below `path`, or `child` itself if it is anchored. -/
def join (path child : Path) : Path :=
  match child.anchor with
  | .relative => { path with names := path.names ++ child.names }
  | _ => child

instance : HDiv Path String Path := ⟨fun path child => path.join (parse child)⟩

/-- A text that names exactly one entry of a directory. -/
def isName (name : String) : Bool :=
  let cs := name.toList
  cs.getLast? ≠ some '/' && cs.head? ≠ some '/' && (namesOf cs).length = 1

def withName (path : Path) (name : String) : Except NamingError Path :=
  if path.name = "" then .error (.nameless path.text)
  else if isName name then .ok { path with names := path.names.dropLast ++ [name] }
  else .error (.badName name)

theorem text_parse_dot : (Path.mk .relative []).text = "." := rfl

theorem name_withName {path new : Path} {name : String} (h : path.withName name = .ok new) :
    new.name = name := by
  unfold withName at h
  split at h
  · simp at h
  · split at h
    · cases h; simp [Path.name]
    · simp at h

theorem parent_withName {path new : Path} {name : String} (h : path.withName name = .ok new) :
    new.parent = path.parent := by
  unfold withName at h
  split at h
  · simp at h
  · split at h
    · cases h; simp [Path.parent]
    · simp at h

end Path

end TerrainTiles
