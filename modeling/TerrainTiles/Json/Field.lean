import TerrainTiles.Json.Basic
import TerrainTiles.Json.Numeral

/-!
# Reading fields

A reader takes a JSON value to a value of a type or says what is wrong and
where. Readers are lenient: text that holds a number and numbers that stand for
a truth value are taken. All problems of a record are collected, in the order of
its fields; members that no field takes come last.
-/

namespace TerrainTiles.Json

inductive ProblemKind where
  | missing
  | extra
  | notString
  | notInteger
  | integerSyntax
  | integerFraction
  | integerSize
  | notFinite
  | belowBound
  | notReal
  | realSyntax
  | notBool
  | boolSyntax
  | notList
  | notObject
  | notRecord
  deriving DecidableEq, Repr

structure Problem where
  location : List String
  kind : ProblemKind
  deriving DecidableEq, Repr

/-- A value, or every problem found on the way to it. -/
inductive Checked (α : Type) where
  | valid (a : α)
  | invalid (problems : List Problem)

namespace Checked

variable {α β : Type}

def problems : Checked α → List Problem
  | valid _ => []
  | invalid problems => problems

def map (f : α → β) : Checked α → Checked β
  | valid a => valid (f a)
  | invalid problems => invalid problems

/-- Problems of both sides are kept, in order. -/
def seq : Checked (α → β) → Checked α → Checked β
  | valid f, valid a => valid (f a)
  | f, a => invalid (f.problems ++ a.problems)

instance : Applicative Checked where
  pure := valid
  map := map
  seq f a := seq f (a ())

def fail (kind : ProblemKind) : Checked α := invalid [⟨[], kind⟩]

/-- Problems inside a part are located below the part. -/
def within (part : String) : Checked α → Checked α
  | valid a => valid a
  | invalid problems =>
    invalid (problems.map fun problem => { problem with location := part :: problem.location })

end Checked

abbrev Reader (α : Type) := Json → Checked α

-- ---------------------------------------------------------------------------
-- Scalars
-- ---------------------------------------------------------------------------

def readString : Reader String
  | string s => .valid s
  | _ => .fail .notString

def fitsWord (n : Int) : Bool := -0x8000000000000000 ≤ n && n < 0x8000000000000000

/-- Reals are taken for integers if they have no fraction and lie strictly
between the bounds of 64 bits. -/
def integerOfReal (x : Double) : Checked Int :=
  match x.floor? with
  | none => .fail .notFinite
  | some n =>
    if !x.eq (.ofInt n) then .fail .integerFraction
    else if fitsWord n && fitsWord (-n) then .valid n
    else .fail .integerSize

def readInteger : Reader Int
  | integer n => .valid n
  | bool b => .valid (if b then 1 else 0)
  | real x => integerOfReal x
  | string s => match Numeral.integer s with
    | .ok n => .valid n
    | .error .malformed => .fail .integerSyntax
    | .error .tooLong => .fail .integerSize
  | _ => .fail .notInteger

def readNatural : Reader Nat := fun value =>
  match readInteger value with
  | .valid n => if 0 ≤ n then .valid n.toNat else .fail .belowBound
  | .invalid problems => .invalid problems

def readReal : Reader Double
  | real x => .valid x
  | integer n =>
    let x : Double := .ofInt n
    if x.isFinite then .valid x else .fail .notReal
  | bool b => .valid (if b then 1 else 0)
  | string s => match Numeral.real? s with
    | some x => .valid x
    | none => .fail .realSyntax
  | _ => .fail .notReal

def truthWords : List (String × Bool) := [
  ("0", false), ("off", false), ("f", false), ("false", false), ("n", false), ("no", false),
  ("1", true), ("on", true), ("t", true), ("true", true), ("y", true), ("yes", true)]

/-- Zero and one stand for truth values. -/
def truthOf (n : Int) : Checked Bool :=
  if n = 0 then .valid false else if n = 1 then .valid true else .fail .boolSyntax

/-- A number that no 64 bits hold as an integer is not looked at. -/
def readBool : Reader Bool
  | bool b => .valid b
  | integer n => if fitsWord n then truthOf n else .fail .notBool
  | real x => match integerOfReal x with
    | .valid n => truthOf n
    | .invalid _ => .fail .notBool
  | string s => match truthWords.lookup (String.ofList (s.toList.map Char.toLower)) with
    | some b => .valid b
    | none => .fail .boolSyntax
  | _ => .fail .notBool

-- ---------------------------------------------------------------------------
-- Compounds
-- ---------------------------------------------------------------------------

def readNullable {α : Type} (read : Reader α) : Reader (Option α)
  | null => .valid none
  | value => (read value).map some

def readItems {α : Type} (read : Reader α) : Nat → List Json → Checked (List α)
  | _, [] => .valid []
  | index, item :: rest =>
    List.cons <$> (read item).within (toString index) <*> readItems read (index + 1) rest

def readList {α : Type} (read : Reader α) : Reader (List α)
  | array items => readItems read 0 items
  | _ => .fail .notList

def readMembers {α : Type} (read : Reader α) : List (String × Json) → Checked (List (String × α))
  | [] => .valid []
  | (key, value) :: rest =>
    List.cons <$> ((key, ·) <$> (read value).within key) <*> readMembers read rest

def readTable {α : Type} (read : Reader α) : Reader (List (String × α))
  | object members => readMembers read members
  | _ => .fail .notObject

/-- The members of an object that is read as a record. -/
abbrev Record := List (String × Json)

namespace Record

variable {α : Type}

def required (record : Record) (name : String) (read : Reader α) : Checked α :=
  match record.lookup name with
  | some value => (read value).within name
  | none => .invalid [⟨[name], .missing⟩]

def optional (record : Record) (name : String) (read : Reader α) : Checked (Option α) :=
  match record.lookup name with
  | some value => (readNullable read value).within name
  | none => .valid none

/-- Refuses members that are no fields. -/
def closed (record : Record) (fields : List String) : Checked Unit :=
  match (record.filter fun (key, _) => key ∉ fields).map fun (key, _) => ⟨[key], .extra⟩ with
  | [] => .valid ()
  | problems => .invalid problems

end Record

def readRecord {α : Type} (read : Record → Checked α) : Reader α
  | object members => read members
  | _ => .fail .notRecord

end TerrainTiles.Json
