import TerrainTiles.Decimal.Layout
import TerrainTiles.Fault.Report
import TerrainTiles.Files.FileSystem
import TerrainTiles.Text.Integer
import TerrainTiles.Text.Template.Error

/-!
# Faults

Everything that can go wrong, one constructor for each cause. `Fault.message` has
the wording, `Fault.kind` the family, and the predicates say how a fault is
treated. What a transport or another component reports is carried along
unchanged.
-/

namespace TerrainTiles

inductive Fault where
  | reported (report : Report)
  | file (error : FileError)
  -- Text that stands for something else.
  | template (error : Text.TemplateError)
  | naming (error : NamingError)
  | integer (error : Text.IntegerError)
  -- Archives and rasters.
  | notArchive (path : String)
  | notZip
  | badZip (reason : String)
  | badChecksum (entry : String)
  | unsupported (feature : String)
  | invalidText
  | entryMissing (archive entry archiveName : String)
  | unreadableRaster
  | degenerateTransform
  | nanCell
  | infiniteCell
  | unknownMethod (name : String)
  | disposed (tile : String)
  -- Transfers.
  | httpStatus (client : Bool) (status : Int) (reason : Option String) (url : String)
  | sizeMismatch (url declared : String) (received : Nat)
  | sessionClosed (host : String)
  -- Requests.
  | unknownSource (name : String)
  | outsideCoverage (source : String) (lon lat : Double)
  | invalidInterpolation (name : String)
  | acquisition (tile : String) (cause : Option Fault)
  -- Answers.
  | shortList

/-- The identifiers of the shipped sources, in order. -/
def sourceNames : List String := ["srtm3", "srtm3_ftp", "srtm1"]

def interpolationNames : List String := ["nearest", "bilinear"]

namespace Fault

def kind : Fault → Kind
  | reported report => report.kind
  | file e => match e.code with
    | .notFound => .notFound
    | .occupied => .occupied
    | .notDirectory => .notDirectory
    | .isDirectory => .isDirectory
    | .nullCharacter => .value
  | template e => match e.family with
    | .value => .value
    | .key => .key
    | .index => .index
    | .attribute => .attribute
    | .type => .type
  | notZip | badZip _ | badChecksum _ => .badArchive
  | unsupported _ => .notImplemented
  | entryMissing .. => .malformedArchive
  | unreadableRaster | sizeMismatch .. => .os
  | degenerateTransform => .notInvertible
  | infiniteCell => .overflow
  | shortList => .index
  | disposed _ | sessionClosed _ => .runtime
  | httpStatus .. => .http .status
  | acquisition .. => .acquisition
  | naming _ | integer _ | invalidText | notArchive _ | nanCell | unknownMethod _ | unknownSource _
  | outsideCoverage .. | invalidInterpolation _ => .value

def coordinate (x : Double) : String := Layout.message.write x

def message : Fault → String
  | reported report => report.message
  | file e => e.message
  | template e => e.message
  | naming e => e.message
  | integer e => e.message
  | notArchive path => s!"{path} is not a zip archive"
  | notZip => "File is not a zip file"
  | badZip reason => reason
  | badChecksum entry => "Bad CRC-32 for file " ++ Text.quoted entry
  | unsupported feature => feature
  | invalidText => "invalid UTF-8"
  | entryMissing _ entry archiveName => s!"Entry '{entry}' not found in zip file {archiveName}"
  | unreadableRaster => "not a readable raster"
  | degenerateTransform => "Cannot invert degenerate transform"
  | nanCell => "cannot convert float NaN to integer"
  | infiniteCell => "cannot convert float infinity to integer"
  | unknownMethod name => "Unknown interpolation: " ++ name
  | disposed tile => s!"Tile {tile} has been disposed"
  | httpStatus client status reason url =>
    let side := if client then "Client" else "Server"
    let shown := reason.getD "None"
    s!"{status} {side} Error: {shown} for url: {url}"
  | sizeMismatch url declared received =>
    s!"Size mismatch for {url}: expected {declared} bytes, got {received}"
  | sessionClosed host => s!"FTP session to {host} is not open"
  | unknownSource name =>
    s!"Unknown tile source '{name}'. Available: " ++ ", ".intercalate sourceNames
  | outsideCoverage source lon lat =>
    s!"{source} does not cover ({coordinate lon}, {coordinate lat})"
  | invalidInterpolation name =>
    s!"Invalid interpolation '{name}'. Available: " ++ ", ".intercalate interpolationNames
  | acquisition tile _ => s!"Tile {tile} cannot be acquired: remote source unreachable"
  | shortList => "list index out of range"

-- ---------------------------------------------------------------------------
-- How a fault is treated
-- ---------------------------------------------------------------------------

def isOS (fault : Fault) : Bool := fault.kind.isOS

def isTransient (fault : Fault) : Bool := fault.kind.isTransient

def isFtp (fault : Fault) : Bool := fault.kind.isFtp

def number? : Fault → Option Int
  | reported report => report.number?
  | file e => e.code.number?.map Int.ofNat
  | _ => none

/-- The remote host cannot be reached. -/
def isSocket (fault : Fault) : Bool :=
  fault.kind.isSocket || (fault.isOS && fault.number?.any Kind.isUnreachableNumber)

end Fault

/-- Fails with a fault if a condition holds. -/
def failIf (condition : Prop) [Decidable condition] (fault : Fault) : Except Fault Unit :=
  if condition then .error fault else .ok ()

theorem failIf_eq_error {condition : Prop} [Decidable condition] {fault other : Fault} :
    failIf condition fault = .error other ↔ condition ∧ fault = other := by
  unfold failIf
  split <;> simp_all

theorem bind_eq_ok {α β : Type} {act : Except Fault α} {next : α → Except Fault β} {b : β} :
    act >>= next = .ok b ↔ ∃ a, act = .ok a ∧ next a = .ok b := by
  cases act <;> simp [bind, Except.bind]

theorem toOption_eq_some {α ε : Type} {x : Except ε α} {a : α} :
    x.toOption = some a ↔ x = .ok a := by
  cases x <;> simp [Except.toOption]

end TerrainTiles
