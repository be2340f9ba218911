import TerrainTiles.CommandLine.Word
import TerrainTiles.Text.Integer

/-!
# Options

The options of the server: at most one mode, and the host and port for the HTTP
mode. Words take effect from left to right, so the first fault is the one that is
told, and help ends the reading. Words that nothing takes are left over, and told
only if everything else is in order. Two dashes attached to a switch as its value
leave the switch without one.
-/

namespace TerrainTiles.CommandLine

inductive Mode where
  | stdio
  | http
  deriving DecidableEq, Repr

def Mode.ofText : String → Except Misuse Mode
  | "stdio" => .ok .stdio
  | "http" => .ok .http
  | text => .error (.notMode text)

structure Options where
  mode : Option Mode := none
  host : Option String := some "localhost"
  port : Option Int := some 8004
  deriving DecidableEq, Repr

inductive Halt where
  | help
  | misuse (misuse : Misuse)
  deriving DecidableEq, Repr

namespace Options

def give (o : Options) (switch : Switch) (value : String) : Except Misuse Options :=
  match switch with
  | .help => .error (.unusedValue .help value)
  | .host => .ok { o with host := if value = "--" then none else some value }
  | .port =>
    if value = "--" then .ok { o with port := none }
    else match Text.readInteger value with
      | .ok port => .ok { o with port := some port }
      | .error _ => .error (.notInteger .port value)

/-- What is left of a cluster after its letters for help; none if they are all of it. -/
def unusedIn : List Char → Option (List Char)
  | ['h'] => none
  | 'h' :: rest => unusedIn rest
  | tail => some tail

def liftMisuse {α : Type} : Except Misuse α → Except Halt α
  | .ok a => .ok a
  | .error misuse => .error (.misuse misuse)

/-- Lets the words take effect and returns those left over. A divider is left
over unless the mode is still to come or is the word before it (`atMode`). -/
def take (o : Options) (atMode : Bool) : List Word → Except Halt (Options × List String)
  | [] => .ok (o, [])
  | .divider :: rest => do
    let (final, left) ← take o false rest
    return (final, if o.mode = none ∨ atMode then left else "--" :: left)
  | .plain text :: rest =>
    match o.mode with
    | none => do
      let mode ← liftMisuse (Mode.ofText text)
      take { o with mode := some mode } true rest
    | some _ => do
      let (final, left) ← take o false rest
      return (final, text :: left)
  | .unknown text :: rest => do
    let (final, left) ← take o false rest
    return (final, text :: left)
  | .cluster tail :: _ =>
    match unusedIn tail with
    | some value => .error (.misuse (.unusedValue .help (String.ofList value)))
    | none => .error .help
  | .switch switch (some value) :: rest => do
    take (← liftMisuse (o.give switch value)) false rest
  | .switch .help none :: _ => .error .help
  | .switch switch none :: .plain value :: rest => do
    take (← liftMisuse (o.give switch value)) false rest
  | .switch switch none :: _ => .error (.misuse (.missingValue switch))

def ofWords (words : List String) : Except Halt Options := do
  let read ← liftMisuse (readWords words)
  match ← take {} false read with
  | (o, []) => return o
  | (_, left) => .error (.misuse (.unrecognized left))

end Options

end TerrainTiles.CommandLine
