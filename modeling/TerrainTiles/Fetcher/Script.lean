import TerrainTiles.Outcome
import TerrainTiles.World.Act

/-!
# Scripted fetchers

A scripted fetcher answers its fetches in order. Each answer may do anything to
the files and write the archive, and then fails or gives an outcome; after the
last one every fetch succeeds without writing anything.
-/

namespace TerrainTiles

structure ScriptStep where
  /-- What it does to the files before it writes the archive. -/
  effect : Path → FileSystem → FileSystem := fun _ files => files
  write : Option Bytes := none
  failure : Option Fault := none
  outcome : Outcome Unit := .success ()

structure Script where
  steps : List ScriptStep := []
  closeFailure : Option Fault := none

namespace Script

def describe (archiveName : String) : String := "fake://" ++ archiveName

def takeStep : Act Script ScriptStep := do
  let script ← Act.own
  match script.steps with
  | [] => return {}
  | step :: rest =>
    Act.modifyOwn fun script => { script with steps := rest }
    return step

def writeArchive (path : Path) (data : Bytes) : Act Script Unit := do
  Act.makeDirectories path.parent
  let file ← Act.createFile path
  Act.writeTo file data

def withPath (path : Path) : Outcome Unit → Outcome Path
  | .success () => .success path
  | .absent message cause => .absent message cause
  | .recoverable message cause => .recoverable message cause
  | .fatal message cause => .fatal message cause

def perform (path : Path) (step : ScriptStep) : Act Script Unit := do
  Act.setFiles (step.effect path (← Act.files))
  match step.write with
  | some data => writeArchive path data
  | none => pure ()

def answer (path : Path) (step : ScriptStep) : Act Script (Outcome Path) :=
  match step.failure with
  | some fault => Act.fail fault
  | none => return withPath path step.outcome

def fetch (path : Path) : Act Script (Outcome Path) := do
  Act.emit (.scriptFetched path)
  let step ← takeStep
  perform path step
  answer path step

def close : Act Script Unit := do
  Act.emit .scriptClosed
  let script ← Act.own
  match script.closeFailure with
  | some fault => Act.fail fault
  | none => pure ()

end Script

end TerrainTiles
