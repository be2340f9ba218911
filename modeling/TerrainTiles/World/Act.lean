import TerrainTiles.World.Basic

/-!
# Actions

An action runs on the state of one component and on the world, and ends with a
value or a fault; what it has changed by then stays changed either way. A
component acts inside another one by `focus`.
-/

namespace TerrainTiles

def Act (σ α : Type) : Type := σ × World → Except Fault α × (σ × World)

namespace Act

variable {σ τ α β : Type}

def run (act : Act σ α) (s : σ × World) : Except Fault α × (σ × World) := act s

protected def pure (a : α) : Act σ α := fun s => (.ok a, s)

protected def bind (act : Act σ α) (next : α → Act σ β) : Act σ β := fun s =>
  match act s with
  | (.ok a, s) => next a s
  | (.error fault, s) => (.error fault, s)

instance : Monad (Act σ) where
  pure := Act.pure
  bind := Act.bind

def fail (fault : Fault) : Act σ α := fun s => (.error fault, s)

def attempt (act : Act σ α) : Act σ (Except Fault α) := fun s =>
  let (result, s) := act s
  (.ok result, s)

def ofExcept : Except Fault α → Act σ α
  | .ok a => Act.pure a
  | .error fault => fail fault

-- ---------------------------------------------------------------------------
-- The component's own state
-- ---------------------------------------------------------------------------

def own : Act σ σ := fun s => (.ok s.1, s)

def modifyOwn (f : σ → σ) : Act σ Unit := fun (s, world) => (.ok (), f s, world)

def setOwn (s : σ) : Act σ Unit := modifyOwn fun _ => s

def focus (get : τ → σ) (put : σ → τ → τ) (act : Act σ α) : Act τ α := fun (t, world) =>
  let (result, s, world) := act (get t, world)
  (result, put s t, world)

-- ---------------------------------------------------------------------------
-- The world
-- ---------------------------------------------------------------------------

def emit (event : Event) : Act σ Unit := fun (s, world) => (.ok (), s, world.record event)

def files : Act σ FileSystem := fun s => (.ok s.2.files, s)

def setFiles (files : FileSystem) : Act σ Unit := fun (s, world) =>
  (.ok (), s, world.withFiles files)

/-- A file operation that leaves the files as they are when it fails. -/
def onFiles (operation : FileSystem → Except FileError (α × FileSystem)) : Act σ α :=
  fun (s, world) =>
    match operation world.files with
    | .ok (a, files) => (.ok a, s, world.withFiles files)
    | .error e => (.error (.file e), s, world)

def makeDirectories (path : Path) : Act σ Unit := fun (s, world) =>
  let (result, files) := world.files.makeDirectories path
  (result.mapError .file, s, world.withFiles files)

/-- Opens a file for writing; what it held is gone. -/
def createFile (path : Path) : Act σ Location := onFiles (·.create path)

def writeTo (file : Location) (chunk : Bytes) : Act σ Unit := fun (s, world) =>
  (.ok (), s, world.withFiles (world.files.append file chunk))

def writeChunks (file : Location) : List Bytes → Act σ Unit
  | [] => pure ()
  | chunk :: rest => do
    writeTo file chunk
    writeChunks file rest

def unlink (path : Path) : Act σ Unit := onFiles fun files => ((), ·) <$> files.unlink path

/-- How the entries of archives are unpacked. -/
def unpacker : Act σ Archive.Unpacker := fun s => (.ok s.2.decoder.unpacker, s)

/-- Asks the decoder for a tile; the data is `none` for a file that cannot be read. -/
def decode (data : Option Bytes) (tile : String) : Act σ (Option Tile) := fun (s, world) =>
  let (answer, decoder) := world.decoder.decode data tile
  (answer, s, { world with decoder })

-- ---------------------------------------------------------------------------
-- Small laws
-- ---------------------------------------------------------------------------

@[simp] theorem run_pure (a : α) (s : σ × World) :
    (pure a : Act σ α).run s = (.ok a, s) := rfl

@[simp] theorem run_fail (fault : Fault) (s : σ × World) :
    (fail fault : Act σ α).run s = (.error fault, s) := rfl

theorem run_bind (act : Act σ α) (next : α → Act σ β) (s : σ × World) :
    (act >>= next).run s = match act.run s with
      | (.ok a, s) => (next a).run s
      | (.error fault, s) => (.error fault, s) := rfl

@[simp] theorem run_attempt (act : Act σ α) (s : σ × World) :
    act.attempt.run s = (.ok (act.run s).1, (act.run s).2) := rfl

@[simp] theorem run_own (s : σ × World) : (own : Act σ σ).run s = (.ok s.1, s) := rfl

@[simp] theorem run_modifyOwn (f : σ → σ) (s : σ × World) :
    (modifyOwn f).run s = (.ok (), f s.1, s.2) := rfl

@[simp] theorem run_files (s : σ × World) : (files : Act σ _).run s = (.ok s.2.files, s) := rfl

@[simp] theorem run_unpacker (s : σ × World) :
    (unpacker : Act σ _).run s = (.ok s.2.decoder.unpacker, s) := rfl

@[simp] theorem run_emit (event : Event) (s : σ × World) :
    (emit event : Act σ Unit).run s = (.ok (), s.1, s.2.record event) := rfl

theorem run_focus (get : τ → σ) (put : σ → τ → τ) (act : Act σ α) (t : τ × World) :
    (focus get put act).run t =
      ((act.run (get t.1, t.2)).1, put (act.run (get t.1, t.2)).2.1 t.1,
        (act.run (get t.1, t.2)).2.2) := rfl

instance : LawfulMonad (Act σ) :=
  LawfulMonad.mk' (Act σ)
    (fun act => by
      funext s
      change Act.bind act (fun a => Act.pure (id a)) s = act s
      simp only [Act.bind, Act.pure, id]
      rcases act s with ⟨_ | _, _⟩ <;> rfl)
    (fun _ _ => rfl)
    (fun act f g => by
      funext s
      change Act.bind (Act.bind act f) g s = Act.bind act (fun a => Act.bind (f a) g) s
      simp only [Act.bind]
      rcases act s with ⟨_ | _, _⟩ <;> rfl)

end Act

end TerrainTiles
