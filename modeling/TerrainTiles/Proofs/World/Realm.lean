import TerrainTiles.Proofs.Files.Site
import TerrainTiles.Outcome
import TerrainTiles.Proofs.World.Frame

/-!
# Parts of the world

A realm is a subdirectory of a site and some channels: what belongs to one owner.
Two worlds are twins for a realm if they cannot be told apart within it.

`Confined r Q V act act'` is about two runs from worlds that are twins, with own
states related by `Q`: they end alike, with values related by `V` or with the same
fault; the worlds are twins afterwards and the own states related again; and the
run changes nothing outside of the realm (`Beside`). So what is confined to one
realm is not noticed in another (`Twin.of_beside`). It is closed under the ways to
build actions, as `Keeps` is.
-/

namespace TerrainTiles

structure Realm where
  site : Site
  id : String
  entry : Path.IsEntry id
  lines : Channel → Prop

namespace Realm

variable {r other : Realm} {world world' left left' later : World} {channel : Channel}

def file (r : Realm) (name : String) : Path := r.site.path [r.id, name]

/-- Worlds that look alike from the realm. A decoder that keeps count of what it is
asked would carry news from one realm to another. -/
structure Twin (r : Realm) (world world' : World) : Prop where
  files : r.site.Agrees r.id world.files world'.files
  decoder : world'.decoder = world.decoder
  deterministic : ∃ f, world.decoder = .deterministic f
  replies : ∀ channel, r.lines channel → world'.replies channel = world.replies channel
  servers : ∀ channel, r.lines channel → world'.servers channel = world.servers channel

structure Beside (r : Realm) (world left : World) : Prop where
  files : r.site.Beside r.id world.files left.files
  decoder : left.decoder = world.decoder
  replies : ∀ channel, ¬ r.lines channel → left.replies channel = world.replies channel
  servers : ∀ channel, ¬ r.lines channel → left.servers channel = world.servers channel

theorem Beside.refl (world : World) : r.Beside world world :=
  ⟨.same, rfl, fun _ _ => rfl, fun _ _ => rfl⟩

theorem Beside.trans (h : r.Beside world left) (h' : r.Beside left later) :
    r.Beside world later :=
  ⟨h.files.trans h'.files, h'.decoder.trans h.decoder,
    fun channel hc => (h'.replies channel hc).trans (h.replies channel hc),
    fun channel hc => (h'.servers channel hc).trans (h.servers channel hc)⟩

theorem Twin.refl (h : r.Twin world world') (hsite : other.site = r.site) :
    other.Twin world world :=
  ⟨hsite ▸ h.files.refl other.id, rfl, h.deterministic, fun _ _ => rfl, fun _ _ => rfl⟩

theorem Twin.symm (h : r.Twin world world') : r.Twin world' world :=
  ⟨h.files.symm, h.decoder.symm, h.decoder ▸ h.deterministic,
    fun channel hc => (h.replies channel hc).symm, fun channel hc => (h.servers channel hc).symm⟩

theorem Twin.withFiles (h : r.Twin world world') {files files' : FileSystem}
    (hf : r.site.Agrees r.id files files') :
    r.Twin (world.withFiles files) (world'.withFiles files') :=
  ⟨hf, h.decoder, h.deterministic, h.replies, h.servers⟩

theorem Beside.withFiles {files : FileSystem} (h : r.site.Beside r.id world.files files) :
    r.Beside world (world.withFiles files) := ⟨h, rfl, fun _ _ => rfl, fun _ _ => rfl⟩

theorem Twin.record (h : r.Twin world world') (event event' : Event) :
    r.Twin (world.record event) (world'.record event') :=
  ⟨h.files, h.decoder, h.deterministic, h.replies, h.servers⟩

theorem Beside.record (world : World) (event : Event) : r.Beside world (world.record event) :=
  ⟨.same, rfl, fun _ _ => rfl, fun _ _ => rfl⟩

/-- Owners of different subdirectories of a site who share no channel. -/
structure Apart (r other : Realm) : Prop where
  site : other.site = r.site
  id : other.id ≠ r.id
  lines : ∀ channel, r.lines channel → ¬ other.lines channel

theorem Twin.of_beside (h : r.Twin world world') (hbeside : other.Beside world left)
    (ha : r.Apart other) : r.Twin left world' := by
  have hfiles := hbeside.files
  rw [ha.site] at hfiles
  exact ⟨h.files.of_beside hfiles ha.id, h.decoder.trans hbeside.decoder.symm,
    hbeside.decoder ▸ h.deterministic,
    fun channel hc => (h.replies channel hc).trans
      (hbeside.replies channel (ha.lines channel hc)).symm,
    fun channel hc => (h.servers channel hc).trans
      (hbeside.servers channel (ha.lines channel hc)).symm⟩

theorem Twin.nextReply (h : r.Twin world world') (hc : r.lines channel) :
    (world'.nextReply channel).1 = (world.nextReply channel).1 ∧
      r.Twin (world.nextReply channel).2 (world'.nextReply channel).2 ∧
      r.Beside world (world.nextReply channel).2 := by
  unfold World.nextReply
  rw [h.replies channel hc]
  cases world.replies channel with
  | nil => exact ⟨rfl, h, .refl world⟩
  | cons reply rest =>
    refine ⟨rfl, ⟨h.files, h.decoder, h.deterministic, fun other ho => ?_, h.servers⟩,
      ⟨.same, rfl, fun other ho => ?_, fun _ _ => rfl⟩⟩
    · by_cases heq : other = channel <;> simp [World.update, heq, h.replies other ho]
    · have hne : other ≠ channel := fun heq => ho (heq ▸ hc)
      simp [World.update, hne]

theorem Twin.nextServer (h : r.Twin world world') (hc : r.lines channel) :
    (world'.nextServer channel).1 = (world.nextServer channel).1 ∧
      r.Twin (world.nextServer channel).2 (world'.nextServer channel).2 ∧
      r.Beside world (world.nextServer channel).2 := by
  unfold World.nextServer
  rw [h.servers channel hc]
  rcases world.servers channel with _ | ⟨server, _ | ⟨next, rest⟩⟩
  · exact ⟨rfl, h, .refl world⟩
  · exact ⟨rfl, h, .refl world⟩
  · refine ⟨rfl, ⟨h.files, h.decoder, h.deterministic, h.replies, fun other ho => ?_⟩,
      ⟨.same, rfl, fun _ _ => rfl, fun other ho => ?_⟩⟩
    · by_cases heq : other = channel <;> simp [World.update, heq, h.servers other ho]
    · have hne : other ≠ channel := fun heq => ho (heq ▸ hc)
      simp [World.update, hne]

end Realm

-- ---------------------------------------------------------------------------
-- Actions
-- ---------------------------------------------------------------------------

namespace Act

variable {r : Realm} {σ τ α β : Type} {Q : σ → σ → Prop} {V : α → α → Prop} {W : β → β → Prop}
  {act act' : Act σ α} {next next' : α → Act σ β} {name : String}

inductive Ends (V : α → α → Prop) : Except Fault α → Except Fault α → Prop
  | ok {a a' : α} (h : V a a') : Ends V (.ok a) (.ok a')
  | error (fault : Fault) : Ends V (.error fault) (.error fault)

theorem Ends.mono {V' : α → α → Prop} {result result' : Except Fault α}
    (h : Ends V result result') (hv : ∀ a a', V a a' → V' a a') : Ends V' result result' := by
  cases h with
  | ok ha => exact .ok (hv _ _ ha)
  | error fault => exact .error fault

theorem Ends.refl (hv : ∀ a, V a a) (result : Except Fault α) : Ends V result result := by
  cases result with
  | ok a => exact .ok (hv a)
  | error fault => exact .error fault

theorem Ends.eq {result result' : Except Fault α} (h : Ends Eq result result') :
    result' = result := by
  cases h with
  | ok ha => rw [ha]
  | error fault => rfl

theorem Ends.map {result result' : Except Fault α} (h : Ends V result result') {f f' : α → β}
    (hf : ∀ a a', V a a' → W (f a) (f' a')) : Ends W (result.map f) (result'.map f') := by
  cases h with
  | ok ha => exact .ok (hf _ _ ha)
  | error fault => exact .error fault

/-- What two runs that started in twin worlds have come to; the first one in `world`. -/
structure Parallel (r : Realm) (Q : σ → σ → Prop) (V : α → α → Prop) (world : World)
    (run run' : Except Fault α × (σ × World)) : Prop where
  ends : Ends V run.1 run'.1
  own : Q run.2.1 run'.2.1
  twin : r.Twin run.2.2 run'.2.2
  beside : r.Beside world run.2.2

theorem Parallel.map {world : World} {run run' : Except Fault α × (σ × World)}
    (h : Parallel r Q V world run run') {f f' : α → β} (hf : ∀ a a', V a a' → W (f a) (f' a')) :
    Parallel r Q W world (run.1.map f, run.2) (run'.1.map f', run'.2) :=
  ⟨h.ends.map hf, h.own, h.twin, h.beside⟩

def Confined (r : Realm) (Q : σ → σ → Prop) (V : α → α → Prop) (act act' : Act σ α) : Prop :=
  ∀ s s', Q s.1 s'.1 → r.Twin s.2 s'.2 → Parallel r Q V s.2 (act.run s) (act'.run s')

namespace Confined

theorem mono {V' : α → α → Prop} (h : Confined r Q V act act') (hv : ∀ a a', V a a' → V' a a') :
    Confined r Q V' act act' := fun s s' hq ht =>
  ⟨(h s s' hq ht).ends.mono hv, (h s s' hq ht).own, (h s s' hq ht).twin, (h s s' hq ht).beside⟩

theorem pure {a a' : α} (h : V a a') : Confined r Q V (Pure.pure a : Act σ α) (Pure.pure a') :=
  fun s _ hq ht => ⟨.ok h, hq, ht, .refl s.2⟩

theorem fail (fault : Fault) : Confined r Q V (Act.fail fault : Act σ α) (Act.fail fault) :=
  fun s _ hq ht => ⟨.error fault, hq, ht, .refl s.2⟩

theorem ofExcept {result result' : Except Fault α} (h : Ends V result result') :
    Confined r Q V (Act.ofExcept result : Act σ α) (Act.ofExcept result') := by
  cases h with
  | ok h => exact pure h
  | error fault => exact fail fault

theorem bind (h : Confined r Q V act act')
    (h' : ∀ a a', V a a' → Confined r Q W (next a) (next' a')) :
    Confined r Q W (act >>= next) (act' >>= next') := by
  intro s s' hq ht
  obtain ⟨hends, hown, htwin, hbeside⟩ := h s s' hq ht
  rw [run_bind, run_bind]
  revert hends hown htwin hbeside
  rcases act.run s with ⟨result, t⟩
  rcases act'.run s' with ⟨result', t'⟩
  intro hends hown htwin hbeside
  cases hends with
  | ok ha =>
    obtain ⟨hends, hown, htwin, hbeside'⟩ := h' _ _ ha t t' hown htwin
    exact ⟨hends, hown, htwin, hbeside.trans hbeside'⟩
  | error fault => exact ⟨.error fault, hown, htwin, hbeside⟩

theorem attempt (h : Confined r Q V act act') :
    Confined r Q (Ends V) act.attempt act'.attempt := fun s s' hq ht =>
  ⟨.ok (h s s' hq ht).ends, (h s s' hq ht).own, (h s s' hq ht).twin, (h s s' hq ht).beside⟩

theorem own : Confined r Q Q (Act.own : Act σ σ) Act.own :=
  fun s _ hq ht => ⟨.ok hq, hq, ht, .refl s.2⟩

theorem modifyOwn {f f' : σ → σ} (h : ∀ s s', Q s s' → Q (f s) (f' s')) :
    Confined r Q Eq (Act.modifyOwn f) (Act.modifyOwn f') :=
  fun s _ hq ht => ⟨.ok rfl, h _ _ hq, ht, .refl s.2⟩

theorem focus {Q' : τ → τ → Prop} {get get' : τ → σ} {put put' : σ → τ → τ}
    (h : Confined r Q V act act') (hget : ∀ t t', Q' t t' → Q (get t) (get' t'))
    (hput : ∀ t t' s s', Q' t t' → Q s s' → Q' (put s t) (put' s' t')) :
    Confined r Q' V (Act.focus get put act) (Act.focus get' put' act') := by
  intro t t' hq ht
  obtain ⟨hends, hown, htwin, hbeside⟩ := h (get t.1, t.2) (get' t'.1, t'.2) (hget _ _ hq) ht
  rw [run_focus, run_focus]
  exact ⟨hends, hput _ _ _ _ hq hown, htwin, hbeside⟩

theorem emit (event event' : Event) :
    Confined r Q Eq (Act.emit event : Act σ Unit) (Act.emit event') :=
  fun s _ hq ht => ⟨.ok rfl, hq, ht.record event event', .record s.2 event⟩

-- ---------------------------------------------------------------------------
-- Files
-- ---------------------------------------------------------------------------

theorem files : Confined r Q (r.site.Agrees r.id) (Act.files : Act σ FileSystem) Act.files :=
  fun s _ hq ht => ⟨.ok ht.files, hq, ht, .refl s.2⟩

theorem makeDirectories (name : String) :
    Confined r Q Eq (Act.makeDirectories (r.file name).parent : Act σ Unit)
      (Act.makeDirectories (r.file name).parent) := by
  intro s s' hq ht
  obtain ⟨hresult, hagrees, hbeside⟩ := ht.files.makeDirectories r.entry
  rw [run_makeDirectories, run_makeDirectories, Realm.file, Site.parent_path, hresult]
  exact ⟨.refl (fun _ => rfl) _, hq, ht.withFiles hagrees, .withFiles hbeside⟩

def Within (r : Realm) (loc loc' : Location) : Prop :=
  loc' = loc ∧ ∃ base name, r.site.base? = some base ∧ loc = r.site.place base [r.id, name]

theorem createFile (hname : Path.IsEntry name) :
    Confined r Q (Within r) (Act.createFile (r.file name) : Act σ Location)
      (Act.createFile (r.file name)) := by
  intro s s' hq ht
  rw [Act.createFile, run_onFiles, run_onFiles, Realm.file]
  rcases ht.files.create r.entry hname with
    ⟨e, hcreate, hcreate'⟩ | ⟨base, left, left', hbase, hcreate, hcreate', hagrees, hbeside⟩
  · rw [hcreate, hcreate']
    exact ⟨.error _, hq, ht, .refl s.2⟩
  · rw [hcreate, hcreate']
    exact ⟨.ok ⟨rfl, base, name, hbase, rfl⟩, hq, ht.withFiles hagrees, .withFiles hbeside⟩

theorem writeTo {loc loc' : Location} (h : Within r loc loc') (chunk : Bytes) :
    Confined r Q Eq (Act.writeTo loc chunk : Act σ Unit) (Act.writeTo loc' chunk) := by
  intro s s' hq ht
  obtain ⟨rfl, base, name, hbase, rfl⟩ := h
  obtain ⟨hagrees, hbeside⟩ := ht.files.append hbase name chunk
  exact ⟨.ok rfl, hq, ht.withFiles hagrees, .withFiles hbeside⟩

theorem writeChunks {loc loc' : Location} (h : Within r loc loc') (chunks : List Bytes) :
    Confined r Q Eq (Act.writeChunks loc chunks : Act σ Unit) (Act.writeChunks loc' chunks) := by
  induction chunks with
  | nil => exact pure rfl
  | cons chunk rest ih => exact (writeTo h chunk).bind fun _ _ _ => ih

theorem unlink (hname : Path.IsEntry name) :
    Confined r Q Eq (Act.unlink (r.file name) : Act σ Unit) (Act.unlink (r.file name)) := by
  intro s s' hq ht
  rw [run_unlink, run_unlink, Realm.file]
  rcases ht.files.unlink r.entry hname with
    ⟨e, hunlink, hunlink'⟩ | ⟨left, left', hunlink, hunlink', hagrees, hbeside⟩
  · rw [hunlink, hunlink']
    exact ⟨.error _, hq, ht, .refl s.2⟩
  · rw [hunlink, hunlink']
    exact ⟨.ok rfl, hq, ht.withFiles hagrees, .withFiles hbeside⟩

theorem unpacker : Confined r Q Eq (Act.unpacker : Act σ Archive.Unpacker) Act.unpacker :=
  fun s _ hq ht => ⟨.ok (by rw [ht.decoder]), hq, ht, .refl s.2⟩

theorem decode (data : Option Bytes) (tile : String) :
    Confined r Q Eq (Act.decode data tile : Act σ (Option Tile)) (Act.decode data tile) := by
  intro s s' hq ht
  obtain ⟨f, hf⟩ := ht.deterministic
  have hkeeps : (s.2.decoder.decode data tile).2 = s.2.decoder := by
    rw [hf]
    cases data <;> rfl
  have hrun : ∀ t : σ × World, (Act.decode data tile).run t = ((t.2.decoder.decode data tile).1,
      t.1, { t.2 with decoder := (t.2.decoder.decode data tile).2 }) := fun _ => rfl
  rw [hrun, hrun, ht.decoder, hkeeps]
  exact ⟨.refl (fun _ => rfl) _, hq, ⟨ht.files, rfl, ht.deterministic, ht.replies, ht.servers⟩,
    ⟨.same, rfl, fun _ _ => rfl, fun _ _ => rfl⟩⟩

end Confined

end Act

def Outcome.Gives {α : Type} (value : α) (outcome outcome' : Outcome α) : Prop :=
  outcome' = outcome ∧ ∀ found, outcome = .success found → found = value

end TerrainTiles
